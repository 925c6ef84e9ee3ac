import CoeffectSolver.Fault.Basic
import CoeffectSolver.Iteration.FixedPoint
import CoeffectSolver.Iteration.Worklist
import CoeffectSolver.Unification.Substitution

/-!
Unification of types by a worklist.

Each step takes one pair of types, binds a variable, drops the pair, replaces it by the pairs of its
parts, or reports a mismatch. Where two arrows or two comonadic types meet, their annotations are
not unified but recorded as equalities, for an analysis to solve.
-/

namespace CoeffectSolver

namespace Unifier

/-- A pair of types left to unify, and the given constraint it stems from. -/
structure Pending where
  left : Ty
  right : Ty
  origin : TypeConstraint
  deriving DecidableEq

/-- The progress of unification. -/
structure State where
  /-- What variables stand for so far. -/
  assigned : Substitution
  /-- The equalities between annotations found so far, oldest first. -/
  equalities : Array CoeffectConstraint
  /-- The pairs left to unify. -/
  work : Worklist Pending

/-- A pair that replaces another one and stems from the same constraint. -/
def Pending.successor (pending : Pending) (left right : Ty) : Pending :=
  { left, right, origin := pending.origin }

/-- Whether a pair is still the constraint it stems from. -/
def Pending.isOrigin (pending : Pending) : Bool :=
  pending.left.equal pending.origin.left && pending.right.equal pending.origin.right

/-- The mismatch reported for a pair, which names the constraint if the pair is only part of it. -/
def Pending.mismatch (pending : Pending) (remarks : List MismatchRemark) : Fault :=
  .typeMismatch pending.left pending.right
    (if pending.isOrigin then remarks else remarks ++ [.inConstraint pending.origin])

namespace State

/-- Replaces the current pair by pairs that are handled next, in the order given. -/
def schedule (state : State) (pairs : List Pending) : State :=
  { state with work := state.work.schedule pairs }

/-- Records an equality between annotations. -/
def record (state : State) (left right : Coeffect) : State :=
  { state with equalities := state.equalities.push { left, right } }

/-- Binds a variable, unless it occurs in the type. -/
def bind (state : State) (pending : Pending) (name : String) (type : Ty) : Except Fault State :=
  if state.assigned.occursIn name type then
    .error (pending.mismatch [.occurs name type])
  else
    .ok { state with assigned := state.assigned.insert name type }

/-- Handles a pair of types neither of which is a variable. -/
def decompose (state : State) (pending : Pending) : Except Fault State :=
  if pending.left.equal pending.right then .ok state
  else
    match pending.left, pending.right with
    | .arrow declaration call argument result, .arrow declaration' call' argument' result' =>
        .ok (((state.record declaration declaration').record call call').schedule
          [pending.successor argument argument', pending.successor result result'])
    | .tuple elements, .tuple elements' =>
        if elements.length = elements'.length then
          .ok (state.schedule (List.zipWith pending.successor elements elements'))
        else .error (pending.mismatch [])
    | .comonad requirement inner, .comonad requirement' inner' =>
        .ok ((state.record requirement requirement').schedule [pending.successor inner inner'])
    | _, _ => .error (pending.mismatch [])

/-- The type assigned to a type that is an assigned variable. -/
def assignment? (state : State) : Ty → Option Ty
  | .var name => state.assigned.get? name
  | _ => none

/-- Handles one pair. An assigned variable is followed by one hop, after which the other side stands
on the left. -/
def step (state : State) (pending : Pending) : Except Fault State :=
  match state.assignment? pending.left with
  | some held => .ok (state.schedule [pending.successor pending.right held])
  | none =>
      match state.assignment? pending.right with
      | some held => .ok (state.schedule [pending.successor pending.left held])
      | none =>
          match pending.left, pending.right with
          | .var name, .var name' =>
              if name = name' then .ok state else state.bind pending name (.var name')
          | .var name, type => state.bind pending name type
          | type, .var name => state.bind pending name type
          | _, _ => state.decompose pending

/-- Handles pairs until none is left. Each pair uses up one unit of fuel. -/
def run (budget : Nat) : (fuel : Nat) → State → Except Fault State
  | 0, state =>
      match state.work.pop? with
      | none => .ok state
      | some _ => .error (.nonTermination "type unification" budget)
  | fuel + 1, state =>
      match state.work.pop? with
      | none => .ok state
      | some (pending, rest) =>
          match step { state with work := rest } pending with
          | .error fault => .error fault
          | .ok next => run budget fuel next

end State

/-- The state in which constraints are about to be unified. -/
def initial (constraints : List TypeConstraint) (assigned : Substitution)
    (equalities : List CoeffectConstraint) : State where
  assigned := assigned
  equalities := equalities.toArray
  work := Worklist.ofList (constraints.map fun constraint =>
    { left := constraint.left, right := constraint.right, origin := constraint })

/-- The number of pairs that may be handled for a number of constraints. -/
def budget (constraints : List TypeConstraint) : Nat :=
  Iteration.defaultFuel * (1 + constraints.length)

end Unifier

/-- What unification finds: a fully resolved substitution and the equalities between annotations. -/
structure Unified where
  assigned : Substitution
  equalities : List CoeffectConstraint
  deriving DecidableEq

/-- Unifies constraints, extending a substitution and a list of equalities between annotations. -/
def unify (constraints : List TypeConstraint) (assigned : Substitution)
    (equalities : List CoeffectConstraint) : Except Fault Unified :=
  let budget := Unifier.budget constraints
  match Unifier.State.run budget budget (Unifier.initial constraints assigned equalities) with
  | .error fault => .error fault
  | .ok final =>
      .ok { assigned := final.assigned.resolved, equalities := final.equalities.toList }

end CoeffectSolver
