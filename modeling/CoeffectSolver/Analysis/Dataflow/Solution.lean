import CoeffectSolver.Analysis.Dataflow.Evaluation
import CoeffectSolver.Iteration.FixedPoint
import CoeffectSolver.Names.Partition

/-!
Solving for numbers of past values.

Constraints with an unconstrained side are skipped. Constraints between two variables, and between a
merge of two variables and a third, make all their variables equivalent. Every other constraint has
to have a variable on one side, where a merge of two variables stands for the first of them; the
value of the other side is then written to that variable and its equivalents. All constraints are
applied in turn until the assignment stops changing.
-/

namespace CoeffectSolver.Dataflow

/-- Whether a constraint is skipped. -/
def isSkipped (constraint : CoeffectConstraint) : Bool :=
  constraint.left.isUnconstrained || constraint.right.isUnconstrained

/-- The pairs of variables that a constraint makes equivalent, if it relates variables only. -/
def links? (constraint : CoeffectConstraint) : Option (List (String × String)) :=
  match constraint.left, constraint.right with
  | .var first, .var second => some [(first, second)]
  | .merge (.var first) (.var second), .var third => some [(first, second), (first, third)]
  | .var third, .merge (.var first) (.var second) => some [(first, second), (first, third)]
  | _, _ => none

/-- The pairs of equivalent variables, in the order of the constraints. -/
def links (constraints : List CoeffectConstraint) : List (String × String) :=
  ((constraints.filter (fun constraint => !isSkipped constraint)).filterMap links?).flatten

/-- The constraints that are neither skipped nor relate variables only. -/
def remaining (constraints : List CoeffectConstraint) : List CoeffectConstraint :=
  constraints.filter (fun constraint => !isSkipped constraint && (links? constraint).isNone)

/-- A constraint that writes the value of a coeffect to a variable. -/
structure Oriented where
  target : String
  value : Coeffect
  deriving DecidableEq

/-- A merge of two variables stands for the first of them. -/
def representative : Coeffect → Coeffect
  | .merge (.var first) (.var _) => .var first
  | coeffect => coeffect

/-- Finds the variable side of a constraint, on the left first. -/
def Oriented.of? (constraint : CoeffectConstraint) : Option Oriented :=
  match representative constraint.left, representative constraint.right with
  | .var target, value => some { target, value }
  | value, .var target => some { target, value }
  | _, _ => none

/-- How an unsolvable constraint is announced. -/
def invalidLabel : String := "invalid dataflow constraint"

/-- Finds the variable side of a constraint, or reports that it has none. -/
def orient (constraint : CoeffectConstraint) : Except Fault Oriented :=
  match Oriented.of? constraint with
  | some oriented => .ok oriented
  | none => .error (.invalidConstraint invalidLabel constraint.left constraint.right)

/-- The oriented constraints of a list, all of which are looked at before any is applied. -/
def plan (constraints : List CoeffectConstraint) : Except Fault (List Oriented) :=
  (remaining constraints).mapM orient

/-- Applies one constraint. -/
def applyOriented (classes : Partition) (assignment : Assignment) (oriented : Oriented) :
    Except Fault Assignment := do
  let value ← evaluate assignment oriented.value
  pure (classes.assign oriented.target value assignment)

/-- Applies every constraint once, each to what those before it left. -/
def pass (classes : Partition) (constraints : List Oriented) (assignment : Assignment) :
    Except Fault Assignment :=
  constraints.foldlM (applyOriented classes) assignment

/-- Whether two assignments give the same variables the same numbers. -/
def agree (first second : Assignment) : Bool :=
  first.agreesBy (fun value value' => decide (value = value')) second

/-- What was found for a list of constraints: the number of each assigned variable. -/
structure Solution where
  assignment : Assignment

/-- Solves constraints for numbers of past values. -/
def solve (constraints : List CoeffectConstraint) : Except Fault Solution :=
  match plan constraints with
  | .error fault => .error fault
  | .ok oriented =>
      let classes := Partition.ofPairs (links constraints)
      let run := Iteration.run agree (pass classes oriented) Iteration.defaultFuel NameMap.empty
      match run.halt with
      | .settled => .ok { assignment := run.state }
      | .failed fault => .error fault
      | .exhausted => .error (.nonTermination "dataflow solving" Iteration.defaultFuel)

namespace Solution

/-- The number of a variable, if it was assigned. -/
def value? (solution : Solution) (name : String) : Option UInt64 := solution.assignment.get? name

/-- The value of a coeffect, written as a coeffect again. -/
def display (solution : Solution) (coeffect : Coeffect) : Except Fault Coeffect := do
  let value ← evaluate solution.assignment coeffect
  pure (.past value)

/-- The assigned variables in ascending order, each with its number written as a coeffect. -/
def assigned (solution : Solution) : List (String × Coeffect) :=
  solution.assignment.entries.map fun entry => (entry.1, .past entry.2)

end Solution
end CoeffectSolver.Dataflow
