import CoeffectSolver.Checking

/-!
Solving in instalments.

A session keeps a substitution and the equalities between annotations found so far. Constraints can
be added at any time; constraints that cannot be unified leave the session as it was.
-/

namespace CoeffectSolver

/-- What has been found so far. -/
structure Session where
  assigned : Substitution
  equalities : List CoeffectConstraint

namespace Session

/-- The session in which nothing has been found. -/
def start : Session := { assigned := NameMap.empty, equalities := [] }

/-- What can be asked of a session. -/
inductive Command where
  /-- Unify further constraints. -/
  | unify (constraints : List TypeConstraint)
  /-- Replace the assigned variables of a type. -/
  | apply (type : Ty)
  /-- Solve the equalities under a named analysis, and normalise a type if one is given. -/
  | solve (analysis : String) (type : Option Ty)

/-- What a session answers. -/
inductive Answer where
  | unified (assigned : Substitution) (equalities : List CoeffectConstraint)
  | applied (type : Ty)
  | solved (assigned : List (String × Coeffect)) (normalised : Option (Except Failure Ty))
  | failed (failure : Failure)

/-- Solves the equalities of a session under a named analysis. -/
def solve (session : Session) (analysisName : String) : Except Failure Solution := do
  let analysis ← Analysis.ofName analysisName
  (analysis.solve session.equalities).mapError .fault

/-- Carries out one command. -/
def perform (session : Session) : Command → Session × Answer
  | .unify constraints =>
      match CoeffectSolver.unify constraints session.assigned session.equalities with
      | .ok unified =>
          ({ assigned := unified.assigned, equalities := unified.equalities },
            .unified unified.assigned unified.equalities)
      | .error fault => (session, .failed (.fault fault))
  | .apply type => (session, .applied (session.assigned.apply type))
  | .solve analysisName type =>
      match session.solve analysisName with
      | .error failure => (session, .failed failure)
      | .ok solution =>
          let normalised := type.map fun type =>
            (normalise solution.display session.assigned type).mapError .fault
          (session, .solved solution.assigned normalised)

/-- Carries out commands one after the other and collects the answers. -/
def performAll (session : Session) : List Command → List Answer
  | [] => []
  | command :: rest =>
      let (next, answer) := session.perform command
      answer :: next.performAll rest

end Session
end CoeffectSolver
