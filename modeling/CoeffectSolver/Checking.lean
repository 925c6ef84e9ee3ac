import CoeffectSolver.Analysis.Basic
import CoeffectSolver.Unification.Normaliser
import CoeffectSolver.Unification.Unifier

/-!
Checking a list of type constraints: the types are unified, and the equalities between annotations
that this brings up are solved under an analysis. The first fault ends the check.
-/

namespace CoeffectSolver

/-- A solved list of constraints. -/
structure Checked where
  /-- What type variables stand for. -/
  assigned : Substitution
  /-- The equalities between annotations met while unifying. -/
  equalities : List CoeffectConstraint
  /-- What coeffect variables stand for. -/
  solution : Solution

/-- Solves a list of constraints between types under an analysis. -/
def check (analysis : Analysis) (constraints : List TypeConstraint) : Except Fault Checked := do
  let unified ← unify constraints NameMap.empty []
  let solution ← analysis.solve unified.equalities
  pure { assigned := unified.assigned, equalities := unified.equalities, solution }

/-- The normal form of a type under solved constraints. -/
def Checked.normalise (checked : Checked) (type : Ty) : Except Fault Ty :=
  CoeffectSolver.normalise checked.solution.display checked.assigned type

end CoeffectSolver
