import CoeffectSolver.Analysis.Basic
import CoeffectSolver.Term.Constraint

/-!
Problems: lists of type constraints to be solved under an analysis, and what is expected of them.
-/

namespace CoeffectSolver

/-- The outcome that a problem should have. -/
structure Expectation where
  /-- The kind of fault that solving should end with, or nothing. -/
  fault : String
  /-- How the shown types should be written, if that is stated. -/
  types : Option (List String)
  /-- How the assignments of type variables should be written. -/
  assigned : NameMap String
  /-- How the values of coeffect variables should be written. -/
  coeffects : NameMap String

/-- A list of type constraints to be solved under an analysis. -/
structure Problem where
  name : String
  analysis : Analysis
  constraints : List TypeConstraint
  /-- The types to be normalised once the constraints are solved. -/
  shown : List Ty
  expectation : Option Expectation

end CoeffectSolver
