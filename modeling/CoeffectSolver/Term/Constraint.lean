import CoeffectSolver.Term.Display
import CoeffectSolver.Term.Equality

/-!
Constraints: two types or two coeffects that are asserted to be the same.
-/

namespace CoeffectSolver

/-- Two types that are asserted to be the same type. -/
structure TypeConstraint where
  left : Ty
  right : Ty
  deriving DecidableEq

/-- Two coeffects that are asserted to denote the same requirement. -/
structure CoeffectConstraint where
  left : Coeffect
  right : Coeffect
  deriving DecidableEq

/-- Writes a constraint between types. -/
def TypeConstraint.display (constraint : TypeConstraint) : String :=
  constraint.left.display ++ " ~ " ++ constraint.right.display

/-- Writes a constraint between coeffects. -/
def CoeffectConstraint.display (constraint : CoeffectConstraint) : String :=
  constraint.left.display ++ " ~ " ++ constraint.right.display

/-- Whether two constraints between coeffects have the same sides. -/
def CoeffectConstraint.equal (first second : CoeffectConstraint) : Bool :=
  first.left.equal second.left && first.right.equal second.right

end CoeffectSolver
