import CoeffectSolver.Fault.Basic
import CoeffectSolver.Names.NameMap

/-!
Coeffects read as sets of implicit parameters.

A parameter requires itself; composing two computations in any way requires what either requires.
Numbers of past values and missing terms have no such reading.
-/

namespace CoeffectSolver.Implicit

/-- The implicit parameters that coeffect variables stand for. -/
abbrev Assignment := NameMap NameSet

/-- The parameters of a variable; an unassigned variable requires nothing. -/
def Assignment.value (assignment : Assignment) (name : String) : NameSet :=
  (assignment.get? name).getD ∅

/-- The implicit parameters that a coeffect requires. -/
def evaluate (assignment : Assignment) : Coeffect → Except Fault NameSet
  | .use => .ok ∅
  | .ignore => .ok ∅
  | .param name _ => .ok (NameSet.singleton name)
  | .var name => .ok (assignment.value name)
  | .merge left right => do
      let first ← evaluate assignment left
      let second ← evaluate assignment right
      pure (first.union second)
  | .split left right => do
      let first ← evaluate assignment left
      let second ← evaluate assignment right
      pure (first.union second)
  | .seq left right => do
      let first ← evaluate assignment left
      let second ← evaluate assignment right
      pure (first.union second)
  | .absent => .error (.unexpected (.notParameters .absent))
  | .unconstrained => .error (.unexpected (.notParameters .unconstrained))
  | .past steps => .error (.unexpected (.notParameters (.past steps)))

end CoeffectSolver.Implicit
