import CoeffectSolver.Fault.Basic
import CoeffectSolver.Names.NameMap

/-!
Coeffects read as numbers of past values.

Merging takes the smaller of two numbers, splitting the larger and sequencing the sum, modulo the
size of a word. Implicit parameters and missing terms have no such reading.
-/

namespace CoeffectSolver.Dataflow

/-- The numbers of past values that coeffect variables stand for. -/
abbrev Assignment := NameMap UInt64

/-- The number of a variable; an unassigned variable needs no past value. -/
def Assignment.value (assignment : Assignment) (name : String) : UInt64 :=
  (assignment.get? name).getD 0

/-- The number of past values that a coeffect needs. -/
def evaluate (assignment : Assignment) : Coeffect → Except Fault UInt64
  | .use => .ok 0
  | .ignore => .ok 0
  | .past steps => .ok steps
  | .var name => .ok (assignment.value name)
  | .merge left right => do
      let first ← evaluate assignment left
      let second ← evaluate assignment right
      pure (if first ≤ second then first else second)
  | .split left right => do
      let first ← evaluate assignment left
      let second ← evaluate assignment right
      pure (if first ≤ second then second else first)
  | .seq left right => do
      let first ← evaluate assignment left
      let second ← evaluate assignment right
      pure (first + second)
  | .absent => .error (.unexpected (.notSteps .absent))
  | .unconstrained => .error (.unexpected (.notSteps .unconstrained))
  | .param name payload => .error (.unexpected (.notSteps (.param name payload)))

end CoeffectSolver.Dataflow
