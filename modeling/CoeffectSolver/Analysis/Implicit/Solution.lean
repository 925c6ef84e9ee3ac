import CoeffectSolver.Analysis.Implicit.Evaluation
import CoeffectSolver.Iteration.FixedPoint
import CoeffectSolver.Names.Partition

/-!
Solving for implicit parameters.

Constraints with an unconstrained side are skipped and constraints between two variables make the
variables equivalent. The others are read as rules that write one variable, together with its
equivalents, from the value of the right side:

* a variable gains the parameters of the right side;
* the second variable of a merge of two variables gets the parameters that the first does not
  provide;
* the variable of a split with a parameter gets all parameters but that one.

All rules are applied in turn until the assignment stops changing.
-/

namespace CoeffectSolver.Implicit

/-- Whether a constraint is skipped. -/
def isSkipped (constraint : CoeffectConstraint) : Bool :=
  constraint.left.isUnconstrained || constraint.right.isUnconstrained

/-- The two variables that a constraint makes equivalent. -/
def link? (constraint : CoeffectConstraint) : Option (String × String) :=
  match constraint.left, constraint.right with
  | .var first, .var second => some (first, second)
  | _, _ => none

/-- The pairs of equivalent variables, in the order of the constraints. -/
def links (constraints : List CoeffectConstraint) : List (String × String) :=
  (constraints.filter (fun constraint => !isSkipped constraint)).filterMap link?

/-- The constraints that are neither skipped nor make two variables equivalent. -/
def remaining (constraints : List CoeffectConstraint) : List CoeffectConstraint :=
  constraints.filter (fun constraint => !isSkipped constraint && (link? constraint).isNone)

/-- How a constraint determines a variable from the value of its right side. -/
inductive Rule where
  /-- The value is added to the variable. -/
  | grow (target : String)
  /-- The variable gets what another variable does not provide. -/
  | remainder (provider target : String)
  /-- The variable gets everything but one parameter. -/
  | allBut (parameter target : String)
  deriving DecidableEq, Repr

/-- The rule that the left side of a constraint stands for. -/
def Rule.ofLeft? : Coeffect → Option Rule
  | .var target => some (.grow target)
  | .merge (.var provider) (.var target) => some (.remainder provider target)
  | .split (.param parameter _) (.var target) => some (.allBut parameter target)
  | _ => none

/-- The variable that a rule writes. -/
def Rule.target : Rule → String
  | .grow target => target
  | .remainder _ target => target
  | .allBut _ target => target

/-- What a rule writes when the right side has a value. -/
def Rule.written (assignment : Assignment) (value : NameSet) : Rule → NameSet
  | .grow target => (assignment.value target).union value
  | .remainder provider _ => value.difference (assignment.value provider)
  | .allBut parameter _ => value.erase parameter

/-- How an unsolvable constraint is announced. -/
def invalidLabel : String := "invalid implicit parameter constraint"

/-- Applies one constraint. Its left side is looked at before its right side is evaluated. -/
def applyConstraint (classes : Partition) (assignment : Assignment)
    (constraint : CoeffectConstraint) : Except Fault Assignment :=
  match Rule.ofLeft? constraint.left with
  | none => .error (.invalidConstraint invalidLabel constraint.left constraint.right)
  | some rule => do
      let value ← evaluate assignment constraint.right
      pure (classes.assign rule.target (rule.written assignment value) assignment)

/-- Applies every constraint once, each to what those before it left. -/
def pass (classes : Partition) (constraints : List CoeffectConstraint) (assignment : Assignment) :
    Except Fault Assignment :=
  constraints.foldlM (applyConstraint classes) assignment

/-- Whether two assignments give the same variables the same parameters. -/
def agree (first second : Assignment) : Bool :=
  first.agreesBy (fun value value' => decide (value = value')) second

end CoeffectSolver.Implicit

namespace CoeffectSolver

/-- The payload types that the parameters of a coeffect carry, from left to right. -/
def Coeffect.payloads : Coeffect → List (String × Ty)
  | .param name payload =>
      match payload with
      | .absent => []
      | known => [(name, known)]
  | .merge left right => left.payloads ++ right.payloads
  | .split left right => left.payloads ++ right.payloads
  | .seq left right => left.payloads ++ right.payloads
  | _ => []

namespace Implicit

/-- What was found for a list of constraints. -/
structure Solution where
  /-- The parameters of each assigned variable. -/
  assignment : Assignment
  /-- The payload types of the parameters met in the constraints. -/
  payloads : List (String × Ty)

/-- The payload types met in a list of constraints, left sides before right sides. -/
def payloadsOf (constraints : List CoeffectConstraint) : List (String × Ty) :=
  constraints.flatMap fun constraint => constraint.left.payloads ++ constraint.right.payloads

/-- Solves constraints for implicit parameters. -/
def solve (constraints : List CoeffectConstraint) : Except Fault Solution :=
  let classes := Partition.ofPairs (links constraints)
  let run := Iteration.run agree (pass classes (remaining constraints))
    Iteration.defaultFuel NameMap.empty
  match run.halt with
  | .settled => .ok { assignment := run.state, payloads := payloadsOf constraints }
  | .failed fault => .error fault
  | .exhausted => .error (.nonTermination "implicit parameter solving" Iteration.defaultFuel)

namespace Solution

/-- The parameters of a variable, if it was assigned. -/
def value? (solution : Solution) (name : String) : Option NameSet := solution.assignment.get? name

/-- The first payload type that a list gives for a parameter, or no type. -/
def payloadIn (payloads : List (String × Ty)) (name : String) : Ty :=
  (NameMap.lookup name payloads).getD .absent

/-- A parameter with its payload type: the one at hand, or else the one met in the constraints. -/
def parameter (solution : Solution) (atHand : List (String × Ty)) (name : String) : Coeffect :=
  .param name (payloadIn (atHand ++ solution.payloads) name)

/-- A set of parameters as a coeffect: a left-nested merge in ascending order, or plain use. -/
def ofSet (solution : Solution) (atHand : List (String × Ty)) (members : NameSet) : Coeffect :=
  match members.names with
  | [] => .use
  | first :: rest =>
      rest.foldl (fun merged name => .merge merged (solution.parameter atHand name))
        (solution.parameter atHand first)

/-- The value of a coeffect, written as a coeffect again. -/
def display (solution : Solution) (coeffect : Coeffect) : Except Fault Coeffect := do
  let value ← evaluate solution.assignment coeffect
  pure (solution.ofSet coeffect.payloads value)

/-- The assigned variables in ascending order, each with its value written as a coeffect. -/
def assigned (solution : Solution) : List (String × Coeffect) :=
  solution.assignment.entries.map fun entry => (entry.1, solution.ofSet [] entry.2)

end Solution
end Implicit
end CoeffectSolver
