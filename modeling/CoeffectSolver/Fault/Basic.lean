import CoeffectSolver.Term.Constraint

/-!
Why solving can fail.

A fault is kept as its cause. `Fault.message` words it, `Fault.kind` classifies it and
`Fault.formatted` puts the number of its kind in front.
-/

namespace CoeffectSolver

/-- A remark on a mismatch between two types. -/
inductive MismatchRemark where
  /-- A variable would have to be bound to a type that it occurs in. -/
  | occurs (name : String) (type : Ty)
  /-- The mismatch was found while solving a larger constraint. -/
  | inConstraint (constraint : TypeConstraint)
  /-- Any other remark. -/
  | text (content : String)
  deriving DecidableEq

/-- A state that a caller should not have brought about. -/
inductive Anomaly where
  /-- A coeffect that does not denote implicit parameters was evaluated as if it did. -/
  | notParameters (coeffect : Coeffect)
  /-- A coeffect that does not denote a number of past values was evaluated as if it did. -/
  | notSteps (coeffect : Coeffect)
  /-- A type variable is assigned a type that leads back to the variable. -/
  | cyclicAssignment (name : String)
  /-- A missing type was to be normalised. -/
  | absentType
  /-- Any other state. -/
  | text (content : String)
  deriving DecidableEq

/-- The cause of a failed solve. -/
inductive Fault where
  /-- Two types cannot be made equal. -/
  | typeMismatch (first second : Ty) (remarks : List MismatchRemark)
  /-- No rule of an analysis applies to a constraint. -/
  | invalidConstraint (label : String) (first second : Coeffect)
  /-- A state was met that should not arise. -/
  | unexpected (anomaly : Anomaly)
  /-- An operation used up its budget of steps. -/
  | nonTermination (operation : String) (fuel : Int)
  deriving DecidableEq

/-- The classes of failures, those that no solver reports included. -/
inductive FaultKind where
  | unclassified
  | typeMismatch
  | invalidConstraint
  | unexpected
  | nonTermination
  deriving DecidableEq, Repr

/-- The word for a kind. -/
def FaultKind.label : FaultKind → String
  | .unclassified => "unclassified"
  | .typeMismatch => "type-mismatch"
  | .invalidConstraint => "invalid-constraint"
  | .unexpected => "unexpected"
  | .nonTermination => "non-termination"

/-- The number of a kind. -/
def FaultKind.code : FaultKind → Nat
  | .unclassified => 0
  | .typeMismatch => 1
  | .invalidConstraint => 2
  | .unexpected => 3
  | .nonTermination => 4

/-- The kind with a number; numbers of no kind are unclassified. -/
def FaultKind.ofCode (code : Int) : FaultKind :=
  if code = 1 then .typeMismatch
  else if code = 2 then .invalidConstraint
  else if code = 3 then .unexpected
  else if code = 4 then .nonTermination
  else .unclassified

/-- The wording of a remark. -/
def MismatchRemark.message : MismatchRemark → String
  | .occurs name type => "type variable '" ++ name ++ "' occurs in '" ++ type.display ++ "'"
  | .inConstraint constraint => "in constraint '" ++ constraint.display ++ "'"
  | .text content => content

/-- The wording of an anomaly. -/
def Anomaly.message : Anomaly → String
  | .notParameters coeffect =>
      "coeffect '" ++ coeffect.display ++ "' cannot be evaluated as implicit parameters"
  | .notSteps coeffect =>
      "coeffect '" ++ coeffect.display ++ "' cannot be evaluated as a dataflow coeffect"
  | .cyclicAssignment name => "cyclic assignment of type variable '" ++ name ++ "'"
  | .absentType => "cannot normalise type " ++ absentText
  | .text content => content

namespace Fault

/-- The kind of a fault. -/
def kind : Fault → FaultKind
  | .typeMismatch _ _ _ => .typeMismatch
  | .invalidConstraint _ _ _ => .invalidConstraint
  | .unexpected _ => .unexpected
  | .nonTermination _ _ => .nonTermination

/-- The remarks on a mismatch as one text. -/
def reason (remarks : List MismatchRemark) : String :=
  String.intercalate ", " (remarks.map MismatchRemark.message)

/-- The wording of a fault. -/
def message : Fault → String
  | .typeMismatch first second remarks =>
      let statement := "type mismatch: cannot unify '" ++ first.display ++ "' with '" ++
        second.display ++ "'"
      let remark := reason remarks
      if remark.isEmpty then statement else statement ++ ": " ++ remark
  | .invalidConstraint label first second =>
      label ++ ": cannot solve '" ++ first.display ++ "' = '" ++ second.display ++ "'"
  | .unexpected anomaly => "unexpected state: " ++ anomaly.message
  | .nonTermination operation fuel =>
      operation ++ " did not terminate after " ++ toString fuel ++ " steps"

/-- A fault with the number of its kind in front. -/
def formatted (fault : Fault) : String :=
  "(E00" ++ toString fault.kind.code ++ ") " ++ fault.message

end Fault
end CoeffectSolver
