import CoeffectSolver.Fault.Basic

/-!
Failures as a caller sees them: a fault of a solver or a plain report, possibly placed in contexts
that say where it came from.
-/

namespace CoeffectSolver

/-- A failure and the contexts it was met in. -/
inductive Failure where
  /-- A fault reported by a solver. -/
  | fault (cause : Fault)
  /-- A report that no solver made. -/
  | report (text : String)
  /-- A failure met in a context, which is named in front of it. -/
  | within (context : String) (inner : Failure)
  deriving DecidableEq

namespace Failure

/-- The wording of a failure, outermost context first. -/
def message : Failure → String
  | .fault cause => cause.message
  | .report text => text
  | .within context inner => context ++ ": " ++ inner.message

/-- The fault behind a failure, looked for through all contexts. -/
def fault? : Failure → Option Fault
  | .fault cause => some cause
  | .report _ => none
  | .within _ inner => inner.fault?

/-- The kind of a failure. -/
def kind (failure : Failure) : FaultKind :=
  match failure.fault? with
  | some cause => cause.kind
  | none => .unclassified

/-- Places a failure in contexts one after the other, the last one outermost. -/
def inContexts (failure : Failure) (contexts : List String) : Failure :=
  contexts.foldl (fun inner context => .within context inner) failure

end Failure
end CoeffectSolver
