import CoeffectSolver.Checking
import CoeffectSolver.Fault.Collection
import CoeffectSolver.Problem.Basic
import CoeffectSolver.Text.Quoted

/-!
Solving problems and comparing what comes out with what was expected.
-/

namespace CoeffectSolver

/-- What solving a problem led to. -/
structure Outcome where
  problem : Problem
  /-- The solved constraints, unless they could not be solved. -/
  checked : Option Checked
  /-- The normal forms of the types to be shown, up to the first that has none. -/
  shown : List Ty
  failure : Option Failure

namespace Problem

/-- Normalises types one after the other up to the first fault. -/
def normaliseEach (checked : Checked) : List Ty → List Ty × Option Fault
  | [] => ([], none)
  | type :: rest =>
      match checked.normalise type with
      | .error fault => ([], some fault)
      | .ok normal =>
          let (normals, fault) := normaliseEach checked rest
          (normal :: normals, fault)

/-- Solves the constraints of a problem and normalises the types it asks for. -/
def solve (problem : Problem) : Outcome :=
  match check problem.analysis problem.constraints with
  | .error fault => { problem, checked := none, shown := [], failure := some (.fault fault) }
  | .ok checked =>
      let (shown, fault) := normaliseEach checked problem.shown
      { problem, checked := some checked, shown, failure := fault.map .fault }

/-- What is said when solving was called off. -/
def cancelledMessage : String := "context canceled"

/-- Solves problems, unless that was called off before the first of them was begun. -/
def solveAll (cancelled : Bool) (problems : List Problem) : Except Failure (List Outcome) :=
  if cancelled && !problems.isEmpty then .error (.report cancelledMessage)
  else .ok (problems.map solve)

end Problem

namespace Outcome

/-- The faults behind the failures of outcomes. -/
def faults (outcomes : List Outcome) : FaultCollection :=
  (FaultCollection.opened []).add
    (outcomes.filterMap (fun outcome => outcome.failure.bind Failure.fault?))

/-- How the types shown differ from those expected. -/
def typeDifferences (outcome : Outcome) (expectation : Expectation) : List String :=
  match expectation.types with
  | none => []
  | some expected =>
      let shown := outcome.shown.map Ty.display
      if shown = expected then []
      else
        ["expected types " ++ Text.quotedList expected ++ ", got " ++ Text.quotedList shown]

/-- How the assignments of type variables differ from those expected. -/
def assignmentDifferences (checked : Checked) (expectation : Expectation) : List String :=
  expectation.assigned.entries.filterMap fun entry =>
    let got := (checked.assigned.apply (.var entry.1)).display
    if got = entry.2 then none
    else some ("expected " ++ entry.1 ++ " = " ++ entry.2 ++ ", got " ++ got)

/-- How the values of coeffect variables differ from those expected. -/
def coeffectDifferences (checked : Checked) (expectation : Expectation) : List String :=
  expectation.coeffects.entries.filterMap fun entry =>
    match checked.solution.display (.var entry.1) with
    | .error fault => some fault.message
    | .ok coeffect =>
        let got := coeffect.display
        if got = entry.2 then none
        else some ("expected '" ++ entry.1 ++ " = " ++ entry.2 ++ ", got " ++ got)

/-- How an outcome differs from an expectation. -/
def differences (outcome : Outcome) (expectation : Expectation) : List String :=
  if !expectation.fault.isEmpty then
    match outcome.failure with
    | none => ["expected a " ++ expectation.fault ++ " error, but solving succeeded"]
    | some failure =>
        let got := failure.kind.label
        if got = expectation.fault then []
        else
          ["expected a " ++ expectation.fault ++ " error, got " ++ got ++ ": " ++ failure.message]
  else
    match outcome.failure with
    | some failure => ["expected no error: " ++ failure.message]
    | none =>
        outcome.typeDifferences expectation ++
          match outcome.checked with
          | none => []
          | some checked =>
              assignmentDifferences checked expectation ++ coeffectDifferences checked expectation

/-- Compares an outcome with the expectation of its problem, if there is one. -/
def verify (outcome : Outcome) : Option String :=
  match outcome.problem.expectation with
  | none => none
  | some expectation =>
      match outcome.differences expectation with
      | [] => none
      | differences => some (String.intercalate "\n" differences)

end Outcome
end CoeffectSolver
