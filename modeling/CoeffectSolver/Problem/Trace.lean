import CoeffectSolver.Log.Trace
import CoeffectSolver.Problem.Outcome

/-!
What is logged about solving problems.
-/

namespace CoeffectSolver.Trace

open Log

/-- What is logged about normalising types one after the other up to the first fault. -/
def normalisingEach (checked : Checked) : List Ty → List Record
  | [] => []
  | type :: rest =>
      let result := checked.normalise type
      normalising type result ++
        match result with
        | .ok _ => normalisingEach checked rest
        | .error _ => []

/-- What is logged about solving one problem. -/
def problem (problem : Problem) : List Record :=
  checking problem.analysis problem.constraints ++
    match check problem.analysis problem.constraints with
    | .ok checked => normalisingEach checked problem.shown
    | .error _ => []

/-- What is logged once all problems are solved. -/
def summary (outcomes : List Outcome) : Record :=
  let faults := Outcome.faults outcomes
  let count := [Field.plain sectionKey "problem", Field.plain "count" (toString outcomes.length)]
  if faults.hasFault then
    { level := info
      message := "some problems could not be solved"
      fields := count ++ faults.logFields.map fun field =>
        { groups := ["failures", field.1], key := field.2.1, value := field.2.2 } }
  else { level := debug, message := "solved problems", fields := count }

/-- What is logged about solving problems, if solving was not called off. -/
def problems (cancelled : Bool) (problems : List Problem) : List Record :=
  match Problem.solveAll cancelled problems with
  | .error _ => []
  | .ok outcomes => problems.flatMap problem ++ [summary outcomes]

end CoeffectSolver.Trace
