import CoeffectSolver.Problem.Outcome

/-!
The report on outcomes that is printed for people to read.
-/

namespace CoeffectSolver

namespace Report

/-- How a report is written. -/
structure Style where
  /-- Whether colours are used. -/
  colour : Bool
  /-- Whether outcomes are compared with what was expected. -/
  check : Bool
  deriving DecidableEq, Repr

/-- The sequence that begins bold text. -/
def bold : String := "\x1b[1m"

/-- The sequence that begins red text. -/
def red : String := "\x1b[31m"

/-- The sequence that begins green text. -/
def green : String := "\x1b[32m"

/-- The sequence that ends any of these. -/
def plain : String := "\x1b[0m"

/-- Writes a text in a colour, if colours are used. -/
def Style.paint (style : Style) (colour text : String) : String :=
  if style.colour then colour ++ text ++ plain else text

/-- A failure as it is reported: a fault with its kind, and anything else as it is. -/
def failureText (failure : Failure) : String :=
  match failure.fault? with
  | some fault => fault.kind.label ++ " " ++ fault.formatted
  | none => failure.message

/-- One line of a report, indented below the name of the problem. -/
def line (text : String) : String := "  " ++ text ++ "\n"

/-- The lines on what was found. -/
def findings (style : Style) (outcome : Outcome) : String :=
  match outcome.failure with
  | some failure => line (style.paint red (failureText failure))
  | none =>
      let assigned := (outcome.checked.map (fun checked => checked.solution.assigned)).getD []
      String.join (outcome.shown.map (fun type => line (": " ++ type.display))) ++
        String.join (assigned.map
          (fun entry => line ("'" ++ entry.1 ++ " = " ++ entry.2.display)))

/-- The line on the comparison with what was expected. -/
def verdict (style : Style) (outcome : Outcome) : String :=
  if style.check then
    match outcome.verify with
    | some difference => line (style.paint red ("FAIL: " ++ difference))
    | none => if outcome.problem.expectation.isSome then line (style.paint green "ok") else ""
  else ""

/-- The report on one outcome. -/
def outcomeText (style : Style) (outcome : Outcome) : String :=
  style.paint bold outcome.problem.name ++ " (" ++ outcome.problem.analysis.name ++ ")\n" ++
    findings style outcome ++ verdict style outcome

/-- The report on a list of outcomes. -/
def text (style : Style) (outcomes : List Outcome) : String :=
  String.join (outcomes.map (outcomeText style))

/-- Whether an outcome counts as failed: it differs from what was expected where that is checked,
and was not solved otherwise. -/
def isFailed (style : Style) (outcome : Outcome) : Bool :=
  if style.check then outcome.verify.isSome else outcome.failure.isSome

/-- The number of outcomes that count as failed. -/
def failed (style : Style) (outcomes : List Outcome) : Nat :=
  outcomes.countP (isFailed style)

end Report
end CoeffectSolver
