import CoeffectSolver.CommandLine.Options
import CoeffectSolver.CommandLine.Path
import CoeffectSolver.Problem.Report
import CoeffectSolver.Problem.Storage
import CoeffectSolver.Problem.Trace

/-!
The command that solves the problems of problem files and reports on them.
-/

namespace CoeffectSolver.CommandLine

/-- The surroundings in which a command is carried out. -/
structure Surroundings where
  /-- The text of the file at the names of a path. -/
  read : List String → Except ReadFault String
  /-- Whether the report is printed on a terminal. -/
  terminal : Bool
  /-- Whether the command was called off. -/
  cancelled : Bool

/-- What a command leaves behind. -/
structure Execution where
  /-- The report. -/
  output : String
  /-- The lines that were logged. -/
  log : List String
  /-- Why the command failed, if it did. -/
  error : Option String
  deriving DecidableEq, Repr

/-- The lines printed beside the report: what was logged, and why the command failed. -/
def Execution.diagnostics (execution : Execution) : List String :=
  execution.log ++ (execution.error.map (fun error => ("Error: " ++ error).splitOn "\n")).getD []

/-- Reads a file, unless its name or a name on the way to it cannot be the name of anything. The
root of all files is not a name. -/
def Surroundings.readFile (surroundings : Surroundings) (segments : List String) :
    Except ReadFault String :=
  if !segments.isEmpty && !isProperName (segments.getLast?.getD "") then .error .invalidName
  else if segments.any (fun name => !name.isEmpty && !isProperName name) then .error .invalidPath
  else surroundings.read segments

/-- Loads the problems of all files in turn. A file is named by the last name of its path. -/
def loadAll (surroundings : Surroundings) : List String → Except LoadFault (List Problem)
  | [] => .ok []
  | path :: rest => do
      let segments := pathSegments path
      let problems ← Problem.load onDisk (baseName segments) (surroundings.readFile segments)
      let further ← loadAll surroundings rest
      pure (problems ++ further)

/-- What is said of outcomes that failed. -/
def failureSummary (style : Report.Style) (outcomes : List Outcome) : Option String :=
  let failed := Report.failed style outcomes
  if failed = 0 then none
  else
    let count := toString failed ++ " of " ++ toString outcomes.length ++ " problems "
    some (count ++
      if style.check then "did not match their expectation" else "could not be solved")

/-- Carries out a command with options. -/
def Options.execute (options : Options) (surroundings : Surroundings) : Execution :=
  match loadAll surroundings options.paths with
  | .error fault =>
      { output := "", log := [], error := some ("could not load problems: " ++ fault.message) }
  | .ok problems =>
      let log := Log.lines options.logLevel (Trace.problems surroundings.cancelled problems)
      match Problem.solveAll surroundings.cancelled problems with
      | .error failure => { output := "", log, error := some failure.message }
      | .ok outcomes =>
          let style : Report.Style :=
            { colour := surroundings.terminal, check := options.check }
          { output := Report.text style outcomes, log, error := failureSummary style outcomes }

/-- Carries out a command with arguments. -/
def execute (arguments : List String) (surroundings : Surroundings) : Execution :=
  match Options.ofArguments arguments with
  | .error fault => { output := "", log := [], error := some fault.message }
  | .ok options => options.execute surroundings

end CoeffectSolver.CommandLine
