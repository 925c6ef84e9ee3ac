import CoeffectSolver.CommandLine.Solve

/-!
The program: reads the files named on the command line, solves their problems, prints the report and
tells by its exit code whether all went well.
-/

namespace CoeffectSolver.CommandLine

/-- The text of a file on the disk. -/
def readFromDisk (segments : List String) : IO (Except ReadFault String) := do
  let path := if segments = [] then "." else String.intercalate "/" segments
  try
    let text ← IO.FS.readFile path
    return .ok text
  catch error =>
    match error with
    | .inappropriateType _ _ details =>
        return .error (if details.toLower = "is a directory" then .directory else .notDirectory)
    | .invalidArgument _ _ _ => return .error .nameTooLong
    | _ => return .error .missing

/-- The texts of all files that a command names. -/
def readAll (options : Options) : IO (List (List String × Except ReadFault String)) :=
  options.paths.mapM fun path => do
    let segments := pathSegments path
    return (segments, ← readFromDisk segments)

/-- Prints what a command leaves behind. -/
def Execution.print (execution : Execution) : IO UInt32 := do
  let errors ← IO.getStderr
  for diagnostic in execution.log do
    errors.putStrLn diagnostic
  IO.print execution.output
  for error in execution.error do
    errors.putStrLn ("Error: " ++ error)
  return if execution.error.isSome then 1 else 0

/-- Carries out the command that solves problem files. -/
def runSolve (arguments : List String) : IO UInt32 := do
  match Options.ofArguments arguments with
  | .error fault => ({ output := "", log := [], error := some fault.message } : Execution).print
  | .ok options =>
      let files ← readAll options
      let terminal ← (← IO.getStdout).isTty
      let read (segments : List String) : Except ReadFault String :=
        match files.find? (fun file => file.1 == segments) with
        | some file => file.2
        | none => .error .missing
      (options.execute { read, terminal, cancelled := false }).print

end CoeffectSolver.CommandLine

/-- The commands of the program. -/
def main (arguments : List String) : IO UInt32 := do
  match arguments with
  | "solve" :: rest => CoeffectSolver.CommandLine.runSolve rest
  | _ =>
      IO.eprintln "usage: solve file.yaml..."
      return 1
