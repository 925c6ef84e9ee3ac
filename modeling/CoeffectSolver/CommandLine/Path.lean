/-!
Paths of files, read by their wording alone.
-/

namespace CoeffectSolver.CommandLine

/-- Takes the names of a path one after the other: empty names and single dots are dropped, and two
dots take back the name before them. -/
def walk (visited : List String) : List String → List String
  | [] => visited.reverse
  | name :: rest =>
      if name == "" || name == "." then walk visited rest
      else if name == ".." then
        match visited with
        | last :: earlier => if last == ".." then walk (name :: visited) rest else walk earlier rest
        | [] => walk [name] rest
      else walk (name :: visited) rest

/-- The names that lead to a file, without detours. A path from the root keeps an empty
name in front. -/
def pathSegments (path : String) : List String :=
  let segments := walk [] (path.splitOn "/")
  if path.startsWith "/" then "" :: segments.dropWhile (fun name => name == "..") else segments

/-- The last name of a path. -/
def baseName (segments : List String) : String :=
  match segments.getLast? with
  | none => "."
  | some "" => "/"
  | some name => name

/-- Whether a name can be the name of anything. -/
def isProperName (name : String) : Bool := !name.isEmpty && !name.toList.contains '\x00'

end CoeffectSolver.CommandLine
