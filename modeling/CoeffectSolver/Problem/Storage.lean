import CoeffectSolver.Problem.File

/-!
Problem files in a tree of files.
-/

namespace CoeffectSolver

/-- Why a file cannot be read. -/
inductive ReadFault where
  | missing
  | directory
  | notDirectory
  /-- A name, or the whole path, has too many bytes. -/
  | nameTooLong
  /-- A name on the way to the file cannot be the name of anything. -/
  | invalidPath
  /-- The name of the file cannot be the name of anything. -/
  | invalidName
  deriving DecidableEq, Repr

/-- A tree of files, each with the names that lead to it and its text. -/
structure FileTree where
  files : List (List String × String)

namespace FileTree

/-- Whether a file is found below a directory. -/
def isDirectory (tree : FileTree) (path : List String) : Bool :=
  path.isEmpty || tree.files.any (fun file => path.isPrefixOf file.1 && path != file.1)

/-- Whether a path leads through a file as if it were a directory. -/
def leadsThroughFile (tree : FileTree) (path : List String) : Bool :=
  tree.files.any (fun file => file.1.isPrefixOf path && path != file.1)

/-- The text of the file at a path. -/
def read (tree : FileTree) (path : List String) : Except ReadFault String :=
  match tree.files.find? (fun file => file.1 == path) with
  | some file => .ok file.2
  | none =>
      if tree.isDirectory path then .error .directory
      else if tree.leadsThroughFile path then .error .notDirectory
      else .error .missing

/-- Follows the names of a path one after the other, as on a disk, where every name on the way has
to be that of a directory and may have 255 bytes. -/
def follow (tree : FileTree) (visited : List String) : List String → Except ReadFault String
  | [] => tree.read visited
  | name :: rest =>
      let here := visited ++ [name]
      if 255 < name.utf8ByteSize then .error .nameTooLong
      else if rest.isEmpty || here == [""] || tree.isDirectory here then tree.follow here rest
      else if tree.files.any (fun file => file.1 == here) then .error .notDirectory
      else .error .missing

/-- The text of the file at a path on a disk. The whole path may have 4095 bytes. -/
def readOnDisk (tree : FileTree) (path : List String) : Except ReadFault String :=
  if 4095 < (String.intercalate "/" path).utf8ByteSize then .error .nameTooLong
  else tree.follow [] path

end FileTree

/-- How faults in reading are worded by a kind of storage. -/
structure StorageWording where
  message : ReadFault → String → String

/-- The wording for files kept in memory. -/
def inMemory : StorageWording where
  message
    | .directory, path => "read " ++ path ++ ": invalid argument"
    | _, path => "open " ++ path ++ ": file does not exist"

/-- The wording for files on a disk. -/
def onDisk : StorageWording where
  message
    | .directory, path => "read " ++ path ++ ": is a directory"
    | .missing, path => "open " ++ path ++ ": no such file or directory"
    | .notDirectory, path => "open " ++ path ++ ": not a directory"
    | .nameTooLong, path => "open " ++ path ++ ": file name too long"
    | .invalidPath, path => "open " ++ path ++ ": invalid argument"
    | .invalidName, path => "readfile " ++ path ++ ": invalid argument"

/-- Why the problems of a file cannot be loaded. -/
inductive LoadFault where
  | unreadable (path detail : String)
  | invalid (path : String) (fault : Problem.FileFault)
  deriving DecidableEq, Repr

/-- The wording of a fault in loading. -/
def LoadFault.message : LoadFault → String
  | .unreadable path detail => "could not read " ++ path ++ ": " ++ detail
  | .invalid path fault => path ++ ": " ++ fault.message

/-- Reads the problems of a file that was found under a path. -/
def Problem.load (wording : StorageWording) (path : String) (found : Except ReadFault String) :
    Except LoadFault (List Problem) :=
  match found with
  | .error fault => .error (.unreadable path (wording.message fault path))
  | .ok text => (Problem.parse text).mapError (.invalid path)

/-- The names in a path, if it is written without detours. -/
def properSegments? (path : String) : Option (List String) :=
  let segments := path.splitOn "/"
  if path == "." then some []
  else if segments.any (fun segment => segment == "" || segment == "." || segment == "..") then none
  else some segments

/-- Reads the problems of a file in a tree kept in memory. -/
def Problem.loadFile (tree : FileTree) (path : String) : Except LoadFault (List Problem) :=
  let found : Except ReadFault String :=
    match properSegments? path with
    | some segments => tree.read segments
    | none => .error .missing
  Problem.load inMemory path found

end CoeffectSolver
