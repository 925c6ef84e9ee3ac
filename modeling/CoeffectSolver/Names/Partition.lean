import CoeffectSolver.Iteration.FixedPoint
import CoeffectSolver.Names.NameMap

/-!
Partitions of names into disjoint classes, built from pairs of names that belong together.

Each pair starts as a class of its own. As long as two classes share a member, the first such two
are merged, so that in the end two names are in one class exactly when a chain of pairs connects
them.
-/

namespace CoeffectSolver

/-- Disjoint classes of names. A name in no class stands for itself alone. -/
structure Partition where
  /-- The classes, in the order in which their first pairs were given. -/
  classes : List NameSet
  deriving DecidableEq

namespace Partition

/-- Merges a class with the first later class that shares a member with it, if there is one. -/
def mergeInto (first : NameSet) : List NameSet → Option (List NameSet × NameSet)
  | [] => none
  | next :: rest =>
      if first.overlaps next then some (rest, first.union next)
      else (mergeInto first rest).map (fun merged => (next :: merged.1, merged.2))

/-- Merges the first two classes that share a member, and leaves disjoint classes as they are. -/
def mergeFirstOverlap : List NameSet → List NameSet
  | [] => []
  | first :: rest =>
      match mergeInto first rest with
      | some (others, merged) => merged :: others
      | none => first :: mergeFirstOverlap rest

/-- Merging as an iteration; it needs at most one pass for each pair and one to notice the end. -/
def closure (pairs : List (String × String)) : Iteration.Run (List NameSet) Empty :=
  Iteration.run (fun current next => decide (current = next))
    (fun classes => .ok (mergeFirstOverlap classes)) (pairs.length + 1)
    (pairs.map (fun pair => NameSet.ofList [pair.1, pair.2]))

/-- The classes that a list of pairs generates. -/
def ofPairs (pairs : List (String × String)) : Partition := ⟨(closure pairs).state⟩

/-- The members of the class of a name, which is the name alone if no class holds it. -/
def classOf (partition : Partition) (name : String) : NameSet :=
  (partition.classes.find? (fun members => members.contains name)).getD (NameSet.singleton name)

/-- Gives a value to a name and to every name of its class. -/
def assign {α : Type} (partition : Partition) (name : String) (value : α) (map : NameMap α) :
    NameMap α :=
  (partition.classOf name).names.foldl (fun map member => map.insert member value) map

/-- The listings of the classes, in ascending order of their smallest members. -/
def listing (partition : Partition) : List (List String) :=
  (partition.classes.map NameSet.names).mergeSort fun first second =>
    !decide (second.headD "" < first.headD "")

end Partition
end CoeffectSolver
