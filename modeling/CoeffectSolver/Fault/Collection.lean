import CoeffectSolver.Fault.Basic

/-!
Collections of faults from independent solves.
-/

namespace CoeffectSolver

/-- Faults gathered so far. A collection that was never opened is told apart from an empty one. -/
inductive FaultCollection where
  | unopened
  | opened (faults : List Fault)
  deriving DecidableEq

namespace FaultCollection

/-- The faults in the order in which they were added. -/
def faults : FaultCollection → List Fault
  | .unopened => []
  | .opened faults => faults

/-- Adds faults, which opens the collection. -/
def add (collection : FaultCollection) (further : List Fault) : FaultCollection :=
  .opened (collection.faults ++ further)

/-- Whether the collection was never opened. -/
def isUnopened : FaultCollection → Bool
  | .unopened => true
  | .opened _ => false

/-- Whether the collection holds a fault. -/
def hasFault (collection : FaultCollection) : Bool := !collection.faults.isEmpty

/-- The collection as log fields: for each fault a group named by its place, with one message. -/
def logFields (collection : FaultCollection) : List (String × String × String) :=
  collection.faults.mapIdx (fun place fault => ("e" ++ toString place, "msg", fault.formatted))

end FaultCollection
end CoeffectSolver
