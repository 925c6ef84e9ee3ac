/-!
A last-in, first-out list of pending work.
-/

namespace CoeffectSolver

/-- Pending work, the item to be taken next first. -/
structure Worklist (α : Type) where
  /-- The items in the order in which they will be taken. -/
  items : List α
  deriving DecidableEq, Repr

namespace Worklist

variable {α : Type}

/-- A worklist that gives its items out in the order of the list. -/
def ofList (items : List α) : Worklist α := ⟨items⟩

/-- Puts the items of a batch on top one after the other, so that the last one is taken first. -/
def push (work : Worklist α) (batch : List α) : Worklist α := ⟨batch.reverse ++ work.items⟩

/-- Puts a batch on top so that it is taken in the order of the list. -/
def schedule (work : Worklist α) (batch : List α) : Worklist α := work.push batch.reverse

/-- Takes the next item. -/
def pop? (work : Worklist α) : Option (α × Worklist α) :=
  match work.items with
  | [] => none
  | next :: rest => some (next, ⟨rest⟩)

/-- The number of pending items. -/
def size (work : Worklist α) : Nat := work.items.length

@[simp] theorem items_push (work : Worklist α) (batch : List α) :
    (work.push batch).items = batch.reverse ++ work.items := rfl

@[simp] theorem items_schedule (work : Worklist α) (batch : List α) :
    (work.schedule batch).items = batch ++ work.items := by
  simp [schedule]

end Worklist
end CoeffectSolver
