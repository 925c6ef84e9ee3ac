import CoeffectSolver.Proofs.Analysis.Sweep
import Mathlib.Data.Finset.Card
import Mathlib.Data.Finset.Filter

/-! Which classes of variables are read in a sweep to write which others. A class that does not depend
on itself leads to more written variables than any class that it reads, so that statements about such
classes can be proved by induction on the number of written variables that they lead to. -/

namespace CoeffectSolver.Sweep

open Relation (TransGen ReflTransGen)

variable {α : Type} {sweep : Sweep α} {reads : CoeffectConstraint → List String}
  {constraints : List CoeffectConstraint} {name other : String}

/-- Some constraint writes the class of a variable and reads the class of another. -/
def Depends (sweep : Sweep α) (reads : CoeffectConstraint → List String)
    (constraints : List CoeffectConstraint) (name other : String) : Prop :=
  ∃ constraint ∈ constraints, (∃ target ∈ sweep.target? constraint, sweep.Equivalent name target) ∧
    ∃ read ∈ reads constraint, sweep.Equivalent other read

def targets (sweep : Sweep α) (constraints : List CoeffectConstraint) : Finset String :=
  (constraints.filterMap sweep.target?).toFinset

open Classical in
/-- The written variables that a variable depends on, itself included if it is written. -/
noncomputable def reachable (sweep : Sweep α) (reads : CoeffectConstraint → List String)
    (constraints : List CoeffectConstraint) (name : String) : Finset String :=
  {target ∈ sweep.targets constraints | ReflTransGen (sweep.Depends reads constraints) name target}

theorem Depends.of_equivalent (edge : sweep.Depends reads constraints name other)
    {name' other' : String} (same : sweep.Equivalent name' name)
    (same' : sweep.Equivalent other' other) : sweep.Depends reads constraints name' other' := by
  obtain ⟨constraint, member, ⟨target, targeted, writes⟩, read, listed, reading⟩ := edge
  exact ⟨constraint, member, ⟨target, targeted, same.trans writes⟩, read, listed,
    same'.trans reading⟩

theorem transGen_of_equivalent (path : TransGen (sweep.Depends reads constraints) name other)
    {name' other' : String} (same : sweep.Equivalent name' name)
    (same' : sweep.Equivalent other' other) :
    TransGen (sweep.Depends reads constraints) name' other' := by
  induction path generalizing other' with
  | single edge => exact .single (edge.of_equivalent same same')
  | tail _ edge ih => exact (ih rfl).tail (edge.of_equivalent rfl same')

theorem Depends.mono {swept : List CoeffectConstraint}
    (edge : sweep.Depends reads swept name other) (subset : swept ⊆ constraints) :
    sweep.Depends reads constraints name other := by
  obtain ⟨constraint, member, rest⟩ := edge
  exact ⟨constraint, subset member, rest⟩

/-- Where every constraint reads variables of a lower rank than the variable that it writes, no class
depends on itself. -/
theorem acyclic_of_rank (rank : String → Nat) {pairs : List (String × String)}
    (built : sweep.classes = Partition.ofPairs pairs)
    (linked : ∀ pair ∈ pairs, rank pair.1 = rank pair.2)
    (lower : ∀ constraint ∈ constraints, ∀ target ∈ sweep.target? constraint,
      ∀ read ∈ reads constraint, rank read < rank target) (name : String) :
    ¬ TransGen (sweep.Depends reads constraints) name name := by
  have descends {source goal : String}
      (path : TransGen (sweep.Depends reads constraints) source goal) : rank goal < rank source := by
    have edge {source goal : String} (edge : sweep.Depends reads constraints source goal) :
        rank goal < rank source := by
      obtain ⟨constraint, member, ⟨target, targeted, writes⟩, read, listed, reading⟩ := edge
      unfold Equivalent at writes reading
      rw [built] at writes reading
      rw [Partition.value_eq_of_classOf_eq linked writes,
        Partition.value_eq_of_classOf_eq linked reading]
      exact lower constraint member target targeted read listed
    induction path with
    | single last => exact edge last
    | tail _ last ih => exact (edge last).trans ih
  intro cycle
  exact Nat.lt_irrefl _ (descends cycle)

theorem card_targets_le (sweep : Sweep α) (constraints : List CoeffectConstraint) :
    (sweep.targets constraints).card ≤ constraints.length :=
  calc (sweep.targets constraints).card
      ≤ (constraints.filterMap sweep.target?).length := List.toFinset_card_le _
    _ ≤ constraints.length := List.length_filterMap_le _ _

theorem untouched_or_exists_target (sweep : Sweep α) (constraints : List CoeffectConstraint)
    (name : String) : sweep.Untouched constraints name ∨
      ∃ target ∈ sweep.targets constraints, sweep.Equivalent name target := by
  by_cases written : ∃ target ∈ sweep.targets constraints, sweep.Equivalent name target
  · exact .inr written
  · left
    intro constraint member target targeted same
    apply written
    exact ⟨target, List.mem_toFinset.mpr (List.mem_filterMap.mpr ⟨constraint, member, targeted⟩),
      same⟩

theorem mem_reachable_iff {target : String} :
    target ∈ sweep.reachable reads constraints name ↔ target ∈ sweep.targets constraints ∧
      ReflTransGen (sweep.Depends reads constraints) name target := by
  classical
  exact Finset.mem_filter

theorem card_reachable_le : (sweep.reachable reads constraints name).card ≤
    (sweep.targets constraints).card := by
  classical
  exact Finset.card_filter_le _ _

theorem card_reachable_pos (written : name ∈ sweep.targets constraints) :
    0 < (sweep.reachable reads constraints name).card :=
  Finset.card_pos.mpr ⟨name, mem_reachable_iff.mpr ⟨written, .refl⟩⟩

theorem card_reachable_lt (written : name ∈ sweep.targets constraints)
    (edge : sweep.Depends reads constraints name other)
    (acyclic : ¬ TransGen (sweep.Depends reads constraints) name name) :
    (sweep.reachable reads constraints other).card <
      (sweep.reachable reads constraints name).card := by
  apply Finset.card_lt_card
  constructor
  · intro target member
    obtain ⟨targeted, path⟩ := mem_reachable_iff.mp member
    exact mem_reachable_iff.mpr ⟨targeted, .head edge path⟩
  · intro back
    have returns := (mem_reachable_iff.mp (back (mem_reachable_iff.mpr ⟨written, .refl⟩))).2
    exact acyclic (TransGen.head' edge returns)

end CoeffectSolver.Sweep
