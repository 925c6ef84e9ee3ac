import CoeffectSolver.Proofs.Names.Partition
import CoeffectSolver.Fault.Basic

/-! Sweeps over coeffect constraints in which every constraint writes one class of variables. Where
no constraint of a list writes the class of a variable, sweeping over the list leaves it as it was;
and the iteration settles in an assignment that a sweep over all constraints reproduces. -/

namespace CoeffectSolver

/-- The variables that the value of a coeffect depends on. -/
def Coeffect.reads : Coeffect → List String
  | .var name => [name]
  | .merge left right => left.reads ++ right.reads
  | .split left right => left.reads ++ right.reads
  | .seq left right => left.reads ++ right.reads
  | _ => []

/-- Constraints as operations on a map, each of which writes the class of one variable. -/
structure Sweep (α : Type) where
  classes : Partition
  target? : CoeffectConstraint → Option String
  apply : NameMap α → CoeffectConstraint → Except Fault (NameMap α)
  disjoint : Partition.Disjoint classes.classes
  apply_writes : ∀ {map next : NameMap α} {constraint : CoeffectConstraint},
    apply map constraint = .ok next →
      ∃ target value, target? constraint = some target ∧ next = classes.assign target value map

namespace Sweep

variable {α : Type} {sweep : Sweep α}

/-- Two variables that are written together. -/
def Equivalent (sweep : Sweep α) (first second : String) : Prop :=
  sweep.classes.classOf first = sweep.classes.classOf second

/-- No constraint of a list writes the class of a variable. -/
def Untouched (sweep : Sweep α) (constraints : List CoeffectConstraint) (name : String) : Prop :=
  ∀ constraint ∈ constraints, ∀ target ∈ sweep.target? constraint, ¬ sweep.Equivalent name target

instance (sweep : Sweep α) (first second : String) : Decidable (sweep.Equivalent first second) :=
  inferInstanceAs (Decidable (sweep.classes.classOf first = sweep.classes.classOf second))

instance (sweep : Sweep α) (constraints : List CoeffectConstraint) (name : String) :
    Decidable (sweep.Untouched constraints name) :=
  inferInstanceAs (Decidable (∀ constraint ∈ constraints, ∀ target ∈ sweep.target? constraint,
    ¬ sweep.Equivalent name target))

theorem get?_assign (sweep : Sweep α) {target name : String} {value : α} {map : NameMap α} :
    (sweep.classes.assign target value map).get? name =
      if sweep.Equivalent name target then some value else map.get? name :=
  Partition.get?_assign sweep.disjoint

theorem get?_of_untouched {constraints : List CoeffectConstraint} {name : String}
    {map final : NameMap α} (untouched : sweep.Untouched constraints name)
    (swept : constraints.foldlM sweep.apply map = .ok final) : final.get? name = map.get? name := by
  refine Iteration.sweep_relates (motive := fun first second : NameMap α =>
    second.get? name = first.get? name) (fun _ => rfl)
    (fun _ _ _ early late => late.trans early) ?_ swept
  intro constraint member state next applied
  obtain ⟨target, value, targeted, written⟩ := sweep.apply_writes applied
  have apart : ¬ sweep.classes.classOf name = sweep.classes.classOf target :=
    untouched constraint member target targeted
  rw [written, Partition.get?_assign sweep.disjoint, if_neg apart]

theorem contains_of_sweep (sweep : Sweep α) {constraints : List CoeffectConstraint} {name : String}
    {map final : NameMap α} (swept : constraints.foldlM sweep.apply map = .ok final)
    (kept : map.contains name = true ∨ ¬ sweep.Untouched constraints name) :
    final.contains name = true := by
  induction constraints generalizing map with
  | nil =>
      cases swept
      exact kept.resolve_right fun touched => touched fun _ member => absurd member List.not_mem_nil
  | cons constraint rest ih =>
      obtain ⟨next, applied, onward⟩ := Iteration.sweep_cons swept
      obtain ⟨target, value, targeted, written⟩ := sweep.apply_writes applied
      refine ih onward ?_
      have lookup : next.get? name =
          if sweep.Equivalent name target then some value else map.get? name := by
        rw [written]
        exact sweep.get?_assign
      by_cases same : sweep.Equivalent name target
      · rw [if_pos same] at lookup
        exact .inl (NameMap.contains_iff_exists.mpr ⟨value, lookup⟩)
      · rw [if_neg same] at lookup
        refine kept.imp (fun held => ?_) (fun touched untouched => touched ?_)
        · rw [NameMap.contains, lookup]
          exact held
        · refine List.forall_mem_cons.mpr ⟨fun other targeted' => ?_, untouched⟩
          rw [targeted] at targeted'
          cases targeted'
          exact same

/-- In a sweep that ends where it starts, a variable keeps its value up to some constraint if it is
written on one side of that point only. -/
theorem get?_of_steady {before rest : List CoeffectConstraint} {name : String}
    {map reached : NameMap α}
    (early : before.foldlM sweep.apply map = .ok reached)
    (late : rest.foldlM sweep.apply reached = .ok map)
    (steady : sweep.Untouched before name ∨ sweep.Untouched rest name) :
    reached.get? name = map.get? name := by
  rcases steady with untouched | untouched
  · exact get?_of_untouched untouched early
  · exact (get?_of_untouched untouched late).symm

theorem respects_of_apply {constraint : CoeffectConstraint} {map next : NameMap α}
    (respects : sweep.classes.Respects map) (applied : sweep.apply map constraint = .ok next) :
    sweep.classes.Respects next := by
  obtain ⟨target, value, _, written⟩ := sweep.apply_writes applied
  rw [written]
  exact Partition.respects_assign sweep.disjoint respects

theorem respects_of_sweep {constraints : List CoeffectConstraint} {map final : NameMap α}
    (respects : sweep.classes.Respects map)
    (swept : constraints.foldlM sweep.apply map = .ok final) : sweep.classes.Respects final :=
  Iteration.sweep_relates (motive := fun first second : NameMap α =>
    sweep.classes.Respects first → sweep.classes.Respects second) (fun _ => id)
    (fun _ _ _ early late => late ∘ early)
    (fun _ _ _ _ applied before => respects_of_apply before applied) swept respects

/-- Where repeated sweeps settle, one more sweep changes nothing in the end. -/
theorem fixed_of_settled [DecidableEq α] (sweep : Sweep α) {constraints : List CoeffectConstraint}
    {fuel : Nat} {final : NameMap α}
    (settled : (Iteration.run (NameMap.agreesBy fun value value' => decide (value = value'))
      (fun map => constraints.foldlM sweep.apply map) fuel NameMap.empty).halt = .settled)
    (stops : (Iteration.run (NameMap.agreesBy fun value value' => decide (value = value'))
      (fun map => constraints.foldlM sweep.apply map) fuel NameMap.empty).state = final) :
    constraints.foldlM sweep.apply final = .ok final ∧ sweep.classes.Respects final := by
  constructor
  · obtain ⟨previous, advanced, agreed⟩ := Iteration.exists_agreeing_of_settled settled
    rw [stops] at advanced agreed
    rw [NameMap.agreesBy_eq_true_iff.mp agreed] at advanced
    exact advanced
  · rw [← stops]
    exact Iteration.run_invariant (fun map next respects swept => respects_of_sweep respects swept)
      (Partition.respects_empty sweep.classes)

theorem respects_of_visits (sweep : Sweep α) {constraints handled : List CoeffectConstraint}
    {map : NameMap α}
    (visited : Iteration.Visits sweep.apply constraints NameMap.empty handled map) :
    sweep.classes.Respects map :=
  visited.invariant (fun _ _ _ _ before applied => respects_of_apply before applied)
    (Partition.respects_empty _)

/-- A map that sweeps lead to and that a further sweep reproduces assigns what constraints write. -/
theorem contains_iff_of_fixed {constraints handled : List CoeffectConstraint} {map : NameMap α}
    (fixed : constraints.foldlM sweep.apply map = .ok map)
    (visited : Iteration.Visits sweep.apply constraints NameMap.empty handled map) (name : String) :
    map.contains name = true ↔ ∃ constraint ∈ constraints,
      ∃ target ∈ sweep.target? constraint, sweep.Equivalent name target := by
  have touched : (∃ constraint ∈ constraints, ∃ target ∈ sweep.target? constraint,
      sweep.Equivalent name target) ↔ ¬ sweep.Untouched constraints name := by
    unfold Untouched
    push Not
    rfl
  rw [touched]
  constructor
  · intro held untouched
    have unassigned : map.get? name = none := by
      apply visited.invariant (motive := fun map => map.get? name = none)
      · intro constraint member state next before applied
        obtain ⟨target, value, targeted, written⟩ := sweep.apply_writes applied
        rw [written, sweep.get?_assign, if_neg (untouched constraint member target targeted)]
        exact before
      · rfl
    rw [NameMap.contains, unassigned] at held
    cases held
  · intro touched
    exact sweep.contains_of_sweep fixed (.inr touched)

/-- No two constraints of a list write the same class. -/
def SingleWriters (sweep : Sweep α) (constraints : List CoeffectConstraint) : Prop :=
  constraints.Pairwise fun first second => ∀ target ∈ sweep.target? first,
    ∀ other ∈ sweep.target? second, ¬ sweep.Equivalent target other

instance (sweep : Sweep α) (constraints : List CoeffectConstraint) :
    Decidable (sweep.SingleWriters constraints) :=
  inferInstanceAs (Decidable (constraints.Pairwise fun first second =>
    ∀ target ∈ sweep.target? first, ∀ other ∈ sweep.target? second, ¬ sweep.Equivalent target other))

theorem SingleWriters.perm {constraints reordered : List CoeffectConstraint}
    (single : sweep.SingleWriters constraints) (same : constraints.Perm reordered) :
    sweep.SingleWriters reordered := by
  apply List.Pairwise.perm single same
  intro first second apart target targeted other targeted' equivalent
  exact apart other targeted' target targeted equivalent.symm

theorem SingleWriters.untouched {before rest : List CoeffectConstraint}
    (single : sweep.SingleWriters (before ++ rest)) (name : String) :
    sweep.Untouched before name ∨ sweep.Untouched rest name := by
  by_cases untouched : sweep.Untouched before name
  · exact .inl untouched
  · unfold Untouched at untouched
    push Not at untouched
    obtain ⟨constraint, member, target, targeted, writes⟩ := untouched
    right
    intro later member' target' targeted' writes'
    have apart := (List.pairwise_append.mp single).2.2 constraint member later member'
    exact apart target targeted target' targeted' (writes.symm.trans writes')

/-- Where every class has one writer at most, a map that a sweep reproduces is reproduced by each of
the constraints. -/
theorem SingleWriters.apply_eq {constraints : List CoeffectConstraint} {map : NameMap α}
    (single : sweep.SingleWriters constraints)
    (swept : constraints.foldlM sweep.apply map = .ok map) {constraint : CoeffectConstraint}
    (member : constraint ∈ constraints) : sweep.apply map constraint = .ok map := by
  have halfway {before rest : List CoeffectConstraint} {reached : NameMap α}
      (split : constraints = before ++ rest)
      (early : before.foldlM sweep.apply map = .ok reached)
      (late : rest.foldlM sweep.apply reached = .ok map) : reached = map := by
    rw [split] at single
    exact NameMap.ext_of_get? fun name => get?_of_steady early late (single.untouched name)
  obtain ⟨before, after, split⟩ := List.append_of_mem member
  rw [split] at swept
  obtain ⟨reached, early, late⟩ := Iteration.sweep_append swept
  cases halfway split early late
  obtain ⟨next, applied, onward⟩ := Iteration.sweep_cons late
  have through : (before ++ [constraint]).foldlM sweep.apply map = .ok next := by
    rw [List.foldlM_append, early]
    change [constraint].foldlM sweep.apply map = .ok next
    rw [List.foldlM_cons, applied]
    rfl
  cases halfway (by rw [split, List.append_cons]) through onward
  exact applied

end Sweep
end CoeffectSolver
