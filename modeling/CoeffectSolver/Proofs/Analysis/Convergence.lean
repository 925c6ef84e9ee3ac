import CoeffectSolver.Analysis.Basic
import CoeffectSolver.Proofs.Analysis.Dataflow.Satisfaction
import CoeffectSolver.Proofs.Analysis.Dependence
import CoeffectSolver.Proofs.Analysis.Implicit.Satisfaction

/-! Constraints that do not depend on each other in a cycle are solved within the bound on the number
of passes, whatever their order and however many of them write one class.

A class that several constraints write takes several values in one pass, and other constraints may
read any of them. What settles is therefore not the value of a class at the end of a pass but all
values that it takes during a pass: they are the same in two consecutive passes once this is so, one
pass earlier, for the classes that it reads. -/

namespace CoeffectSolver

open Relation (TransGen ReflTransGen)

/-- Changes of what a class stands for: any of them may follow another, and none has a further effect
when it is made again. -/
structure Absorbing {α : Type} (changes : (Option α → Option α) → Prop) : Prop where
  unchanged : changes id
  followed : ∀ {first second}, changes first → changes second → changes (second ∘ first)
  repeated : ∀ {change}, changes change → ∀ held, change (change held) = change held

namespace Sweep

variable {α : Type} {sweep : Sweep α} {changes : (Option α → Option α) → Prop}

/-- A constraint always applies, and how it changes the class of its variable is determined by some
variables that it reads. -/
def Amends (sweep : Sweep α) (changes : (Option α → Option α) → Prop) (reads : List String)
    (constraint : CoeffectConstraint) : Prop :=
  ∃ target, sweep.target? constraint = some target ∧ ∀ first second : NameMap α,
    (∀ read ∈ reads, first.get? read = second.get? read) →
    ∃ amend : Option α → α, changes (fun held => some (amend held)) ∧
      sweep.apply first constraint =
        .ok (sweep.classes.assign target (amend (first.get? target)) first) ∧
      sweep.apply second constraint =
        .ok (sweep.classes.assign target (amend (second.get? target)) second)

/-- A variable stands for the same at every point of two sweeps over the same constraints. -/
def InStep (sweep : Sweep α) : List CoeffectConstraint → NameMap α → NameMap α → String → Prop
  | [], first, second, name => first.get? name = second.get? name
  | constraint :: rest, first, second, name => first.get? name = second.get? name ∧
      ∀ next next', sweep.apply first constraint = .ok next →
        sweep.apply second constraint = .ok next' → sweep.InStep rest next next' name

section Lockstep

variable {reads : CoeffectConstraint → List String} {constraint : CoeffectConstraint}
  {swept : List CoeffectConstraint} {first second next next' final final' : NameMap α}
  {name other : String}

theorem InStep.start (inStep : sweep.InStep swept first second name) :
    first.get? name = second.get? name := by
  cases swept with
  | nil => exact inStep
  | cons constraint rest => exact inStep.1

theorem InStep.of_equivalent (inStep : sweep.InStep swept first second name)
    (respects : sweep.classes.Respects first) (respects' : sweep.classes.Respects second)
    (same : sweep.Equivalent other name) : sweep.InStep swept first second other := by
  induction swept generalizing first second with
  | nil =>
      change first.get? other = second.get? other
      rw [respects other name same, respects' other name same]
      exact inStep
  | cons constraint rest ih =>
      constructor
      · rw [respects other name same, respects' other name same]
        exact inStep.1
      · intro next next' applied applied'
        exact ih (inStep.2 next next' applied applied') (respects_of_apply respects applied)
          (respects_of_apply respects' applied')

/-- Where two maps agree on what a constraint reads, it changes a variable in both in the same way. -/
theorem exists_change_of_apply (absorbing : Absorbing changes)
    (amends : sweep.Amends changes (reads constraint) constraint)
    (respects : sweep.classes.Respects first) (respects' : sweep.classes.Respects second)
    (agree : ∀ read, sweep.Depends reads [constraint] name read →
      first.get? read = second.get? read)
    (applied : sweep.apply first constraint = .ok next)
    (applied' : sweep.apply second constraint = .ok next') :
    ∃ change, changes change ∧ next.get? name = change (first.get? name) ∧
      next'.get? name = change (second.get? name) := by
  obtain ⟨target, targeted, determined⟩ := amends
  by_cases same : sweep.Equivalent name target
  · have fed : ∀ read ∈ reads constraint, first.get? read = second.get? read := by
      intro read listed
      apply agree
      exact ⟨constraint, List.mem_singleton_self _, ⟨target, targeted, same⟩, read, listed, rfl⟩
    obtain ⟨amend, allowed, written, written'⟩ := determined first second fed
    cases Except.ok.inj (written.symm.trans applied)
    cases Except.ok.inj (written'.symm.trans applied')
    refine ⟨_, allowed, ?_, ?_⟩
    · rw [sweep.get?_assign, if_pos same, respects name target same]
    · rw [sweep.get?_assign, if_pos same, respects' name target same]
  · have kept {map result : NameMap α} (applied : sweep.apply map constraint = .ok result) :
        result.get? name = map.get? name := by
      obtain ⟨target', value, targeted', written⟩ := sweep.apply_writes applied
      cases Option.some.inj (targeted.symm.trans targeted')
      rw [written, sweep.get?_assign, if_neg same]
    exact ⟨id, absorbing.unchanged, kept applied, kept applied'⟩

variable (absorbing : Absorbing changes)
  (amends : ∀ constraint ∈ swept, sweep.Amends changes (reads constraint) constraint)
  (respects : sweep.classes.Respects first) (respects' : sweep.classes.Respects second)
  (fed : ∀ read, sweep.Depends reads swept name read → sweep.InStep swept first second read)

include absorbing amends respects respects' fed

/-- Where what a variable depends on is in step, two sweeps change the variable in the same way. -/
theorem exists_change_of_sweep (success : swept.foldlM sweep.apply first = .ok final)
    (success' : swept.foldlM sweep.apply second = .ok final') :
    ∃ change, changes change ∧ final.get? name = change (first.get? name) ∧
      final'.get? name = change (second.get? name) := by
  induction swept generalizing first second with
  | nil =>
      cases success
      cases success'
      exact ⟨id, absorbing.unchanged, rfl, rfl⟩
  | cons constraint rest ih =>
      rw [List.forall_mem_cons] at amends
      obtain ⟨next, applied, onward⟩ := Iteration.sweep_cons success
      obtain ⟨next', applied', onward'⟩ := Iteration.sweep_cons success'
      obtain ⟨change, allowed, now, now'⟩ := exists_change_of_apply absorbing amends.1 respects
        respects' (fun read edge => (fed read (edge.mono (by simp))).start) applied applied'
      obtain ⟨change', allowed', later, later'⟩ := ih amends.2
        (respects_of_apply respects applied) (respects_of_apply respects' applied')
        (fun read edge => (fed read (edge.mono (by simp))).2 next next' applied applied')
        onward onward'
      refine ⟨change' ∘ change, absorbing.followed allowed allowed', ?_, ?_⟩
      · rw [later, now]
        rfl
      · rw [later', now']
        rfl

theorem inStep_of_start (start : first.get? name = second.get? name) :
    sweep.InStep swept first second name := by
  induction swept generalizing first second with
  | nil => exact start
  | cons constraint rest ih =>
      rw [List.forall_mem_cons] at amends
      refine ⟨start, fun next next' applied applied' => ?_⟩
      obtain ⟨change, _, now, now'⟩ := exists_change_of_apply absorbing amends.1 respects respects'
        (fun read edge => (fed read (edge.mono (by simp))).start) applied applied'
      apply ih amends.2 (respects_of_apply respects applied) (respects_of_apply respects' applied')
      · intro read edge
        exact (fed read (edge.mono (by simp))).2 next next' applied applied'
      · rw [now, now', start]

end Lockstep

section Stages

variable {reads : CoeffectConstraint → List String} {constraints : List CoeffectConstraint}
  {count : Nat} {map next : NameMap α} {name : String}

/-- What holds after a number of passes: the next pass goes through the same values as the one after
it, for every variable that leads to at most that number of written variables. -/
structure Stage (sweep : Sweep α) (reads : CoeffectConstraint → List String)
    (constraints : List CoeffectConstraint) (count : Nat) (map : NameMap α) : Prop where
  respects : sweep.classes.Respects map
  calm : ∀ next, constraints.foldlM sweep.apply map = .ok next →
    ∀ target ∈ sweep.targets constraints,
      (sweep.reachable reads constraints target).card ≤ count →
      sweep.InStep constraints map next target

theorem Stage.start : sweep.Stage reads constraints 0 NameMap.empty := by
  refine ⟨Partition.respects_empty _, fun next swept target written few => ?_⟩
  have some : 0 < (sweep.reachable reads constraints target).card := card_reachable_pos written
  omega

theorem Stage.eq_of_sweep (stage : sweep.Stage reads constraints (sweep.targets constraints).card map)
    (swept : constraints.foldlM sweep.apply map = .ok next) : map = next := by
  apply NameMap.ext_of_get?
  intro name
  rcases sweep.untouched_or_exists_target constraints name with untouched | ⟨target, written, same⟩
  · exact (get?_of_untouched untouched swept).symm
  · have inStep := stage.calm next swept target written card_reachable_le
    exact (inStep.of_equivalent stage.respects (respects_of_sweep stage.respects swept) same).start

variable (absorbing : Absorbing changes)
  (amends : ∀ constraint ∈ constraints, sweep.Amends changes (reads constraint) constraint)

include amends in
theorem sweep_succeeds (map : NameMap α) :
    ∃ final, constraints.foldlM sweep.apply map = .ok final := by
  induction constraints generalizing map with
  | nil => exact ⟨map, rfl⟩
  | cons constraint rest ih =>
      rw [List.forall_mem_cons] at amends
      obtain ⟨⟨target, _, determined⟩, later⟩ := amends
      obtain ⟨amend, _, applied, _⟩ := determined map map fun _ _ => rfl
      rw [List.foldlM_cons, applied]
      exact ih later _

include absorbing amends

theorem inStep_of_untouched (respects : sweep.classes.Respects map)
    (swept : constraints.foldlM sweep.apply map = .ok next)
    (untouched : sweep.Untouched constraints name) : sweep.InStep constraints map next name := by
  apply inStep_of_start absorbing amends respects (respects_of_sweep respects swept)
  · rintro read ⟨constraint, member, ⟨target, targeted, same⟩, _⟩
    exact absurd same (untouched constraint member target targeted)
  · exact (get?_of_untouched untouched swept).symm

/-- What a variable depends on is in step where the written variables that it leads to are. -/
theorem inStep_of_depends (respects : sweep.classes.Respects map)
    (swept : constraints.foldlM sweep.apply map = .ok next)
    (acyclic : ∀ name, ¬ TransGen (sweep.Depends reads constraints) name name)
    {target : String} (written : target ∈ sweep.targets constraints)
    (calm : ∀ other ∈ sweep.targets constraints,
      (sweep.reachable reads constraints other).card <
        (sweep.reachable reads constraints target).card →
      sweep.InStep constraints map next other) :
    ∀ read, sweep.Depends reads constraints target read →
      sweep.InStep constraints map next read := by
  intro read edge
  rcases sweep.untouched_or_exists_target constraints read with
    untouched | ⟨other, written', same⟩
  · exact inStep_of_untouched absorbing amends respects swept untouched
  · have lower := card_reachable_lt written (edge.of_equivalent rfl same.symm) (acyclic target)
    exact (calm other written' lower).of_equivalent respects (respects_of_sweep respects swept) same

theorem Stage.after_sweep (acyclic : ∀ name, ¬ TransGen (sweep.Depends reads constraints) name name)
    (stage : sweep.Stage reads constraints count map)
    (swept : constraints.foldlM sweep.apply map = .ok next) :
    sweep.Stage reads constraints (count + 1) next := by
  have respects := respects_of_sweep stage.respects swept
  refine ⟨respects, fun later swept' target => ?_⟩
  -- Everything that a variable reads having been in step for a pass, the variable itself is in step
  -- from the next pass on: both passes change it in the same way, which makes no difference the
  -- second time.
  induction size : (sweep.reachable reads constraints target).card using Nat.strong_induction_on
    generalizing target with
  | _ size ih =>
      intro written few
      have before := inStep_of_depends absorbing amends stage.respects swept acyclic written
        (fun other written' lower => stage.calm next swept other written' (by omega))
      have now := inStep_of_depends absorbing amends respects swept' acyclic written
        (fun other written' lower => ih _ (by omega) other rfl written' (by omega))
      obtain ⟨change, allowed, changed, changed'⟩ := exists_change_of_sweep absorbing amends
        stage.respects respects before swept swept'
      apply inStep_of_start absorbing amends respects (respects_of_sweep respects swept') now
      rw [changed', changed, absorbing.repeated allowed]

theorem settled_of_acyclic [DecidableEq α]
    (acyclic : ∀ name, ¬ TransGen (sweep.Depends reads constraints) name name) {fuel : Nat}
    (enough : constraints.length < fuel) :
    (Iteration.run (NameMap.agreesBy fun value value' => decide (value = value'))
      (fun map => constraints.foldlM sweep.apply map) fuel NameMap.empty).halt = .settled := by
  refine Iteration.settled_of_stages (motive := sweep.Stage reads constraints) ?_ ?_ Stage.start
    (Nat.zero_le (sweep.targets constraints).card) ?_
  · intro count map stage
    obtain ⟨next, swept⟩ := sweep_succeeds amends map
    exact ⟨next, swept, stage.after_sweep absorbing amends acyclic swept⟩
  · intro map next stage swept
    exact NameMap.agreesBy_eq_true_iff.mpr (stage.eq_of_sweep swept)
  · have bounded := sweep.card_targets_le constraints
    omega

end Stages

end Sweep

namespace Implicit

/-- Whether a constraint has the form of a rule and its right side has a value. -/
def wellShaped (constraint : CoeffectConstraint) : Bool :=
  (Rule.ofLeft? constraint.left).isSome && evaluable constraint.right

/-- The variables that a constraint reads: those of its right side, and the variable of a merge on its
left side that provides parameters. -/
def inputs (constraint : CoeffectConstraint) : List String :=
  constraint.right.reads ++ ((Rule.ofLeft? constraint.left).map Rule.providers).getD []

/-- What rules do to the set of a class. -/
inductive Changes : (Option NameSet → Option NameSet) → Prop
  | unchanged : Changes id
  | replaced (value : NameSet) : Changes fun _ => some value
  | grown (added : NameSet) : Changes fun held => some ((held.getD ∅).union added)

private theorem union_union (held first second : NameSet) :
    (held.union first).union second = held.union (first.union second) := by
  apply NameSet.ext_of_mem
  intro parameter
  simp only [NameSet.mem_union, or_assoc]

private theorem union_self (value : NameSet) : value.union value = value := by
  apply NameSet.ext_of_mem
  intro parameter
  rw [NameSet.mem_union, or_self]

theorem absorbing_changes : Absorbing Changes := by
  refine ⟨.unchanged, ?_, ?_⟩
  · intro first second allowed allowed'
    cases allowed' with
    | unchanged => exact allowed
    | replaced value => exact .replaced value
    | grown added =>
        cases allowed with
        | unchanged => exact .grown added
        | replaced value => exact .replaced (value.union added)
        | grown before =>
            have joined : ((fun held => some ((held.getD ∅).union added)) ∘
                fun held : Option NameSet => some ((held.getD ∅).union before)) =
                fun held => some ((held.getD ∅).union (before.union added)) := by
              funext held
              exact congrArg some (union_union (held.getD ∅) before added)
            rw [joined]
            exact .grown (before.union added)
  · intro change allowed held
    cases allowed with
    | unchanged => rfl
    | replaced value => rfl
    | grown added =>
        change some (((held.getD ∅).union added).union added) = some ((held.getD ∅).union added)
        rw [union_union, union_self]

theorem value_eq_of_reads {first second : Assignment} {coeffect : Coeffect}
    {value value' : NameSet}
    (same : ∀ name ∈ coeffect.reads, first.value name = second.value name)
    (evaluated : evaluate first coeffect = .ok value)
    (evaluated' : evaluate second coeffect = .ok value') : value = value' := by
  apply NameSet.ext_of_mem
  intro parameter
  rw [mem_iff_requires _ evaluated, mem_iff_requires _ evaluated']
  constructor
  · apply requires_mono
    intro name read
    rw [same name read]
    exact id
  · apply requires_mono
    intro name read
    rw [same name read]
    exact id

theorem amends_of_wellShaped {constraints : List CoeffectConstraint} {constraint : CoeffectConstraint}
    (shaped : wellShaped constraint = true) :
    (sweep constraints).Amends Changes (inputs constraint) constraint := by
  obtain ⟨recognised, valued⟩ := (Bool.and_eq_true _ _).mp shaped
  obtain ⟨rule, found⟩ := Option.isSome_iff_exists.mp recognised
  refine ⟨rule.target, congrArg (Option.map Rule.target) found, fun first second agree => ?_⟩
  rw [inputs, found, Option.map_some, Option.getD_some] at agree
  have same (name : String) (read : name ∈ constraint.right.reads ++ rule.providers) :
      Assignment.value first name = Assignment.value second name := by
    rw [Assignment.value, Assignment.value, agree name read]
  obtain ⟨value, evaluated⟩ := (evaluates_iff_evaluable first constraint.right).mpr valued
  obtain ⟨value', evaluated'⟩ := (evaluates_iff_evaluable second constraint.right).mpr valued
  have equal := value_eq_of_reads (fun name read => same name (List.mem_append_left _ read))
    evaluated evaluated'
  subst equal
  have applied {assignment : Assignment}
      (evaluated : evaluate assignment constraint.right = .ok value) :
      (sweep constraints).apply assignment constraint = .ok ((sweep constraints).classes.assign
        rule.target (rule.written assignment value) assignment) :=
    apply_eq_ok_iff.mpr ⟨rule, value, found, evaluated, rfl⟩
  cases rule with
  | grow target =>
      exact ⟨fun held => (held.getD ∅).union value, .grown value, applied evaluated,
        applied evaluated'⟩
  | remainder provider target =>
      refine ⟨fun _ => value.difference (Assignment.value first provider), .replaced _,
        applied evaluated, ?_⟩
      rw [same provider (List.mem_append_right _ List.mem_cons_self)]
      exact applied evaluated'
  | allBut parameter target =>
      exact ⟨fun _ => value.erase parameter, .replaced _, applied evaluated, applied evaluated'⟩

theorem solve_succeeds_of_wellShaped {constraints : List CoeffectConstraint}
    (few : constraints.length < Iteration.defaultFuel)
    (shaped : ∀ constraint ∈ remaining constraints, wellShaped constraint = true)
    (acyclic : ∀ name, ¬ TransGen
      ((sweep constraints).Depends inputs (remaining constraints)) name name) :
    ∃ solution, solve constraints = .ok solution := by
  have fewer : (remaining constraints).length ≤ constraints.length := List.length_filter_le _ _
  apply solve_succeeds_of_settled
  exact Sweep.settled_of_acyclic absorbing_changes
    (fun constraint member => amends_of_wellShaped (shaped constraint member)) acyclic (by omega)

end Implicit

namespace Dataflow

/-- Whether a constraint has a variable side and the other side has a value. -/
def wellShaped (constraint : CoeffectConstraint) : Bool :=
  (Oriented.of? constraint).any fun oriented => evaluable oriented.value

def inputs (constraint : CoeffectConstraint) : List String :=
  ((Oriented.of? constraint).map fun oriented => oriented.value.reads).getD []

/-- What constraints do to the number of a class. -/
inductive Changes : (Option UInt64 → Option UInt64) → Prop
  | unchanged : Changes id
  | replaced (number : UInt64) : Changes fun _ => some number

theorem absorbing_changes : Absorbing Changes := by
  refine ⟨.unchanged, ?_, ?_⟩
  · intro first second allowed allowed'
    cases allowed' with
    | unchanged => exact allowed
    | replaced number => exact .replaced number
  · intro change allowed held
    cases allowed with
    | unchanged => rfl
    | replaced number => rfl

theorem amends_of_wellShaped {constraints : List CoeffectConstraint} {constraint : CoeffectConstraint}
    (shaped : wellShaped constraint = true) :
    (sweep constraints).Amends Changes (inputs constraint) constraint := by
  obtain ⟨oriented, found, valued⟩ := (Option.any_eq_true _ _).mp shaped
  refine ⟨oriented.target, congrArg (Option.map Oriented.target) found, fun first second agree => ?_⟩
  rw [inputs, found, Option.map_some, Option.getD_some] at agree
  obtain ⟨number, evaluated⟩ := (evaluates_iff_evaluable first oriented.value).mpr valued
  have evaluated' : evaluate second oriented.value = .ok number := by
    rw [← evaluated]
    apply evaluate_congr
    intro name read
    rw [Assignment.value, Assignment.value, agree name read]
  exact ⟨fun _ => number, .replaced number, apply_eq_ok_iff.mpr ⟨oriented, number, found, evaluated, rfl⟩,
    apply_eq_ok_iff.mpr ⟨oriented, number, found, evaluated', rfl⟩⟩

private theorem plan_succeeds {constraints : List CoeffectConstraint}
    (shaped : ∀ constraint ∈ remaining constraints, wellShaped constraint = true) :
    ∃ oriented, plan constraints = .ok oriented := by
  cases planned : plan constraints with
  | ok oriented => exact ⟨oriented, rfl⟩
  | error fault =>
      obtain ⟨constraint, found, _⟩ := plan_eq_error_iff.mp planned
      obtain ⟨oriented, known, _⟩ := (Option.any_eq_true _ _).mp
        (shaped constraint (List.mem_of_find?_eq_some found))
      have missing := List.find?_some found
      rw [known] at missing
      cases missing

theorem solve_succeeds_of_wellShaped {constraints : List CoeffectConstraint}
    (few : constraints.length < Iteration.defaultFuel)
    (shaped : ∀ constraint ∈ remaining constraints, wellShaped constraint = true)
    (acyclic : ∀ name, ¬ TransGen
      ((sweep constraints).Depends inputs (remaining constraints)) name name) :
    ∃ solution, solve constraints = .ok solution := by
  have fewer : (remaining constraints).length ≤ constraints.length := List.length_filter_le _ _
  obtain ⟨oriented, planned⟩ := plan_succeeds shaped
  apply solve_succeeds_of_settled planned
  exact Sweep.settled_of_acyclic absorbing_changes
    (fun constraint member => amends_of_wellShaped (shaped constraint member)) acyclic (by omega)

end Dataflow

namespace Analysis

/-- Whether a constraint is skipped, makes variables equivalent, or has a form that an analysis solves
and a side with a value. -/
def handles : Analysis → CoeffectConstraint → Bool
  | .implicit, constraint => Implicit.isSkipped constraint ||
      (Implicit.link? constraint).isSome || Implicit.wellShaped constraint
  | .dataflow, constraint => Dataflow.isSkipped constraint ||
      (Dataflow.links? constraint).isSome || Dataflow.wellShaped constraint

/-- The class of the first variable is written by a constraint that reads the class of the second. -/
def Reads (analysis : Analysis) (constraints : List CoeffectConstraint) : String → String → Prop :=
  match analysis with
  | .implicit =>
      (Implicit.sweep constraints).Depends Implicit.inputs (Implicit.remaining constraints)
  | .dataflow =>
      (Dataflow.sweep constraints).Depends Dataflow.inputs (Dataflow.remaining constraints)

private theorem shaped_of_kept {skipped linked shaped : Bool}
    (handled : (skipped || linked || shaped) = true) (kept : (!skipped && !linked) = true) :
    shaped = true := by
  cases skipped <;> cases linked <;> simp_all

/-- Constraints without a cycle of dependence are solved, in whatever order they are given and also
where several of them write one class. -/
theorem solve_succeeds_of_acyclic (analysis : Analysis) {constraints : List CoeffectConstraint}
    (few : constraints.length < 10000)
    (handled : ∀ constraint ∈ constraints, analysis.handles constraint = true)
    (acyclic : ∀ name, ¬ TransGen (analysis.Reads constraints) name name) :
    ∃ solution, analysis.solve constraints = .ok solution := by
  cases analysis with
  | implicit =>
      have shaped : ∀ constraint ∈ Implicit.remaining constraints,
          Implicit.wellShaped constraint = true := by
        intro constraint member
        obtain ⟨listed, kept⟩ := List.mem_filter.mp member
        rw [← Option.not_isSome] at kept
        exact shaped_of_kept (handled constraint listed) kept
      obtain ⟨solution, solved⟩ := Implicit.solve_succeeds_of_wellShaped few shaped acyclic
      exact ⟨.implicit solution, by rw [solve, solved]; rfl⟩
  | dataflow =>
      have shaped : ∀ constraint ∈ Dataflow.remaining constraints,
          Dataflow.wellShaped constraint = true := by
        intro constraint member
        obtain ⟨listed, kept⟩ := List.mem_filter.mp member
        rw [← Option.not_isSome] at kept
        exact shaped_of_kept (handled constraint listed) kept
      obtain ⟨solution, solved⟩ := Dataflow.solve_succeeds_of_wellShaped few shaped acyclic
      exact ⟨.dataflow solution, by rw [solve, solved]; rfl⟩

theorem solve_succeeds_of_acyclic_of_late_writers :
    (∃ solution, implicit.solve [
        ⟨.merge (.var "decl") (.var "call"), .seq (.param "x" .absent) (.var "in")⟩,
        ⟨.var "decl", .var "other"⟩, ⟨.var "in", .param "y" .absent⟩,
        ⟨.split (.param "y" .absent) (.var "in"), .var "other"⟩,
        ⟨.var "other", .param "x" .absent⟩] = .ok solution) ∧
    ∃ solution, dataflow.solve [⟨.var "a", .seq (.var "b") (.past 1)⟩, ⟨.var "b", .var "d"⟩,
        ⟨.split (.var "c") (.past 2), .var "d"⟩, ⟨.var "b", .past 7⟩, ⟨.past 3, .var "c"⟩] =
      .ok solution := by
  constructor
  · apply solve_succeeds_of_acyclic .implicit (by decide) (by decide)
    exact Sweep.acyclic_of_rank (fun name =>
      if name = "call" then 2 else if name = "in" then 1 else 0) rfl (by decide) (by decide)
  · apply solve_succeeds_of_acyclic .dataflow (by decide) (by decide)
    exact Sweep.acyclic_of_rank (fun name =>
      if name = "a" then 2 else if name = "b" ∨ name = "d" then 1 else 0) rfl (by decide) (by decide)

end Analysis
end CoeffectSolver
