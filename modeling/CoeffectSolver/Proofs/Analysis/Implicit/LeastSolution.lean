import CoeffectSolver.Proofs.Analysis.Implicit.Satisfaction
import Mathlib.Data.Finset.Card
import Mathlib.Order.Bounds.Basic

/-! Constraints that only declare parameters have a least solution, which solving finds whatever the
order of the constraints and however they depend on each other. Which variables gain a parameter
does not depend on any other parameter, so that a parameter is gained in consecutive passes only,
each of which reaches a further variable that some constraint writes. A pass for each constraint and
one more to notice the end are therefore enough. -/

namespace CoeffectSolver.Implicit

/-- Whether a constraint adds what a coeffect requires to a variable. -/
def declares (constraint : CoeffectConstraint) : Bool :=
  match constraint.left with
  | .var _ => evaluable constraint.right
  | _ => false

def requirement (values : String → Set String) : Coeffect → Set String
  | .param name _ => {name}
  | .var name => values name
  | .merge left right => requirement values left ∪ requirement values right
  | .split left right => requirement values left ∪ requirement values right
  | .seq left right => requirement values left ∪ requirement values right
  | _ => ∅

def Assignment.values (assignment : Assignment) (name : String) : Set String :=
  {parameter | parameter ∈ assignment.value name}

/-- A chain of constraints between two variables connects two names. -/
def Linked (constraints : List CoeffectConstraint) : String → String → Prop :=
  Relation.EqvGen fun first second => ⟨.var first, .var second⟩ ∈ constraints

/-- Sets of parameters that obey the constraints: linked variables have the same set, and the set of
a variable holds what is declared for it. -/
structure Closed (constraints : List CoeffectConstraint) (values : String → Set String) : Prop where
  linked : ∀ first second, Linked constraints first second → values first = values second
  declared : ∀ constraint ∈ constraints, ∀ target, constraint.left = .var target →
    evaluable constraint.right = true → requirement values constraint.right ⊆ values target

/-- The assignments that passes lead to from the empty one. -/
inductive Reached (constraints : List CoeffectConstraint) : Assignment → Prop
  | start : Reached constraints NameMap.empty
  | next {assignment next : Assignment} (before : Reached constraints assignment)
      (passed : pass (Partition.ofPairs (links constraints)) (remaining constraints) assignment =
        .ok next) : Reached constraints next

/-- Every assigned set stays assigned and loses no parameter. -/
def Assignment.Within (first second : Assignment) : Prop :=
  ∀ name held, first.get? name = some held →
    ∃ larger, second.get? name = some larger ∧ ∀ parameter ∈ held, parameter ∈ larger

theorem declares_iff {constraint : CoeffectConstraint} :
    declares constraint = true ↔
      ∃ target, constraint.left = .var target ∧ evaluable constraint.right = true := by
  unfold declares
  split
  · rename_i target left
    constructor
    · intro valued
      exact ⟨target, left, valued⟩
    · intro ⟨_, _, valued⟩
      exact valued
  · rename_i notVariable
    constructor
    · intro impossible
      cases impossible
    · intro ⟨target, left, _⟩
      exact absurd left (notVariable target)

private theorem requires_iff_mem_requirement {assignment : Assignment} {parameter : String} :
    (coeffect : Coeffect) → (Requires assignment parameter coeffect ↔
      parameter ∈ requirement assignment.values coeffect)
  | .use => Iff.rfl
  | .ignore => Iff.rfl
  | .param _ _ => Iff.rfl
  | .absent => Iff.rfl
  | .unconstrained => Iff.rfl
  | .past _ => Iff.rfl
  | .var _ => Iff.rfl
  | .merge left right =>
      or_congr (requires_iff_mem_requirement left) (requires_iff_mem_requirement right)
  | .split left right =>
      or_congr (requires_iff_mem_requirement left) (requires_iff_mem_requirement right)
  | .seq left right =>
      or_congr (requires_iff_mem_requirement left) (requires_iff_mem_requirement right)

/-- Evaluation computes what a coeffect requires. -/
theorem mem_iff_mem_requirement {assignment : Assignment} {coeffect : Coeffect} {value : NameSet}
    (evaluated : evaluate assignment coeffect = .ok value) {parameter : String} :
    parameter ∈ value ↔ parameter ∈ requirement assignment.values coeffect :=
  (mem_iff_requires coeffect evaluated).trans (requires_iff_mem_requirement coeffect)

theorem mem_requirement_mono {values values' : String → Set String} {parameter : String}
    (below : ∀ name, parameter ∈ values name → parameter ∈ values' name) : (coeffect : Coeffect) →
    parameter ∈ requirement values coeffect → parameter ∈ requirement values' coeffect
  | .use => id
  | .ignore => id
  | .param _ _ => id
  | .absent => id
  | .unconstrained => id
  | .past _ => id
  | .var name => below name
  | .merge left right =>
      Or.imp (mem_requirement_mono below left) (mem_requirement_mono below right)
  | .split left right =>
      Or.imp (mem_requirement_mono below left) (mem_requirement_mono below right)
  | .seq left right =>
      Or.imp (mem_requirement_mono below left) (mem_requirement_mono below right)

theorem get?_eq_of_value {first second : Assignment} {name : String}
    (held : first.contains name = second.contains name)
    (value : first.value name = second.value name) : first.get? name = second.get? name := by
  unfold NameMap.contains at held
  unfold Assignment.value at value
  cases found : first.get? name with
  | none =>
      rw [found, Option.isSome_none] at held
      exact (Option.isSome_eq_false_iff.mp held.symm |> Option.isNone_iff_eq_none.mp).symm
  | some known =>
      rw [found, Option.isSome_some] at held
      obtain ⟨known', found'⟩ := Option.isSome_iff_exists.mp held.symm
      rw [found, found', Option.getD_some, Option.getD_some] at value
      rw [found', value]

theorem mem_links_iff {constraints : List CoeffectConstraint} {first second : String} :
    (first, second) ∈ links constraints ↔ ⟨.var first, .var second⟩ ∈ constraints := by
  unfold links
  rw [List.mem_filterMap]
  constructor
  · rintro ⟨⟨left, right⟩, kept, found⟩
    unfold link? at found
    split at found
    · rename_i atLeft atRight
      dsimp only at atLeft atRight
      cases found
      rw [← atLeft, ← atRight]
      exact (List.mem_filter.mp kept).1
    · cases found
  · intro member
    exact ⟨_, List.mem_filter.mpr ⟨member, rfl⟩, rfl⟩

theorem equivalent_iff_linked {constraints : List CoeffectConstraint} {first second : String} :
    (sweep constraints).Equivalent first second ↔ Linked constraints first second := by
  have listed : (fun name other => (name, other) ∈ links constraints) =
      fun name other => (⟨.var name, .var other⟩ : CoeffectConstraint) ∈ constraints := by
    funext name other
    exact propext mem_links_iff
  unfold Sweep.Equivalent Linked
  rw [← listed]
  exact Partition.classOf_eq_iff_chain

section Sweeps

variable {constraints swept : List CoeffectConstraint}

private theorem mem_apply_iff {assignment next : Assignment} {constraint : CoeffectConstraint}
    {target : String} (respects : (sweep constraints).classes.Respects assignment)
    (left : constraint.left = .var target)
    (applied : (sweep constraints).apply assignment constraint = .ok next)
    (name parameter : String) :
    parameter ∈ next.value name ↔ parameter ∈ assignment.value name ∨
      (sweep constraints).Equivalent name target ∧
        parameter ∈ requirement assignment.values constraint.right := by
  obtain ⟨rule, value, found, evaluated, written⟩ := apply_eq_ok_iff.mp applied
  rw [left] at found
  cases found
  have lookup : next.get? name = if (sweep constraints).Equivalent name target then
      some ((assignment.value target).union value) else assignment.get? name := by
    rw [written]
    exact (sweep constraints).get?_assign
  rw [← mem_iff_mem_requirement evaluated, Assignment.value, lookup]
  by_cases same : (sweep constraints).Equivalent name target
  · have held : assignment.get? name = assignment.get? target := respects name target same
    rw [if_pos same, Option.getD_some, NameSet.mem_union, and_iff_right same, Assignment.value,
      Assignment.value, held]
  · rw [if_neg same]
    exact (or_iff_left fun added => same added.1).symm

private theorem sweep_succeeds (declared : ∀ constraint ∈ swept, declares constraint = true)
    (start : Assignment) : ∃ final, swept.foldlM (sweep constraints).apply start = .ok final := by
  induction swept generalizing start with
  | nil => exact ⟨start, rfl⟩
  | cons constraint rest ih =>
      rw [List.forall_mem_cons] at declared
      obtain ⟨target, left, valued⟩ := declares_iff.mp declared.1
      obtain ⟨value, evaluated⟩ := (evaluates_iff_evaluable start constraint.right).mpr valued
      have applied : (sweep constraints).apply start constraint =
          .ok ((Partition.ofPairs (links constraints)).assign target
            ((start.value target).union value) start) :=
        apply_eq_ok_iff.mpr ⟨.grow target, value, by rw [left]; rfl, evaluated, rfl⟩
      rw [List.foldlM_cons, applied]
      exact ih declared.2 _

private theorem onlyGrown_of_declared (declared : ∀ constraint ∈ swept, declares constraint = true)
    (name : String) : OnlyGrown constraints swept name := by
  intro constraint listed
  obtain ⟨member, overwriting⟩ := List.mem_filter.mp listed
  obtain ⟨target, left, _⟩ := declares_iff.mp (declared constraint member)
  rw [overwrites, left] at overwriting
  cases overwriting

private theorem mem_of_sweep (declared : ∀ constraint ∈ swept, declares constraint = true)
    {start final : Assignment} (respects : (sweep constraints).classes.Respects start)
    (success : swept.foldlM (sweep constraints).apply start = .ok final)
    {constraint : CoeffectConstraint} (member : constraint ∈ swept) {target parameter : String}
    (left : constraint.left = .var target)
    (required : parameter ∈ requirement start.values constraint.right) :
    parameter ∈ final.value target := by
  obtain ⟨before, after, rfl⟩ := List.append_of_mem member
  rw [List.forall_mem_append, List.forall_mem_cons] at declared
  obtain ⟨early, _, late⟩ := declared
  obtain ⟨reached, swept, onward⟩ := Iteration.sweep_append success
  obtain ⟨next, applied, onward⟩ := Iteration.sweep_cons onward
  have reachedRespects := Sweep.respects_of_sweep respects swept
  have stillRequired : parameter ∈ requirement (Assignment.values reached) constraint.right :=
    mem_requirement_mono (fun name => grows_of_sweep respects (onlyGrown_of_declared early name)
      swept parameter) _ required
  have added : parameter ∈ Assignment.value next target :=
    (mem_apply_iff reachedRespects left applied target parameter).mpr (.inr ⟨rfl, stillRequired⟩)
  exact grows_of_sweep (Sweep.respects_of_apply reachedRespects applied)
    (onlyGrown_of_declared late target) onward parameter added

/-- Which variables gain a parameter depends on the variables that hold this parameter only. -/
private theorem sweep_mono (declared : ∀ constraint ∈ swept, declares constraint = true)
    {parameter : String} {start start' final final' : Assignment}
    (respects : (sweep constraints).classes.Respects start)
    (respects' : (sweep constraints).classes.Respects start')
    (below : ∀ name, parameter ∈ start.value name → parameter ∈ start'.value name)
    (success : swept.foldlM (sweep constraints).apply start = .ok final)
    (success' : swept.foldlM (sweep constraints).apply start' = .ok final') (name : String)
    (member : parameter ∈ final.value name) : parameter ∈ final'.value name := by
  induction swept generalizing start start' with
  | nil =>
      cases success
      cases success'
      exact below name member
  | cons constraint rest ih =>
      rw [List.forall_mem_cons] at declared
      obtain ⟨target, left, _⟩ := declares_iff.mp declared.1
      obtain ⟨next, applied, onward⟩ := Iteration.sweep_cons success
      obtain ⟨next', applied', onward'⟩ := Iteration.sweep_cons success'
      refine ih declared.2 (Sweep.respects_of_apply respects applied)
        (Sweep.respects_of_apply respects' applied') (fun other held => ?_) onward onward'
      rw [mem_apply_iff respects' left applied']
      rcases (mem_apply_iff respects left applied other parameter).mp held with old | new
      · exact .inl (below other old)
      · exact .inr ⟨new.1, mem_requirement_mono below _ new.2⟩

end Sweeps

section Passes

variable {constraints : List CoeffectConstraint} {assignment next : Assignment} {parameter : String}

/-- The variables that constraints write. -/
def targets (constraints : List CoeffectConstraint) : Finset String :=
  ((remaining constraints).filterMap (sweep constraints).target?).toFinset

def holders (constraints : List CoeffectConstraint) (assignment : Assignment) (parameter : String) :
    Finset String :=
  {target ∈ targets constraints | parameter ∈ assignment.value target}

/-- Another pass gives a parameter to no further variable. -/
def Stable (constraints : List CoeffectConstraint) (assignment : Assignment) (parameter : String) :
    Prop :=
  ∀ next, pass (Partition.ofPairs (links constraints)) (remaining constraints) assignment = .ok next →
    ∀ name, parameter ∈ next.value name → parameter ∈ assignment.value name

private theorem card_targets_le (constraints : List CoeffectConstraint) :
    (targets constraints).card ≤ constraints.length := by
  calc (targets constraints).card
      ≤ ((remaining constraints).filterMap (sweep constraints).target?).length :=
        List.toFinset_card_le _
    _ ≤ (remaining constraints).length := List.length_filterMap_le _ _
    _ ≤ constraints.length := List.length_filter_le _ _

private theorem untouched_iff {name : String} :
    (sweep constraints).Untouched (remaining constraints) name ↔
      ∀ target ∈ targets constraints, ¬ (sweep constraints).Equivalent name target := by
  simp only [Sweep.Untouched, targets, List.mem_toFinset, List.mem_filterMap, Option.mem_def,
    forall_exists_index, and_imp]
  exact ⟨fun apart target constraint member targeted => apart constraint member target targeted,
    fun apart constraint member target targeted => apart target constraint member targeted⟩

theorem value_eq_of_equivalent (respects : (sweep constraints).classes.Respects assignment)
    {name target : String} (same : (sweep constraints).Equivalent name target) :
    assignment.value name = assignment.value target := by
  rw [Assignment.value, Assignment.value, respects name target same]

variable (respects : (sweep constraints).classes.Respects assignment)
  (passed : pass (Partition.ofPairs (links constraints)) (remaining constraints) assignment = .ok next)

include respects passed

private theorem stable_of_targets (kept : ∀ target ∈ targets constraints,
      parameter ∈ next.value target → parameter ∈ assignment.value target) :
    Stable constraints assignment parameter := by
  intro other passed' name member
  cases Except.ok.inj (passed.symm.trans passed')
  by_cases untouched : (sweep constraints).Untouched (remaining constraints) name
  · rw [Assignment.value, ← Sweep.get?_of_untouched untouched passed]
    exact member
  · rw [untouched_iff] at untouched
    push Not at untouched
    obtain ⟨target, written, same⟩ := untouched
    rw [value_eq_of_equivalent (Sweep.respects_of_sweep respects passed) same] at member
    rw [value_eq_of_equivalent respects same]
    exact kept target written member

variable (declared : ∀ constraint ∈ remaining constraints, declares constraint = true)

include declared

private theorem value_subset_of_pass (name : String) :
    ∀ parameter ∈ assignment.value name, parameter ∈ next.value name :=
  grows_of_sweep respects (onlyGrown_of_declared declared name) passed

/-- A pass in which some variable gains a parameter gives it to a variable that is written. -/
private theorem stable_or_card_lt (parameter : String) :
    Stable constraints assignment parameter ∨
      (holders constraints assignment parameter).card <
        (holders constraints next parameter).card := by
  by_cases kept : ∀ target ∈ targets constraints, parameter ∈ next.value target →
      parameter ∈ assignment.value target
  · exact .inl (stable_of_targets respects passed kept)
  · push Not at kept
    obtain ⟨target, written, gained, missing⟩ := kept
    have more : holders constraints assignment parameter ⊆ holders constraints next parameter :=
      Finset.monotone_filter_right _ fun other _ =>
        value_subset_of_pass respects passed declared other parameter
    refine .inr (Finset.card_lt_card ⟨more, fun back => missing ?_⟩)
    exact (Finset.mem_filter.mp (back (Finset.mem_filter.mpr ⟨written, gained⟩))).2

private theorem stable_after_pass (stable : Stable constraints assignment parameter) :
    Stable constraints next parameter := by
  intro later passed' name member
  exact sweep_mono declared (Sweep.respects_of_sweep respects passed) respects
    (fun other held => stable next passed other held) passed' passed name member

end Passes

/-- What holds after a number of passes from the empty assignment. -/
structure Stage (constraints : List CoeffectConstraint) (count : Nat) (assignment : Assignment) :
    Prop where
  respects : (sweep constraints).classes.Respects assignment
  assigned : count ≠ 0 → ∀ target ∈ targets constraints, assignment.contains target = true
  counted : ∀ parameter, Stable constraints assignment parameter ∨
    count ≤ (holders constraints assignment parameter).card

namespace Stage

variable {constraints : List CoeffectConstraint} {count : Nat} {assignment next : Assignment}

theorem start (constraints : List CoeffectConstraint) : Stage constraints 0 NameMap.empty :=
  { respects := Partition.respects_empty _
    assigned := fun impossible => absurd rfl impossible
    counted := fun _ => .inr (Nat.zero_le _) }

theorem after_pass (stage : Stage constraints count assignment)
    (declared : ∀ constraint ∈ remaining constraints, declares constraint = true)
    (passed : pass (Partition.ofPairs (links constraints)) (remaining constraints) assignment =
      .ok next) : Stage constraints (count + 1) next := by
  refine { respects := Sweep.respects_of_sweep stage.respects passed, assigned := ?_, counted := ?_ }
  · intro _ target written
    refine (sweep constraints).contains_of_sweep passed (.inr fun untouched => ?_)
    exact untouched_iff.mp untouched target written rfl
  · intro parameter
    rcases stage.counted parameter with stable | enough
    · exact .inl (stable_after_pass stage.respects passed declared stable)
    · rcases stable_or_card_lt stage.respects passed declared parameter with stable | more
      · exact .inl (stable_after_pass stage.respects passed declared stable)
      · exact .inr (by omega)

theorem stable (stage : Stage constraints (targets constraints).card assignment)
    (passed : pass (Partition.ofPairs (links constraints)) (remaining constraints) assignment =
      .ok next) (parameter : String) : Stable constraints assignment parameter := by
  rcases stage.counted parameter with stable | all
  · exact stable
  · have full : holders constraints assignment parameter = targets constraints :=
      Finset.eq_of_subset_of_card_le (Finset.filter_subset _ _) all
    refine stable_of_targets stage.respects passed fun target written _ => ?_
    rw [← full] at written
    exact (Finset.mem_filter.mp written).2

theorem eq_of_pass (stage : Stage constraints (targets constraints).card assignment)
    (declared : ∀ constraint ∈ remaining constraints, declares constraint = true)
    (passed : pass (Partition.ofPairs (links constraints)) (remaining constraints) assignment =
      .ok next) : assignment = next := by
  refine NameMap.ext_of_get? fun name => ?_
  by_cases untouched : (sweep constraints).Untouched (remaining constraints) name
  · exact (Sweep.get?_of_untouched untouched passed).symm
  · have touched := untouched
    rw [untouched_iff] at touched
    push Not at touched
    obtain ⟨target, written, same⟩ := touched
    have some : (targets constraints).card ≠ 0 := Finset.card_ne_zero_of_mem written
    have held := stage.assigned some target written
    have held' := (sweep constraints).contains_of_sweep passed (.inr untouched)
    rw [NameMap.contains, ← stage.respects name target same] at held
    refine get?_eq_of_value (held.trans held'.symm) (NameSet.ext_of_mem fun parameter => ⟨?_, ?_⟩)
    · exact value_subset_of_pass stage.respects passed declared name parameter
    · exact stage.stable passed parameter next passed name

end Stage

section Solutions

variable {constraints : List CoeffectConstraint} {assignment : Assignment} {solution : Solution}

private theorem declares_of_mem_remaining
    (declarative : ∀ constraint ∈ constraints,
      (isSkipped constraint || (link? constraint).isSome || declares constraint) = true) :
    ∀ constraint ∈ remaining constraints, declares constraint = true := by
  intro constraint member
  obtain ⟨listed, kept⟩ := List.mem_filter.mp member
  have cases := declarative constraint listed
  simp only [Bool.and_eq_true, Bool.not_eq_true', Option.isNone_iff_eq_none] at kept
  rw [kept.1, kept.2] at cases
  exact cases

private theorem mem_remaining {constraint : CoeffectConstraint} (member : constraint ∈ constraints)
    {target : String} (left : constraint.left = .var target)
    (valued : evaluable constraint.right = true) (apart : ∀ other, constraint.right ≠ .var other) :
    constraint ∈ remaining constraints := by
  refine List.mem_filter.mpr ⟨member, ?_⟩
  unfold isSkipped link?
  rw [left]
  cases right : constraint.right with
  | var other => exact absurd right (apart other)
  | unconstrained => rw [right] at valued; cases valued
  | _ => rfl

private theorem solve_succeeds (few : constraints.length < Iteration.defaultFuel)
    (declared : ∀ constraint ∈ remaining constraints, declares constraint = true) :
    ∃ solution, solve constraints = .ok solution := by
  apply solve_succeeds_of_settled
  refine Iteration.settled_of_stages (motive := Stage constraints) ?_ ?_
    (Stage.start constraints) (Nat.zero_le (targets constraints).card) ?_
  · intro count state stage
    obtain ⟨next, passed⟩ := sweep_succeeds declared state
    exact ⟨next, passed, stage.after_pass declared passed⟩
  · intro state next stage passed
    exact NameMap.agreesBy_eq_true_iff.mpr (stage.eq_of_pass declared passed)
  · have bounded := card_targets_le constraints
    omega

theorem reached_of_solve (solved : solve constraints = .ok solution) :
    Reached constraints solution.assignment := by
  unfold solve at solved
  dsimp only at solved
  split at solved
  · cases solved
    exact Iteration.run_invariant (fun _ _ before passed => before.next passed) .start
  · cases solved
  · cases solved

theorem Reached.respects (reached : Reached constraints assignment) :
    (sweep constraints).classes.Respects assignment := by
  induction reached with
  | start => exact Partition.respects_empty _
  | next _ passed ih => exact Sweep.respects_of_sweep ih passed

private theorem Reached.advances (reached : Reached constraints assignment)
    (declared : ∀ constraint ∈ remaining constraints, declares constraint = true) :
    ∃ next, pass (Partition.ofPairs (links constraints)) (remaining constraints) assignment =
      .ok next ∧ assignment.Within next := by
  obtain ⟨next, passed⟩ := sweep_succeeds declared assignment
  refine ⟨next, passed, fun name held found => ?_⟩
  obtain ⟨larger, found'⟩ := NameMap.contains_iff_exists.mp ((sweep constraints).contains_of_sweep
    passed (.inl (NameMap.contains_iff_exists.mpr ⟨held, found⟩)))
  refine ⟨larger, found', fun parameter member => ?_⟩
  have grown := value_subset_of_pass reached.respects passed declared name parameter
  rw [Assignment.value, Assignment.value, found, found'] at grown
  exact grown member

/-- No pass gives a variable more than every closed map does. -/
private theorem Reached.values_le (reached : Reached constraints assignment)
    (declared : ∀ constraint ∈ remaining constraints, declares constraint = true)
    {values : String → Set String} (closed : Closed constraints values) :
    assignment.values ≤ values := by
  induction reached with
  | start => exact fun name parameter member => absurd member NameSet.not_mem_empty
  | next before passed ih =>
      refine (Iteration.sweep_relates (motive := fun first second : Assignment =>
        (sweep constraints).classes.Respects first ∧ first.values ≤ values →
          (sweep constraints).classes.Respects second ∧ second.values ≤ values) (fun _ => id)
        (fun _ _ _ early late => late ∘ early) ?_ passed ⟨before.respects, ih⟩).2
      rintro constraint member state next applied ⟨respects, below⟩
      obtain ⟨target, left, valued⟩ := declares_iff.mp (declared constraint member)
      refine ⟨Sweep.respects_of_apply respects applied, fun name parameter held => ?_⟩
      rcases (mem_apply_iff respects left applied name parameter).mp held with old | ⟨same, new⟩
      · exact below name old
      · rw [closed.linked name target (equivalent_iff_linked.mp same)]
        exact closed.declared constraint (List.mem_filter.mp member).1 target left valued
          (mem_requirement_mono (fun other => @below other parameter) _ new)

private theorem closed_of_solve (solved : solve constraints = .ok solution)
    (declared : ∀ constraint ∈ remaining constraints, declares constraint = true) :
    Closed constraints solution.assignment.values := by
  obtain ⟨fixed, respects⟩ := fixed_of_solve solved
  have linked (first second : String) (chain : Linked constraints first second) :
      solution.assignment.values first = solution.assignment.values second := by
    unfold Assignment.values
    rw [value_eq_of_equivalent respects (equivalent_iff_linked.mpr chain)]
  refine ⟨linked, fun constraint member target left valued parameter required => ?_⟩
  by_cases linking : ∃ other, constraint.right = .var other
  · obtain ⟨other, right⟩ := linking
    have edge : ⟨.var target, .var other⟩ ∈ constraints := by
      rw [← left, ← right]
      exact member
    rw [linked target other (.rel target other edge)]
    rw [right] at required
    exact required
  · push Not at linking
    exact mem_of_sweep declared respects fixed (mem_remaining member left valued linking) left
      required

private theorem isLeast_of_solve (solved : solve constraints = .ok solution)
    (declared : ∀ constraint ∈ remaining constraints, declares constraint = true) :
    IsLeast {values | Closed constraints values} solution.assignment.values :=
  ⟨closed_of_solve solved declared,
    fun _ closed => (reached_of_solve solved).values_le declared closed⟩

theorem contains_iff_of_solve (solved : solve constraints = .ok solution) {name : String} :
    solution.assignment.contains name = true ↔
      ∃ target ∈ targets constraints, Linked constraints name target := by
  rw [Sweep.contains_iff_of_fixed (fixed_of_solve solved).1 (visits_of_solve solved)]
  simp only [targets, List.mem_toFinset, List.mem_filterMap, equivalent_iff_linked, Option.mem_def]
  constructor
  · rintro ⟨constraint, member, target, targeted, linked⟩
    exact ⟨target, ⟨constraint, member, targeted⟩, linked⟩
  · rintro ⟨target, ⟨constraint, member, targeted⟩, linked⟩
    exact ⟨constraint, member, target, targeted, linked⟩

end Solutions

section Reordering

variable {constraints reordered : List CoeffectConstraint} (same : constraints.Perm reordered)

include same

theorem linked_of_perm : Linked reordered = Linked constraints := by
  unfold Linked
  congr 1
  funext first second
  exact propext same.mem_iff.symm

private theorem closed_of_perm {values : String → Set String} (closed : Closed constraints values) :
    Closed reordered values := by
  refine ⟨?_, fun constraint member => closed.declared constraint (same.mem_iff.mpr member)⟩
  rw [linked_of_perm same]
  exact closed.linked

theorem targets_of_perm : targets reordered = targets constraints := by
  refine List.toFinset_eq_of_perm _ _ ?_
  exact ((same.filter _).filterMap _).symm

private theorem assignment_eq_of_perm {solution solution' : Solution}
    (declared : ∀ constraint ∈ remaining constraints, declares constraint = true)
    (declared' : ∀ constraint ∈ remaining reordered, declares constraint = true)
    (solved : solve constraints = .ok solution) (solved' : solve reordered = .ok solution') :
    solution'.assignment = solution.assignment := by
  have closed : {values | Closed reordered values} = {values | Closed constraints values} :=
    Set.ext fun values => ⟨closed_of_perm same.symm, closed_of_perm same⟩
  have least := isLeast_of_solve solved' declared'
  rw [closed] at least
  have values := least.unique (isLeast_of_solve solved declared)
  refine NameMap.ext_of_get? fun name => get?_eq_of_value ?_ ?_
  · rw [Bool.eq_iff_iff, contains_iff_of_solve solved', contains_iff_of_solve solved,
      targets_of_perm same, linked_of_perm same]
  · refine NameSet.ext_of_mem fun parameter => ?_
    have member : parameter ∈ solution'.assignment.values name ↔
        parameter ∈ solution.assignment.values name := by rw [values]
    exact member

end Reordering

/-- Declarations of parameters, which may depend on each other in a cycle, have a least solution.
Passes only add to what is assigned, solving succeeds with the least sets that obey the
constraints, and the assignment does not depend on the order of the constraints. -/
theorem solve_isLeast {constraints : List CoeffectConstraint}
    (few : constraints.length < Iteration.defaultFuel)
    (declarative : ∀ constraint ∈ constraints,
      (isSkipped constraint || (link? constraint).isSome || declares constraint) = true) :
    (∀ assignment, Reached constraints assignment →
      ∃ next, pass (Partition.ofPairs (links constraints)) (remaining constraints) assignment =
        .ok next ∧ assignment.Within next) ∧
    ∃ solution, solve constraints = .ok solution ∧
      IsLeast {values | Closed constraints values} solution.assignment.values ∧
      ∀ reordered, constraints.Perm reordered →
        ∃ solution', solve reordered = .ok solution' ∧
          solution'.assignment = solution.assignment := by
  have declared := declares_of_mem_remaining declarative
  refine ⟨fun assignment reached => reached.advances declared, ?_⟩
  obtain ⟨solution, solved⟩ := solve_succeeds few declared
  refine ⟨solution, solved, isLeast_of_solve solved declared, fun reordered same => ?_⟩
  have declared' : ∀ constraint ∈ remaining reordered, declares constraint = true :=
    declares_of_mem_remaining fun constraint member =>
      declarative constraint (same.mem_iff.mpr member)
  obtain ⟨solution', solved'⟩ := solve_succeeds (same.length_eq ▸ few) declared'
  exact ⟨solution', solved', assignment_eq_of_perm same declared declared' solved solved'⟩

theorem solve_isLeast_of_cycle :
    ∃ solution, solve [⟨.var "a", .var "b"⟩, ⟨.var "b", .merge (.var "c") (.param "x" .absent)⟩,
        ⟨.var "c", .seq (.var "a") (.param "y" .absent)⟩] = .ok solution ∧
      solution.assignment.value "b" = NameSet.ofList ["x", "y"] ∧
      IsLeast {values | Closed [⟨.var "a", .var "b"⟩,
        ⟨.var "b", .merge (.var "c") (.param "x" .absent)⟩,
        ⟨.var "c", .seq (.var "a") (.param "y" .absent)⟩] values} solution.assignment.values := by
  have both : solve [⟨.var "a", .var "b"⟩, ⟨.var "b", .merge (.var "c") (.param "x" .absent)⟩,
      ⟨.var "c", .seq (.var "a") (.param "y" .absent)⟩] =
        .ok ⟨NameMap.ofList [("a", NameSet.ofList ["x", "y"]), ("b", NameSet.ofList ["x", "y"]),
          ("c", NameSet.ofList ["x", "y"])], []⟩ := by decide +kernel
  obtain ⟨_, solution, solved, least, _⟩ := @solve_isLeast [⟨.var "a", .var "b"⟩,
    ⟨.var "b", .merge (.var "c") (.param "x" .absent)⟩,
    ⟨.var "c", .seq (.var "a") (.param "y" .absent)⟩] (by decide) (by decide)
  refine ⟨solution, solved, ?_, least⟩
  cases Except.ok.inj (both.symm.trans solved)
  decide +kernel

end CoeffectSolver.Implicit
