import CoeffectSolver.Proofs.Unification.Transition

/-! The solutions of a unification problem modulo a relation between coeffects, and that every step
keeps them: the solutions of a state are the solutions of the next one that also relate the
annotations recorded on the way. -/

namespace CoeffectSolver

/-- A replacement of variables that agrees with a substitution up to related annotations. -/
def Substitution.RespectedBy (assigned : Substitution) (related : Coeffect → Coeffect → Prop)
    (image : String → Ty) : Prop :=
  ∀ name held, assigned.get? name = some held →
    Ty.AlikeUpTo related (image name) (held.replace image)

namespace Unifier

variable {related : Coeffect → Coeffect → Prop} {image : String → Ty}

/-- A replacement of variables that makes the sides of a pair alike. -/
def Pending.UnifiedBy (pending : Pending) (related : Coeffect → Coeffect → Prop)
    (image : String → Ty) : Prop :=
  Ty.AlikeUpTo related (pending.left.replace image) (pending.right.replace image)

/-- A replacement of variables that respects the substitution of a state and unifies the pairs that
are left. -/
structure State.SolvedBy (state : State) (related : Coeffect → Coeffect → Prop)
    (image : String → Ty) : Prop where
  assigned : state.assigned.RespectedBy related image
  work : ∀ pending ∈ state.work.items, pending.UnifiedBy related image

theorem State.schedule_solvedBy_iff {state : State} {pairs : List Pending} :
    (state.schedule pairs).SolvedBy related image ↔
      state.SolvedBy related image ∧ ∀ pending ∈ pairs, pending.UnifiedBy related image := by
  constructor
  · intro solved
    refine ⟨⟨solved.assigned, fun pending member => solved.work pending ?_⟩,
      fun pending member => solved.work pending ?_⟩
    · exact List.mem_append_right pairs.reverse.reverse member
    · rw [State.schedule, Worklist.items_schedule]
      exact List.mem_append_left _ member
  · rintro ⟨solved, unified⟩
    refine ⟨solved.assigned, fun pending member => ?_⟩
    rw [State.schedule, Worklist.items_schedule] at member
    rcases List.mem_append.mp member with new | old
    · exact unified pending new
    · exact solved.work pending old

private theorem State.record_solvedBy_iff {state : State} {left right : Coeffect} :
    (state.record left right).SolvedBy related image ↔ state.SolvedBy related image :=
  ⟨fun solved => ⟨solved.assigned, solved.work⟩, fun solved => ⟨solved.assigned, solved.work⟩⟩

private theorem State.bound_solvedBy_iff {state : State} {name : String} {type : Ty}
    (unassigned : state.assigned.get? name = none) :
    State.SolvedBy { state with assigned := state.assigned.insert name type } related image ↔
      state.SolvedBy related image ∧
        Ty.AlikeUpTo related (image name) (type.replace image) := by
  constructor
  · intro solved
    refine ⟨⟨fun other held found => solved.assigned other held ?_, solved.work⟩,
      solved.assigned name type ?_⟩
    · have different : other ≠ name := by
        intro same
        rw [same, unassigned] at found
        cases found
      rw [NameMap.get?_insert, if_neg different]
      exact found
    · rw [NameMap.get?_insert, if_pos rfl]
  · intro both
    refine ⟨fun other held found => ?_, both.1.work⟩
    rw [NameMap.get?_insert] at found
    split at found
    · rename_i same
      cases found
      rw [same]
      exact both.2
    · exact both.1.assigned other held found

private theorem unifiedBy_zipWith_iff {pending : Pending} {elements elements' : List Ty}
    (lengths : elements.length = elements'.length) :
    (∀ part ∈ List.zipWith pending.successor elements elements', part.UnifiedBy related image) ↔
      Ty.AlikeUpTo related ((Ty.tuple elements).replace image)
        ((Ty.tuple elements').replace image) := by
  rw [Ty.replace_tuple, Ty.replace_tuple, Ty.AlikeUpTo.tuple_iff, List.forall₂_map_left_iff,
    List.forall₂_map_right_iff]
  induction elements generalizing elements' with
  | nil =>
      cases elements' with
      | nil => simp
      | cons first' rest' => cases lengths
  | cons first rest ih =>
      cases elements' with
      | nil => cases lengths
      | cons first' rest' =>
          rw [List.zipWith_cons_cons, List.forall_mem_cons, List.forall₂_cons,
            ih (Nat.succ.inj lengths)]
          exact Iff.rfl

private theorem State.keeps_of_unrecorded {state next : State} {pending : Pending}
    (unrecorded : next.equalities = state.equalities)
    (solutions : ∀ related, Equivalence related → ∀ image,
      next.SolvedBy related image ↔
        state.SolvedBy related image ∧ pending.UnifiedBy related image) :
    ∃ found, next.equalities.toList = state.equalities.toList ++ found ∧
      ∀ related, Equivalence related → ∀ image,
        (next.SolvedBy related image ∧
            ∀ equality ∈ found, related equality.left equality.right) ↔
          (state.SolvedBy related image ∧ pending.UnifiedBy related image) := by
  refine ⟨[], by rw [unrecorded, List.append_nil], fun related equivalent image => ?_⟩
  rw [← solutions related equivalent image]
  exact and_iff_left fun _ member => absurd member List.not_mem_nil

/-- What a step records, and that it keeps the solutions of the pair it handles. -/
theorem State.step_keeps_solutions {state next : State} {pending : Pending}
    (handled : state.step pending = .ok next) :
    ∃ found, next.equalities.toList = state.equalities.toList ++ found ∧
      ∀ related, Equivalence related → ∀ image,
        (next.SolvedBy related image ∧
            ∀ equality ∈ found, related equality.left equality.right) ↔
          (state.SolvedBy related image ∧ pending.UnifiedBy related image) := by
  have outcome := state.step_outcome pending
  rw [handled] at outcome
  cases outcome with
  | followLeft side found =>
      refine State.keeps_of_unrecorded rfl fun related equivalent image => ?_
      have alike := Ty.AlikeUpTo.equivalence equivalent
      rw [State.schedule_solvedBy_iff, List.forall_mem_singleton]
      refine and_congr_right fun solved => ?_
      have assignment := solved.assigned _ _ found
      unfold Pending.UnifiedBy
      rw [side]
      exact ⟨fun unified => alike.trans assignment (alike.symm unified),
        fun unified => alike.trans (alike.symm unified) assignment⟩
  | followRight side found =>
      refine State.keeps_of_unrecorded rfl fun related equivalent image => ?_
      have alike := Ty.AlikeUpTo.equivalence equivalent
      rw [State.schedule_solvedBy_iff, List.forall_mem_singleton]
      refine and_congr_right fun solved => ?_
      have assignment := solved.assigned _ _ found
      unfold Pending.UnifiedBy
      rw [side]
      exact ⟨fun unified => alike.trans unified (alike.symm assignment),
        fun unified => alike.trans unified assignment⟩
  | drop same =>
      refine State.keeps_of_unrecorded rfl fun related equivalent image => ?_
      have unified : pending.UnifiedBy related image := by
        rw [Pending.UnifiedBy, same]
        exact Ty.AlikeUpTo.refl equivalent _
      exact (and_iff_left unified).symm
  | @bind name type sides unassigned _ =>
      refine State.keeps_of_unrecorded rfl fun related equivalent image => ?_
      have unified : pending.UnifiedBy related image ↔
          Ty.AlikeUpTo related (image name) (type.replace image) := by
        unfold Pending.UnifiedBy
        rcases sides with ⟨left, right⟩ | ⟨left, right⟩
        · rw [left, right, Ty.replace_of_var]
        · rw [left, right, Ty.replace_of_var]
          exact ⟨Ty.AlikeUpTo.symm equivalent, Ty.AlikeUpTo.symm equivalent⟩
      rw [State.bound_solvedBy_iff unassigned, unified]
  | @arrow declaration call declaration' call' argument result argument' result' left right =>
      refine ⟨[{ left := declaration, right := declaration' }, { left := call, right := call' }],
        by simp [State.schedule, State.record], fun related _ image => ?_⟩
      simp only [State.schedule_solvedBy_iff, State.record_solvedBy_iff, List.forall_mem_cons,
        List.not_mem_nil, false_implies, implies_true, and_true]
      unfold Pending.UnifiedBy
      rw [left, right, Ty.replace_arrow, Ty.replace_arrow, Ty.AlikeUpTo.arrow_iff]
      exact ⟨fun ⟨⟨solved, parts⟩, annotations⟩ => ⟨solved, annotations, parts⟩,
        fun ⟨solved, annotations, parts⟩ => ⟨⟨solved, parts⟩, annotations⟩⟩
  | tuple left right lengths =>
      refine State.keeps_of_unrecorded rfl fun related _ image => ?_
      rw [State.schedule_solvedBy_iff, unifiedBy_zipWith_iff lengths, Pending.UnifiedBy, left, right]
  | @comonad requirement requirement' inner inner' left right =>
      refine ⟨[{ left := requirement, right := requirement' }],
        by simp [State.schedule, State.record], fun related _ image => ?_⟩
      simp only [State.schedule_solvedBy_iff, State.record_solvedBy_iff, List.forall_mem_singleton]
      unfold Pending.UnifiedBy
      rw [left, right, Ty.replace_comonad, Ty.replace_comonad, Ty.AlikeUpTo.comonad_iff]
      exact ⟨fun ⟨⟨solved, parts⟩, annotations⟩ => ⟨solved, annotations, parts⟩,
        fun ⟨solved, annotations, parts⟩ => ⟨⟨solved, parts⟩, annotations⟩⟩

/-- A state and a later one, with the equalities recorded in between: the solutions of the first are
the solutions of the second that relate these equalities. -/
structure State.Reduces (state next : State) (found : List CoeffectConstraint) : Prop where
  recorded : next.equalities.toList = state.equalities.toList ++ found
  solutions : ∀ related, Equivalence related → ∀ image,
    (next.SolvedBy related image ∧ ∀ equality ∈ found, related equality.left equality.right) ↔
      state.SolvedBy related image

theorem State.Reduces.refl (state : State) : state.Reduces state [] := by
  refine ⟨(List.append_nil _).symm, fun related _ image => ?_⟩
  simp only [List.not_mem_nil, false_implies, implies_true, and_true]

theorem State.Reduces.trans {first second third : State} {found found' : List CoeffectConstraint}
    (before : first.Reduces second found) (after : second.Reduces third found') :
    first.Reduces third (found ++ found') := by
  refine ⟨?_, fun related equivalent image => ?_⟩
  · rw [after.recorded, before.recorded, List.append_assoc]
  · rw [← before.solutions related equivalent image, ← after.solutions related equivalent image,
      List.forall_mem_append, and_assoc]
    exact and_congr_right fun _ => and_comm

theorem State.reduces_of_step {state next : State} {pending : Pending} {rest : List Pending}
    (items : state.work.items = pending :: rest)
    (handled : State.step { state with work := ⟨rest⟩ } pending = .ok next) :
    ∃ found, state.Reduces next found := by
  obtain ⟨found, recorded, solutions⟩ := State.step_keeps_solutions handled
  refine ⟨found, recorded, fun related equivalent image => ?_⟩
  rw [solutions related equivalent image]
  constructor
  · intro both
    refine ⟨both.1.assigned, ?_⟩
    rw [items, List.forall_mem_cons]
    exact ⟨both.2, both.1.work⟩
  · intro solved
    have all := solved.work
    rw [items, List.forall_mem_cons] at all
    exact ⟨⟨solved.assigned, all.2⟩, all.1⟩

theorem State.reduces_of_run {budget fuel : Nat} {state final : State}
    (ran : state.run budget fuel = .ok final) :
    final.work.items = [] ∧ ∃ found, state.Reduces final found := by
  refine State.run_induction (motive := fun state =>
    final.work.items = [] ∧ ∃ found, state.Reduces final found) ?_ ?_ ran
  · intro finished
    exact ⟨finished, [], State.Reduces.refl final⟩
  · intro state pending rest next items handled onward
    obtain ⟨finished, later, after⟩ := onward
    obtain ⟨found, before⟩ := State.reduces_of_step items handled
    exact ⟨finished, found ++ later, before.trans after⟩

theorem initial_solvedBy_iff {constraints : List TypeConstraint} {assigned : Substitution}
    {equalities : List CoeffectConstraint} :
    (initial constraints assigned equalities).SolvedBy related image ↔
      assigned.RespectedBy related image ∧
        ∀ constraint ∈ constraints, Ty.AlikeUpTo related (constraint.left.replace image)
          (constraint.right.replace image) := by
  constructor
  · intro solved
    refine ⟨solved.assigned, fun constraint member => ?_⟩
    exact solved.work { left := constraint.left, right := constraint.right, origin := constraint }
      (List.mem_map.mpr ⟨constraint, member, rfl⟩)
  · intro both
    refine ⟨both.1, fun pending member => ?_⟩
    obtain ⟨constraint, given, same⟩ := List.mem_map.mp member
    rw [← same]
    exact both.2 constraint given

end Unifier

section Entry

variable {constraints : List TypeConstraint} {assigned : Substitution}
  {equalities : List CoeffectConstraint} {unified : Unified}

theorem unify_eq_map_run : unify constraints assigned equalities =
    ((Unifier.initial constraints assigned equalities).run (Unifier.budget constraints)
      (Unifier.budget constraints)).map fun final =>
        { assigned := final.assigned.resolved, equalities := final.equalities.toList } := by
  unfold unify
  dsimp only
  cases (Unifier.initial constraints assigned equalities).run (Unifier.budget constraints)
      (Unifier.budget constraints) with
  | error fault => rfl
  | ok final => rfl

/-- A successful unification is a finished run, of which it gives the resolved substitution. -/
theorem run_of_unify_eq_ok (succeeded : unify constraints assigned equalities = .ok unified) :
    ∃ final : Unifier.State,
      (Unifier.initial constraints assigned equalities).run (Unifier.budget constraints)
          (Unifier.budget constraints) = .ok final ∧
        unified.assigned = final.assigned.resolved ∧
        unified.equalities = final.equalities.toList := by
  rw [unify_eq_map_run] at succeeded
  cases ran : (Unifier.initial constraints assigned equalities).run (Unifier.budget constraints)
      (Unifier.budget constraints) with
  | error fault => rw [ran] at succeeded; cases succeeded
  | ok final =>
      rw [ran] at succeeded
      cases succeeded
      exact ⟨final, rfl, rfl, rfl⟩

end Entry

end CoeffectSolver
