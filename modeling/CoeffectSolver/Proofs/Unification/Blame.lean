import CoeffectSolver.Proofs.Unification.Agreement
import CoeffectSolver.Proofs.Unification.Recursion
import Mathlib.Data.Nat.Order.Lemmas
import Mathlib.Order.Bounds.Defs

/-! The constraint that a mismatch is blamed on. Pairs of one constraint are handled before those of
the next one, so a run that fails has solved the constraints before the one it fails on; and since
solvable constraints never fail, the one it fails on is the first that cannot be solved together
with those before it. What comes later is never looked at. -/

namespace CoeffectSolver

/-- A replacement of variables that, with annotations erased everywhere, agrees with a substitution
and makes the sides of every constraint equal. -/
structure Substitution.ErasedUnifier (assigned : Substitution) (constraints : List TypeConstraint)
    (image : String → Ty) : Prop where
  assigned : ∀ name held, assigned.get? name = some held → image name = held.erase.replace image
  constraints : ∀ constraint ∈ constraints,
    constraint.left.erase.replace image = constraint.right.erase.replace image

namespace Unifier

section Erasure

variable {constraints : List TypeConstraint} {assigned : Substitution}
  {equalities : List CoeffectConstraint}

theorem solvedBy_of_erasedUnifier {image : String → Ty}
    (unifies : assigned.ErasedUnifier constraints image) :
    (initial constraints assigned equalities).SolvedBy (fun _ _ => True)
      (fun name => (image name).erase) := by
  have erased (type : Ty) : (type.replace fun name => (image name).erase).erase =
      (type.erase.replace image).erase := by
    rw [Ty.erase_replace, Ty.erase_replace, Ty.erase_erase]
    simp only [Ty.erase_erase]
  apply initial_solvedBy_iff.mpr
  constructor
  · intro name held found
    apply Ty.alikeUpTo_of_erase_eq
    rw [erased, ← unifies.assigned name held found, Ty.erase_erase]
  · intro constraint member
    apply Ty.alikeUpTo_of_erase_eq
    rw [erased, erased, unifies.constraints constraint member]

theorem erasedUnifier_of_solvedBy {image : String → Ty}
    (solved : (initial constraints assigned equalities).SolvedBy (fun _ _ => True) image) :
    assigned.ErasedUnifier constraints (fun name => (image name).erase) := by
  obtain ⟨respected, unified⟩ := initial_solvedBy_iff.mp solved
  constructor
  · intro name held found
    rw [(respected name held found).erase_eq, Ty.erase_replace]
  · intro constraint member
    rw [← Ty.erase_replace, ← Ty.erase_replace, (unified constraint member).erase_eq]

end Erasure

section Runs

variable {budget fuel : Nat} {state : State} {fault : Fault}

/-- A run handles the pairs on top as if nothing lay below them, and what lies below afterwards. -/
theorem run_withWork_below (found : Findings) (batch rest : List Pending) (budget fuel : Nat) :
    ∃ left, (found.withWork (batch ++ rest)).run budget fuel =
      ((found.withWork batch).run budget fuel).bind fun final =>
        (final.schedule rest).run budget left := by
  have empty (found : Findings) (fuel : Nat) : (found.withWork ([] ++ rest)).run budget fuel =
      ((found.withWork []).run budget fuel).bind fun final =>
        (final.schedule rest).run budget fuel := by
    have done : (found.withWork []).run budget fuel = .ok (found.withWork []) :=
      State.run_of_done rfl
    rw [done, Except.bind, Findings.schedule_withWork, List.append_nil, List.nil_append]
  induction fuel generalizing found batch with
  | zero =>
      cases batch with
      | nil => exact ⟨0, empty found 0⟩
      | cons pending batch => exact ⟨0, rfl⟩
  | succ fuel ih =>
      cases batch with
      | nil => exact ⟨fuel + 1, empty found (fuel + 1)⟩
      | cons pending batch =>
          have whole : (found.withWork (pending :: batch ++ rest)).run budget (fuel + 1) =
              ((found.withWork (batch ++ rest)).step pending).bind (State.run budget fuel) :=
            State.run_succ rfl
          have alone : (found.withWork (pending :: batch)).run budget (fuel + 1) =
              ((found.withWork batch).step pending).bind (State.run budget fuel) :=
            State.run_succ rfl
          rw [whole, alone]
          cases applies pending found with
          | fails fault _ worklist =>
              rw [worklist, worklist]
              exact ⟨0, rfl⟩
          | leaves found' parts _ worklist =>
              rw [worklist, worklist, Except.bind, Except.bind, ← List.append_assoc]
              exact ih found' (parts ++ batch)

/-- A mismatch is met again with any larger fuel, and whatever the budget is said to be. -/
theorem State.run_mismatch_of_le {budget' fuel' : Nat} (kind : fault.kind = .typeMismatch)
    (ran : state.run budget fuel = .error fault) (more : fuel ≤ fuel') :
    state.run budget' fuel' = .error fault := by
  induction fuel generalizing state fuel' with
  | zero =>
      unfold State.run at ran
      split at ran
      · cases ran
      · cases ran
        cases kind
  | succ fuel ih =>
      obtain ⟨fuel', rfl⟩ := Nat.exists_eq_add_one_of_ne_zero (Nat.ne_zero_of_lt more)
      cases items : state.work.items with
      | nil =>
          rw [State.run_of_done items] at ran
          cases ran
      | cons pending rest =>
          rw [State.run_succ items] at ran ⊢
          cases handled : State.step { state with work := ⟨rest⟩ } pending with
          | error reported =>
              rw [handled] at ran
              exact ran
          | ok next =>
              rw [handled] at ran
              exact ih ran (by omega)

/-- The pairs that a step leaves were there before or stem from the constraint of the handled
one. -/
theorem State.origin_of_step {next : State} {pending part : Pending}
    (handled : state.step pending = .ok next) (member : part ∈ next.work.items) :
    part ∈ state.work.items ∨ part.origin = pending.origin := by
  have outcome := state.step_outcome pending
  rw [handled] at outcome
  have scheduled {before : State} {batch : List Pending}
      (stem : ∀ part ∈ batch, part.origin = pending.origin)
      (listed : part ∈ (before.schedule batch).work.items) :
      part ∈ before.work.items ∨ part.origin = pending.origin := by
    rw [State.items_schedule] at listed
    rcases List.mem_append.mp listed with new | old
    · exact .inr (stem part new)
    · exact .inl old
  cases outcome with
  | followLeft =>
      apply scheduled _ member
      exact List.forall_mem_singleton.mpr rfl
  | followRight =>
      apply scheduled _ member
      exact List.forall_mem_singleton.mpr rfl
  | drop => exact .inl member
  | bind => exact .inl member
  | arrow =>
      apply scheduled _ member
      exact List.forall_mem_cons.mpr ⟨rfl, List.forall_mem_singleton.mpr rfl⟩
  | tuple =>
      apply scheduled _ member
      intro part listed
      obtain ⟨place, _, rfl⟩ := List.mem_iff_getElem.mp listed
      rw [List.getElem_zipWith]
      rfl
  | comonad =>
      apply scheduled _ member
      exact List.forall_mem_singleton.mpr rfl

end Runs

end Unifier

/-- How a mismatch points at a constraint: it is between the sides of the constraint and no remark
says where it was found, or its last remark does. -/
def Blames (constraint : TypeConstraint) : Fault → Prop
  | .typeMismatch first second remarks =>
      first = constraint.left ∧ second = constraint.right ∧
          (remarks = [] ∨ ∃ name type, remarks = [.occurs name type]) ∨
        remarks.getLast? = some (.inConstraint constraint) ∧
          ∃ start, Fault.reason remarks =
            start ++ ("in constraint '" ++ constraint.display ++ "'")
  | _ => False

namespace Unifier

theorem Pending.isOrigin_iff {pending : Pending} : pending.isOrigin = true ↔
    pending.left = pending.origin.left ∧ pending.right = pending.origin.right := by
  rw [Pending.isOrigin, Bool.and_eq_true, Ty.equal_iff_eq, Ty.equal_iff_eq]

theorem Pending.blames_mismatch {pending : Pending} {remarks : List MismatchRemark}
    (unplaced : remarks = [] ∨ ∃ name type, remarks = [.occurs name type]) :
    Blames pending.origin (pending.mismatch remarks) := by
  unfold Pending.mismatch
  by_cases whole : pending.isOrigin = true
  · obtain ⟨left, right⟩ := Pending.isOrigin_iff.mp whole
    rw [if_pos whole]
    exact .inl ⟨left, right, unplaced⟩
  · rw [if_neg whole]
    rcases unplaced with rfl | ⟨name, type, rfl⟩
    · exact .inr ⟨rfl, "", String.empty_append.symm⟩
    · exact .inr ⟨rfl, (MismatchRemark.occurs name type).message ++ ", ", rfl⟩

/-- A mismatch met while only pairs of one constraint are left blames that constraint. -/
theorem State.blames_of_run {budget fuel : Nat} {state : State} {fault : Fault}
    {constraint : TypeConstraint}
    (stem : ∀ pending ∈ state.work.items, pending.origin = constraint)
    (kind : fault.kind = .typeMismatch) (ran : state.run budget fuel = .error fault) :
    Blames constraint fault := by
  have kept (state : State) (pending : Pending) (rest : List Pending) (next : State)
      (items : state.work.items = pending :: rest)
      (handled : State.step { state with work := ⟨rest⟩ } pending = .ok next)
      (stem : ∀ pending ∈ state.work.items, pending.origin = constraint) :
      ∀ pending ∈ next.work.items, pending.origin = constraint := by
    rw [items, List.forall_mem_cons] at stem
    intro part member
    rcases State.origin_of_step handled member with old | same
    · exact stem.2 part old
    · rw [same]
      exact stem.1
  rcases State.run_failure kept stem ran with
    exhausted | ⟨last, pending, rest, lastStem, items, failed⟩
  · rw [exhausted] at kind
    cases kind
  · have origin : pending.origin = constraint := by
      apply lastStem pending
      rw [items]
      exact List.mem_cons_self
    rw [← origin]
    have outcome := State.step_outcome { last with work := ⟨rest⟩ } pending
    rw [failed] at outcome
    cases outcome with
    | occurs => exact Pending.blames_mismatch (.inr ⟨_, _, rfl⟩)
    | clash => exact Pending.blames_mismatch (.inl rfl)

end Unifier

section Blame

variable {constraints : List TypeConstraint} {assigned : Substitution}
  {equalities : List CoeffectConstraint} {fault : Fault} {budget fuel : Nat}

open Unifier (initial)

/-- The pair that a constraint stands for at the start. -/
def Unifier.Pending.ofConstraint (constraint : TypeConstraint) : Pending :=
  { left := constraint.left, right := constraint.right, origin := constraint }

theorem run_initial_append (first second : List TypeConstraint) (budget fuel : Nat) :
    ∃ left, (initial (first ++ second) assigned equalities).run budget fuel =
      ((initial first assigned equalities).run budget fuel).bind fun final =>
        (final.schedule (second.map Unifier.Pending.ofConstraint)).run budget left := by
  have split := Unifier.run_withWork_below { assigned, equalities }
    (first.map Unifier.Pending.ofConstraint) (second.map Unifier.Pending.ofConstraint) budget fuel
  rw [← List.map_append] at split
  exact split

theorem run_initial_append_of_error {further : List TypeConstraint}
    (ran : (initial constraints assigned equalities).run budget fuel = .error fault) :
    (initial (constraints ++ further) assigned equalities).run budget fuel = .error fault := by
  obtain ⟨left, split⟩ := run_initial_append constraints further budget fuel
  rw [split, ran, Except.bind]

theorem exists_erasedUnifier_of_run {final : Unifier.State} (acyclic : assigned.Acyclic)
    (ran : (initial constraints assigned equalities).run budget fuel = .ok final) :
    ∃ image, assigned.ErasedUnifier constraints image := by
  obtain ⟨finished, found, reduces⟩ := Unifier.State.reduces_of_run ran
  have finalAcyclic : final.assigned.Acyclic := Unifier.State.acyclic_of_run acyclic ran
  have finalSolved : final.SolvedBy (fun _ _ => True)
      (fun name => final.assigned.apply (.var name)) := by
    refine ⟨finalAcyclic.respectedBy_apply equivalence_true, ?_⟩
    rw [finished]
    intro pending member
    cases member
  have solved := (reduces.solutions _ equivalence_true _).mp ⟨finalSolved, fun _ _ => trivial⟩
  exact ⟨_, Unifier.erasedUnifier_of_solvedBy solved⟩

theorem not_exists_erasedUnifier_of_run (kind : fault.kind = .typeMismatch)
    (ran : (initial constraints assigned equalities).run budget fuel = .error fault) :
    ¬ ∃ image, assigned.ErasedUnifier constraints image := by
  rintro ⟨image, unifies⟩
  have solved : (initial constraints assigned equalities).SolvedBy (fun _ _ => True)
      (fun name => (image name).erase) := Unifier.solvedBy_of_erasedUnifier unifies
  rw [Unifier.State.run_error_of_solvedBy equivalence_true solved ran] at kind
  cases kind

/-- A failed run fails on one of its constraints: the constraints before it run to an end, and with
it the run fails in the same way. -/
theorem exists_failing_constraint
    (ran : (initial constraints assigned equalities).run budget fuel = .error fault) :
    ∃ place constraint final, constraints[place]? = some constraint ∧
      (initial (constraints.take place) assigned equalities).run budget fuel = .ok final ∧
      (initial (constraints.take (place + 1)) assigned equalities).run budget fuel =
        .error fault := by
  have never : ¬ ∃ reported,
      (initial (constraints.take 0) assigned equalities).run budget fuel = .error reported := by
    rintro ⟨reported, failed⟩
    rw [Unifier.State.run_of_done rfl] at failed
    cases failed
  have eventually : ∃ count reported,
      (initial (constraints.take count) assigned equalities).run budget fuel = .error reported :=
    ⟨constraints.length, fault, by rw [List.take_length]; exact ran⟩
  obtain ⟨place, before, reported, here⟩ :=
    Nat.exists_not_and_succ_of_not_zero_of_exists (p := fun count => ∃ reported,
      (initial (constraints.take count) assigned equalities).run budget fuel = .error reported)
      never eventually
  have same : reported = fault := by
    have whole : (initial (constraints.take (place + 1) ++ constraints.drop (place + 1)) assigned
        equalities).run budget fuel = .error reported := run_initial_append_of_error here
    rw [List.take_append_drop, ran] at whole
    exact (Except.error.inj whole).symm
  subst same
  cases outcome : (initial (constraints.take place) assigned equalities).run budget fuel with
  | error earlier => exact absurd ⟨earlier, outcome⟩ before
  | ok final =>
      cases listed : constraints[place]? with
      | none =>
          rw [List.take_add_one, listed, Option.toList_none, List.append_nil, outcome] at here
          cases here
      | some constraint => exact ⟨place, constraint, final, listed, outcome, here⟩

/-- A mismatch blames the first constraint that, annotations erased, has no unifier together with
the constraints before it and the given assignments, and constraints that follow make no difference
to it. -/
theorem unify_blames_first_unsolvable {first second : Ty} {remarks : List MismatchRemark}
    (acyclic : assigned.Acyclic)
    (failed : unify constraints assigned equalities =
      .error (.typeMismatch first second remarks)) :
    (∃ place constraint, constraints[place]? = some constraint ∧
      IsLeast {place | ¬ ∃ image, assigned.ErasedUnifier (constraints.take (place + 1)) image}
        place ∧
      Blames constraint (.typeMismatch first second remarks)) ∧
    ∀ further, unify (constraints ++ further) assigned equalities =
      .error (.typeMismatch first second remarks) := by
  have ran := run_of_unify_eq_error failed
  constructor
  · obtain ⟨place, constraint, final, listed, before, here⟩ := exists_failing_constraint ran
    refine ⟨place, constraint, listed, ⟨not_exists_erasedUnifier_of_run rfl here, ?_⟩, ?_⟩
    · intro earlier unsolvable
      by_contra less
      obtain ⟨image, unifies⟩ := exists_erasedUnifier_of_run acyclic before
      have shorter : constraints.take (earlier + 1) <+: constraints.take place :=
        List.take_prefix_take_left (by omega)
      apply unsolvable
      exact ⟨image, unifies.assigned, fun constraint member =>
        unifies.constraints constraint (shorter.subset member)⟩
    · obtain ⟨left, split⟩ := run_initial_append (constraints.take place) [constraint]
        (Unifier.budget constraints) (Unifier.budget constraints)
      rw [List.take_add_one, listed, Option.toList_some, split, before, Except.bind] at here
      refine Unifier.State.blames_of_run ?_ rfl here
      rw [Unifier.State.items_schedule, (Unifier.State.reduces_of_run before).1, List.append_nil]
      exact List.forall_mem_singleton.mpr rfl
  · intro further
    have more : Unifier.budget constraints ≤ Unifier.budget (constraints ++ further) := by
      unfold Unifier.budget
      rw [List.length_append]
      exact Nat.mul_le_mul_left _ (by omega)
    rw [unify_eq_map_run,
      run_initial_append_of_error (Unifier.State.run_mismatch_of_le rfl ran more)]
    rfl

theorem unify_blames_first_unsolvable_of_hidden_cycle :
    let assigned : Substitution := NameMap.empty.insert "c" (.tuple [.var "a"])
    let blamed : TypeConstraint := ⟨.tuple [.var "b", .var "d"], .tuple [.prim "Int", .var "c"]⟩
    let constraints : List TypeConstraint :=
      [⟨.arrow .use .ignore (.var "a") (.var "b"),
        .arrow .ignore .use (.tuple [.var "d"]) (.prim "Int")⟩, blamed, ⟨.prim "Int", .prim "Bool"⟩]
    let fault : Fault := .typeMismatch (.var "d") (.tuple [.var "a"])
      [.occurs "d" (.tuple [.var "a"]), .inConstraint blamed]
    assigned.Acyclic ∧ unify constraints assigned [] = .error fault ∧ Blames blamed fault ∧
      (∃ image, assigned.ErasedUnifier (constraints.take 1) image) ∧
      (¬ ∃ image, assigned.ErasedUnifier (constraints.take 2) image) ∧
      ∀ further, unify (constraints ++ further) assigned [] = .error fault := by
  intro assigned blamed constraints fault
  have acyclic : assigned.Acyclic := Substitution.acyclic_empty.insert (by decide +kernel)
  have failed : unify constraints assigned [] = .error fault := by decide +kernel
  obtain ⟨⟨place, constraint, listed, least, blames⟩, appended⟩ :=
    unify_blames_first_unsolvable acyclic failed
  have named : blamed = constraint := by
    rcases blames with ⟨_, _, none | ⟨_, _, one⟩⟩ | ⟨placed, _⟩
    · cases none
    · cases one
    · exact MismatchRemark.inConstraint.inj (Option.some.inj placed)
  subst named
  have second : place = 1 := by
    match place, listed with
    | 0, listed => exact absurd listed (by decide +kernel)
    | 1, _ => rfl
    | 2, listed => exact absurd listed (by decide +kernel)
    | _ + 3, listed => cases listed
  subst second
  refine ⟨acyclic, failed, blames, ?_, least.1, appended⟩
  by_contra unsolvable
  exact absurd (least.2 unsolvable : 1 ≤ 0) (by decide)

end Blame

end CoeffectSolver
