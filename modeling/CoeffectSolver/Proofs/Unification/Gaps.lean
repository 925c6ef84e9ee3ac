import CoeffectSolver.Proofs.Unification.NormalForm
import CoeffectSolver.Proofs.Unification.Solutions

/-! Unification of types that are given everywhere finds types that are given everywhere, and under a
substitution of such types every type that is given everywhere has a normal form. -/

namespace CoeffectSolver

/-- Both sides are given everywhere outside annotations. -/
def TypeConstraint.gapless (constraint : TypeConstraint) : Bool :=
  constraint.left.gapless && constraint.right.gapless

/-- Every assigned type is given everywhere outside annotations. -/
def Substitution.Gapless (assigned : Substitution) : Prop :=
  ∀ name held, assigned.get? name = some held → held.gapless = true

namespace Substitution

variable {assigned : Substitution}

private theorem Gapless.resolve (gapless : assigned.Gapless) {type : Ty}
    (given : type.gapless = true) (hops : Nat) : (assigned.resolve hops type).gapless = true := by
  induction hops generalizing type with
  | zero => exact given
  | succ hops ih =>
      rw [Substitution.resolve, Ty.gapless_replace]
      refine ⟨given, fun name _ => ?_⟩
      cases found : assigned.get? name with
      | none => rfl
      | some held => exact ih (gapless name held found)

theorem Gapless.apply (gapless : assigned.Gapless) {type : Ty} (given : type.gapless = true) :
    (assigned.apply type).gapless = true :=
  gapless.resolve given assigned.size

theorem Gapless.resolved (gapless : assigned.Gapless) : Gapless assigned.resolved := by
  intro name held found
  rw [get?_resolved] at found
  obtain ⟨original, before, rfl⟩ := Option.map_eq_some_iff.mp found
  exact gapless.apply (gapless name original before)

theorem gapless_empty : Gapless NameMap.empty := by
  intro name held found
  cases found

theorem Gapless.insert {name : String} {type : Ty} (gapless : assigned.Gapless)
    (given : type.gapless = true) : Gapless (assigned.insert name type) := by
  intro other held found
  rw [NameMap.get?_insert] at found
  split at found
  · cases found
    exact given
  · exact gapless other held found

end Substitution

namespace Unifier

/-- No type is missing from the assignments or from the pairs that are left. -/
structure State.Gapless (state : State) : Prop where
  assigned : state.assigned.Gapless
  work : ∀ pending ∈ state.work.items, pending.left.gapless = true ∧ pending.right.gapless = true

private theorem hereditary_gapless :
    Hereditary (fun type => type.gapless = true) (fun _ => True) := by
  refine ⟨?_, ?_, ?_⟩
  · intro declaration call argument result given
    rw [Ty.gapless_arrow, Bool.and_eq_true] at given
    exact ⟨⟨trivial, trivial⟩, given⟩
  · intro elements given
    rw [Ty.gapless_tuple, List.all_eq_true] at given
    exact given
  · intro requirement inner given
    exact ⟨trivial, given⟩

theorem State.gapless_of_run {budget fuel : Nat} {state final : State} (gapless : state.Gapless)
    (ran : state.run budget fuel = .ok final) : final.Gapless := by
  have throughout : state.Throughout (fun type => type.gapless = true) (fun _ => True) :=
    ⟨gapless.assigned, gapless.work, fun _ _ => ⟨trivial, trivial⟩⟩
  obtain ⟨assigned, work, _⟩ := State.throughout_of_run hereditary_gapless throughout ran
  exact ⟨assigned, work⟩

end Unifier

theorem gapless_of_unify {constraints : List TypeConstraint} {assigned : Substitution}
    {equalities : List CoeffectConstraint} {unified : Unified}
    (given : ∀ constraint ∈ constraints, constraint.gapless = true) (gapless : assigned.Gapless)
    (succeeded : unify constraints assigned equalities = .ok unified) :
    unified.assigned.Gapless := by
  obtain ⟨final, ran, resolved, _⟩ := run_of_unify_eq_ok succeeded
  have initial : (Unifier.initial constraints assigned equalities).Gapless := by
    refine ⟨gapless, fun pending member => ?_⟩
    obtain ⟨constraint, inside, rfl⟩ := List.mem_map.mp member
    exact (Bool.and_eq_true _ _).mp (given constraint inside)
  rw [resolved]
  exact (Unifier.State.gapless_of_run initial ran).assigned.resolved

theorem exists_normal {assigned : Substitution} {type : Ty} (acyclic : assigned.Acyclic)
    (gapless : assigned.Gapless) (given : type.gapless = true) :
    ∃ normal, normalise Normaliser.identity assigned type = .ok normal := by
  refine ⟨(assigned.apply type).canonical, ?_⟩
  rw [normalise_identity acyclic, if_pos (gapless.apply given)]

end CoeffectSolver
