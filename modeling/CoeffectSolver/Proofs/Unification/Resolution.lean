import CoeffectSolver.Proofs.Unification.Solutions

/-! The substitution of a unification only gains variables on its way, stays free of cycles, and is
returned with every assigned type resolved. -/

namespace CoeffectSolver

open Relation (ReflTransGen)

/-- Every variable that was assigned still stands for the same type. -/
def Substitution.Extends (later earlier : Substitution) : Prop :=
  ∀ name held, earlier.get? name = some held → later.get? name = some held

namespace Unifier.State

variable {state next later : State}

theorem extends_of_step {pending : Pending} (handled : state.step pending = .ok next) :
    next.assigned.Extends state.assigned := by
  have outcome := state.step_outcome pending
  rw [handled] at outcome
  intro other held found
  cases outcome with
  | @bind name type _ unassigned _ =>
      have different : other ≠ name := by
        intro same
        rw [same, unassigned] at found
        cases found
      change (state.assigned.insert name type).get? other = some held
      rw [NameMap.get?_insert, if_neg different]
      exact found
  | _ => exact found

theorem extends_of_reaches (path : ReflTransGen Advances state later) :
    later.assigned.Extends state.assigned := by
  induction path with
  | refl =>
      intro name held found
      exact found
  | tail _ edge ih =>
      obtain ⟨pending, rest, _, handled⟩ := edge
      intro name held found
      exact extends_of_step handled name held (ih name held found)

end Unifier.State

/-- At every point of a unification the substitution is free of cycles and extends what it was
before, and the returned one is fully resolved: its types mention none of its variables, applying it
twice is applying it once, and a variable given at the start stands for its type with the result
applied. -/
theorem unify_resolves {constraints : List TypeConstraint} {assigned : Substitution}
    {equalities : List CoeffectConstraint} (acyclic : assigned.Acyclic) :
    (∀ state, ReflTransGen Unifier.State.Advances
        (Unifier.initial constraints assigned equalities) state →
      state.assigned.Acyclic ∧ state.assigned.Extends assigned ∧
        ∀ later, ReflTransGen Unifier.State.Advances state later →
          later.assigned.Extends state.assigned) ∧
    ∀ unified, unify constraints assigned equalities = .ok unified →
      (∀ name held, unified.assigned.get? name = some held →
        ∀ other, held.Mentions other → unified.assigned.get? other = none) ∧
      (∀ type, unified.assigned.apply (unified.assigned.apply type) =
        unified.assigned.apply type) ∧
      ∀ name held, assigned.get? name = some held →
        unified.assigned.get? name = some (unified.assigned.apply held) := by
  constructor
  · intro state path
    refine ⟨Unifier.State.acyclic_of_reaches acyclic path, ?_, ?_⟩
    · exact Unifier.State.extends_of_reaches path
    · intro later onward
      exact Unifier.State.extends_of_reaches onward
  · intro unified succeeded
    obtain ⟨final, ran, resolved, _⟩ := run_of_unify_eq_ok succeeded
    have finalAcyclic : final.assigned.Acyclic := Unifier.State.acyclic_of_run acyclic ran
    have extended : final.assigned.Extends assigned :=
      Unifier.State.extends_of_reaches (Unifier.State.reaches_of_run ran)
    rw [resolved]
    refine ⟨?_, Substitution.apply_apply finalAcyclic.resolved, ?_⟩
    · intro name held found other mentioned
      rw [Substitution.get?_resolved] at found ⊢
      obtain ⟨original, _, rfl⟩ := Option.map_eq_some_iff.mp found
      rw [Substitution.unassigned_of_mentions_apply finalAcyclic mentioned, Option.map_none]
    · intro name held given
      rw [Substitution.get?_resolved, extended name held given, Option.map_some,
        Substitution.apply_resolved finalAcyclic]

theorem unify_resolves_of_nested :
    Substitution.Acyclic (NameMap.empty.insert "c" (.comonad .use (.var "a"))) ∧
    (∃ state, ReflTransGen Unifier.State.Advances (Unifier.initial
        [⟨.var "b", .prim "Int"⟩, ⟨.tuple [.var "b"], .var "a"⟩]
        (NameMap.empty.insert "c" (.comonad .use (.var "a"))) []) state ∧
      state.assigned.contains "b" = true ∧ state.assigned.Acyclic) ∧
    ∃ unified, unify [⟨.var "b", .prim "Int"⟩, ⟨.tuple [.var "b"], .var "a"⟩]
        (NameMap.empty.insert "c" (.comonad .use (.var "a"))) [] = .ok unified ∧
      unified.assigned.get? "c" = some (.comonad .use (.tuple [.prim "Int"])) := by
  have acyclic : Substitution.Acyclic (NameMap.empty.insert "c" (.comonad .use (.var "a"))) :=
    Substitution.acyclic_empty.insert (by decide +kernel)
  have succeeded : unify [⟨.var "b", .prim "Int"⟩, ⟨.tuple [.var "b"], .var "a"⟩]
      (NameMap.empty.insert "c" (.comonad .use (.var "a"))) [] =
        .ok ⟨NameMap.ofList [("a", .tuple [.prim "Int"]), ("b", .prim "Int"),
          ("c", .comonad .use (.tuple [.prim "Int"]))], []⟩ := by decide +kernel
  have path : ReflTransGen Unifier.State.Advances (Unifier.initial
      [⟨.var "b", .prim "Int"⟩, ⟨.tuple [.var "b"], .var "a"⟩]
      (NameMap.empty.insert "c" (.comonad .use (.var "a"))) []) _ := .single ⟨_, _, rfl, rfl⟩
  obtain ⟨along, resolved⟩ := unify_resolves acyclic
  refine ⟨acyclic, ⟨_, path, by decide +kernel, (along _ path).1⟩, _, succeeded, ?_⟩
  rw [(resolved _ succeeded).2.2 "c" (.comonad .use (.var "a")) (by decide +kernel)]
  decide +kernel

end CoeffectSolver
