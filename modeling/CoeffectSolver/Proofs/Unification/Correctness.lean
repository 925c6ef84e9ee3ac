import CoeffectSolver.Proofs.Unification.Solutions

/-! Unification finds a unifier modulo the equalities that it collects, and a most general one modulo
any equivalence between coeffects. -/

namespace CoeffectSolver

theorem Substitution.Acyclic.respectedBy_apply {assigned : Substitution}
    {related : Coeffect → Coeffect → Prop} (acyclic : assigned.Acyclic)
    (equivalent : Equivalence related) :
    assigned.RespectedBy related (fun name => assigned.apply (.var name)) := by
  intro name held found
  rw [← apply_eq_replace_apply_var acyclic]
  dsimp only
  rw [apply_var_of_some acyclic found]
  exact Ty.AlikeUpTo.refl equivalent _

/-- The given equalities come first, and the found substitution makes the sides of every constraint
alike up to the least equivalence that the returned equalities generate. -/
theorem unify_sound {constraints : List TypeConstraint} {assigned : Substitution}
    {equalities : List CoeffectConstraint} {unified : Unified} (acyclic : assigned.Acyclic)
    (succeeded : unify constraints assigned equalities = .ok unified) :
    equalities <+: unified.equalities ∧
      ∀ constraint ∈ constraints,
        Ty.AlikeUpTo (Coeffect.EquatedBy unified.equalities)
          (unified.assigned.apply constraint.left) (unified.assigned.apply constraint.right) := by
  obtain ⟨final, ran, resolved, collected⟩ := run_of_unify_eq_ok succeeded
  obtain ⟨finished, found, reduces⟩ := Unifier.State.reduces_of_run ran
  have finalAcyclic : final.assigned.Acyclic := Unifier.State.acyclic_of_run acyclic ran
  have recorded : unified.equalities = equalities ++ found := by
    rw [collected, reduces.recorded]
    rfl
  refine ⟨⟨found, recorded.symm⟩, fun constraint member => ?_⟩
  have equivalent := Coeffect.equatedBy_equivalence unified.equalities
  have finalSolved : final.SolvedBy (Coeffect.EquatedBy unified.equalities)
      (fun name => final.assigned.apply (.var name)) := by
    refine ⟨finalAcyclic.respectedBy_apply equivalent, fun pending left => ?_⟩
    rw [finished] at left
    cases left
  have foundRelated : ∀ equality ∈ found,
      Coeffect.EquatedBy unified.equalities equality.left equality.right := by
    intro equality inFound
    refine Coeffect.equatedBy_of_mem ?_
    rw [recorded]
    exact List.mem_append_right equalities inFound
  have initialSolved := (reduces.solutions _ equivalent _).mp ⟨finalSolved, foundRelated⟩
  have alike := (Unifier.initial_solvedBy_iff.mp initialSolved).2 constraint member
  rw [resolved, Substitution.apply_resolved finalAcyclic, Substitution.apply_resolved finalAcyclic,
    Substitution.apply_eq_replace_apply_var finalAcyclic,
    Substitution.apply_eq_replace_apply_var finalAcyclic constraint.right]
  exact alike

theorem unify_sound_of_arrows :
    ∃ unified, unify [⟨.arrow .use .ignore (.var "a") (.var "b"),
        .arrow .ignore (.var "r") (.tuple [.var "b"]) (.prim "Int")⟩]
        (NameMap.empty.insert "c" (.tuple [.var "a"])) [⟨.var "q", .use⟩] = .ok unified ∧
      unified.equalities = [⟨.var "q", .use⟩, ⟨.use, .ignore⟩, ⟨.ignore, .var "r"⟩] ∧
      Ty.AlikeUpTo (Coeffect.EquatedBy unified.equalities)
        (.arrow .use .ignore (.tuple [.prim "Int"]) (.prim "Int"))
        (.arrow .ignore (.var "r") (.tuple [.prim "Int"]) (.prim "Int")) := by
  have succeeded : unify [⟨.arrow .use .ignore (.var "a") (.var "b"),
      .arrow .ignore (.var "r") (.tuple [.var "b"]) (.prim "Int")⟩]
      (NameMap.empty.insert "c" (.tuple [.var "a"])) [⟨.var "q", .use⟩] =
        .ok ⟨NameMap.ofList [("a", .tuple [.prim "Int"]), ("b", .prim "Int"),
            ("c", .tuple [.tuple [.prim "Int"]])],
          [⟨.var "q", .use⟩, ⟨.use, .ignore⟩, ⟨.ignore, .var "r"⟩]⟩ := by decide +kernel
  have acyclic : Substitution.Acyclic (NameMap.empty.insert "c" (.tuple [.var "a"])) :=
    Substitution.acyclic_empty.insert (by decide +kernel)
  obtain ⟨_, alike⟩ := unify_sound acyclic succeeded
  exact ⟨_, succeeded, rfl, alike _ List.mem_cons_self⟩

private theorem Substitution.RespectedBy.nodes_le_of_meets {assigned : Substitution}
    {related : Coeffect → Coeffect → Prop} {image : String → Ty}
    (respected : assigned.RespectedBy related image) {name : String} {hops : Nat} {type : Ty}
    (met : assigned.meets name hops type = true) :
    ∃ other, type.Mentions other ∧ (image name).nodes ≤ (image other).nodes := by
  induction hops generalizing type with
  | zero =>
      rw [meets, Ty.anyVar_iff_exists_mentions] at met
      obtain ⟨other, mentioned, same⟩ := met
      exact ⟨other, mentioned, by rw [eq_of_beq same]⟩
  | succ hops ih =>
      rw [meets, Ty.anyVar_iff_exists_mentions] at met
      obtain ⟨other, mentioned, found⟩ := met
      refine ⟨other, mentioned, ?_⟩
      rcases (Bool.or_eq_true _ _).mp found with same | further
      · rw [eq_of_beq same]
      · cases assignment : assigned.get? other with
        | none => rw [assignment] at further; cases further
        | some held =>
            rw [assignment] at further
            obtain ⟨next, inside, bounded⟩ := ih further
            calc (image name).nodes ≤ (image next).nodes := bounded
              _ ≤ (held.replace image).nodes := Ty.nodes_image_le inside
              _ = (image other).nodes := (respected other held assignment).nodes_eq.symm

theorem Substitution.RespectedBy.replace_resolve {assigned : Substitution}
    {related : Coeffect → Coeffect → Prop} {image : String → Ty}
    (respected : assigned.RespectedBy related image) (equivalent : Equivalence related)
    (hops : Nat) (type : Ty) :
    Ty.AlikeUpTo related (type.replace image) ((assigned.resolve hops type).replace image) := by
  have alike := Ty.AlikeUpTo.equivalence equivalent
  induction hops generalizing type with
  | zero => exact alike.refl _
  | succ hops ih =>
      rw [resolve, Ty.replace_replace]
      refine Ty.AlikeUpTo.replace_of_alike equivalent fun name _ => ?_
      cases found : assigned.get? name with
      | none => exact alike.refl _
      | some held => exact alike.trans (respected name held found) (ih held)

/-- A pair that can be unified under the assignments made so far does not fail. -/
theorem Unifier.State.step_ne_error_of_unifiedBy {state : State} {pending : Pending} {fault : Fault}
    {related : Coeffect → Coeffect → Prop} {image : String → Ty}
    (equivalent : Equivalence related) (respected : state.assigned.RespectedBy related image)
    (unified : pending.UnifiedBy related image) : state.step pending ≠ .error fault := by
  intro failed
  have outcome := state.step_outcome pending
  rw [failed] at outcome
  cases outcome with
  | @occurs name type sides structured met =>
      have alike : Ty.AlikeUpTo related (image name) (type.replace image) := by
        unfold Pending.UnifiedBy at unified
        rcases sides with ⟨left, right⟩ | ⟨left, right⟩
        · rw [left, right] at unified
          exact unified
        · rw [left, right] at unified
          exact unified.symm equivalent
      obtain ⟨other, mentioned, bounded⟩ := respected.nodes_le_of_meets met
      have sizes : (image name).nodes = (type.replace image).nodes := alike.nodes_eq
      have smaller : (image other).nodes < (type.replace image).nodes :=
        (Ty.eq_var_or_nodes_image_lt mentioned).resolve_left (structured other)
      omega
  | clash apart => exact apart related image unified

/-- A state with a solution can only fail by using up its fuel. -/
theorem Unifier.State.run_error_of_solvedBy {budget fuel : Nat} {state : State} {fault : Fault}
    {related : Coeffect → Coeffect → Prop} {image : String → Ty}
    (equivalent : Equivalence related) (solved : state.SolvedBy related image)
    (ran : state.run budget fuel = .error fault) :
    fault = .nonTermination "type unification" budget := by
  have kept (state : State) (pending : Pending) (rest : List Pending) (next : State)
      (items : state.work.items = pending :: rest)
      (handled : State.step { state with work := ⟨rest⟩ } pending = .ok next)
      (solved : state.SolvedBy related image) : next.SolvedBy related image := by
    obtain ⟨found, reduces⟩ := State.reduces_of_step items handled
    exact ((reduces.solutions related equivalent image).mpr solved).1
  rcases State.run_failure kept solved ran with
    exhausted | ⟨last, pending, rest, lastSolved, items, failed⟩
  · exact exhausted
  · have unified : pending.UnifiedBy related image :=
      lastSolved.work pending (by rw [items]; exact List.mem_cons_self)
    exact absurd failed (State.step_ne_error_of_unifiedBy equivalent lastSolved.assigned unified)

/-- Where the constraints have a solution modulo an equivalence between coeffects, unification reports
no mismatch, relates only annotations that are equivalent, and finds a substitution that every such
solution respects. -/
theorem unify_most_general {related : Coeffect → Coeffect → Prop}
    (equivalent : Equivalence related) {constraints : List TypeConstraint}
    {assigned : Substitution} {equalities : List CoeffectConstraint} {image : String → Ty}
    (unifies : ∀ constraint ∈ constraints, Ty.AlikeUpTo related (constraint.left.replace image)
      (constraint.right.replace image))
    (respected : ∀ name held, assigned.get? name = some held →
      Ty.AlikeUpTo related (image name) (held.replace image)) :
    (∀ first second remarks,
        unify constraints assigned equalities ≠ .error (.typeMismatch first second remarks)) ∧
      ∀ unified, unify constraints assigned equalities = .ok unified →
        (∃ added, unified.equalities = equalities ++ added ∧
            ∀ equality ∈ added, related equality.left equality.right) ∧
          ∀ name held, unified.assigned.get? name = some held →
            Ty.AlikeUpTo related (image name) (held.replace image) := by
  have solved : (Unifier.initial constraints assigned equalities).SolvedBy related image :=
    Unifier.initial_solvedBy_iff.mpr ⟨respected, unifies⟩
  constructor
  · intro first second remarks failed
    unfold unify at failed
    dsimp only at failed
    split at failed
    · rename_i fault ran
      rw [Unifier.State.run_error_of_solvedBy equivalent solved ran] at failed
      cases failed
    · cases failed
  · intro unified succeeded
    obtain ⟨final, ran, resolved, collected⟩ := run_of_unify_eq_ok succeeded
    obtain ⟨_, found, reduces⟩ := Unifier.State.reduces_of_run ran
    obtain ⟨finalSolved, foundRelated⟩ := (reduces.solutions related equivalent image).mpr solved
    refine ⟨⟨found, ?_, foundRelated⟩, fun name held assignment => ?_⟩
    · rw [collected, reduces.recorded]
      rfl
    · rw [resolved, Substitution.resolved, NameMap.get?_mapValues] at assignment
      obtain ⟨original, before, same⟩ := Option.map_eq_some_iff.mp assignment
      rw [← same]
      exact (finalSolved.assigned name original before).trans equivalent
        (finalSolved.assigned.replace_resolve equivalent _ original)

theorem unify_most_general_of_constant :
    ∃ unified, unify [⟨.arrow .use (.var "r") (.var "a") (.var "b"),
        .arrow .ignore .use (.prim "Int") (.var "c")⟩]
        (NameMap.empty.insert "d" (.var "a")) [] = .ok unified ∧
      ∀ name held, unified.assigned.get? name = some held →
        Ty.AlikeUpTo (fun first second => first.isUnconstrained = second.isUnconstrained)
          (.prim "Int") (held.replace fun _ => .prim "Int") := by
  have succeeded : unify [⟨.arrow .use (.var "r") (.var "a") (.var "b"),
      .arrow .ignore .use (.prim "Int") (.var "c")⟩]
      (NameMap.empty.insert "d" (.var "a")) [] =
        .ok ⟨NameMap.ofList [("a", .prim "Int"), ("b", .var "c"), ("d", .prim "Int")],
          [⟨.use, .ignore⟩, ⟨.var "r", .use⟩]⟩ := by decide +kernel
  have equivalent : Equivalence fun first second : Coeffect =>
      first.isUnconstrained = second.isUnconstrained :=
    ⟨fun _ => rfl, Eq.symm, Eq.trans⟩
  refine ⟨_, succeeded, ?_⟩
  refine ((unify_most_general equivalent ?_ ?_).2 _ succeeded).2
  · intro constraint member
    rw [List.mem_singleton.mp member]
    exact .arrow rfl rfl (.prim "Int") (.prim "Int")
  · intro name held found
    rw [NameMap.get?_insert] at found
    split at found
    · cases found
      exact .prim "Int"
    · cases found

end CoeffectSolver
