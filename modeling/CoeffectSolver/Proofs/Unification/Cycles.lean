import CoeffectSolver.Proofs.Unification.Gaps

/-! Normalising under any substitution, cyclic or not. The recursion ends on its own, since a
variable is not followed again while its own assignment is being normalised; and it fails exactly
where following assignments from the type leads to a variable that leads back to itself. -/

namespace CoeffectSolver

open Relation (TransGen ReflTransGen)

/-- Following assignments from the variables of a type leads to a variable. -/
def Substitution.Reaches (assigned : Substitution) (type : Ty) (name : String) : Prop :=
  ∃ other, type.Mentions other ∧ ReflTransGen assigned.Leads other name

namespace Normaliser

/-- The recursion without a bound on hops: a type is visited while the assignments of the variables
in `resolving` are being normalised, and every assigned variable that is not among them is followed.
A derivation is the finite tree of the calls. -/
inductive Recurses (evaluate : Evaluator) (assigned : Substitution) :
    List String → Ty → Step Ty → Prop
  | visit {resolving : List String} {type : Ty} {onVariable : String → Step Ty}
      (free : ∀ name, type.Mentions name → assigned.get? name = none →
        onVariable name = rename name)
      (again : ∀ name held, type.Mentions name → assigned.get? name = some held →
        name ∈ resolving → onVariable name = throw (.unexpected (.cyclicAssignment name)))
      (follow : ∀ name held, type.Mentions name → assigned.get? name = some held →
        name ∉ resolving →
          Recurses evaluate assigned (name :: resolving) held (onVariable name)) :
      Recurses evaluate assigned resolving type (visit evaluate onVariable type)

variable {evaluate : Evaluator} {assigned : Substitution} {resolving : List String} {type : Ty}
  {computation : Step Ty}

/-- The bound on hops is never what ends the recursion. -/
theorem recurses_process {hops : Nat} (trail : Substitution.Trail assigned resolving type)
    (enough : assigned.size ≤ hops + resolving.length) :
    Recurses evaluate assigned resolving type
      (process evaluate assigned hops resolving type) := by
  induction hops generalizing resolving type with
  | zero =>
      rw [process]
      apply Recurses.visit
      · intro name _ unassigned
        rw [NameMap.contains, unassigned, Option.isSome_none, if_neg Bool.false_ne_true]
      · intro name held _ found _
        rw [NameMap.contains, found, Option.isSome_some, if_pos rfl]
      · intro name held _ found new
        -- All assigned variables are being resolved by now.
        have known : name ∈ resolving := NameMap.mem_of_size_le trail.distinct trail.held
          (by omega) (NameMap.contains_iff_exists.mpr ⟨held, found⟩)
        exact absurd known new
  | succ hops ih =>
      rw [process]
      apply Recurses.visit
      · intro name _ unassigned
        rw [unassigned]
      · intro name held _ found known
        rw [found]
        exact if_pos (List.contains_iff_mem.mpr known)
      · intro name held mentioned found new
        have unknown : ¬ resolving.contains name = true := by
          rw [List.contains_iff_mem]
          exact new
        rw [found]
        dsimp only
        rw [if_neg unknown]
        apply ih (trail.extend new mentioned found)
        rw [List.length_cons]
        omega

theorem Recurses.unique {computation' : Step Ty}
    (recurses : Recurses evaluate assigned resolving type computation)
    (recurses' : Recurses evaluate assigned resolving type computation') :
    computation' = computation := by
  induction recurses generalizing computation' with
  | @visit resolving _ _ free again follow ih =>
      cases recurses' with
      | visit free' again' follow' =>
          apply visit_congr
          intro name mentioned
          cases found : assigned.get? name with
          | none => rw [free name mentioned found, free' name mentioned found]
          | some held =>
              by_cases known : name ∈ resolving
              · rw [again name held mentioned found known, again' name held mentioned found known]
              · exact ih name held mentioned found known (follow' name held mentioned found known)

/-- A computation that asks for the results of some variables: where it fails, one of them has
failed in the same way, and where it succeeds, all of them have succeeded. -/
structure Consults {α : Type} (onVariable : String → Step Ty) (asked : String → Prop)
    (computation : Step α) : Prop where
  failing : ∀ naming fault, computation naming = .error fault →
    ∃ name met, asked name ∧ onVariable name met = .error fault
  succeeding : ∀ naming both, computation naming = .ok both →
    ∀ name, asked name → ∃ met both, onVariable name met = .ok both

section Consulting

variable {α β : Type} {onVariable : String → Step Ty} {asked asked' : String → Prop}

theorem Consults.of_succeeding {computation : Step α}
    (succeeds : ∀ naming, ∃ both, computation naming = .ok both) :
    Consults onVariable (fun _ => False) computation := by
  constructor
  · intro naming fault failed
    obtain ⟨both, succeeded⟩ := succeeds naming
    rw [succeeded] at failed
    cases failed
  · intro _ _ _ _ never
    exact never.elim

theorem Consults.bind {first : Step α} {second : α → Step β}
    (before : Consults onVariable asked first)
    (after : ∀ value, Consults onVariable asked' (second value)) :
    Consults onVariable (fun name => asked name ∨ asked' name) (first >>= second) := by
  constructor
  · intro naming fault failed
    rw [bind_apply] at failed
    cases outcome : first naming with
    | error reported =>
        rw [outcome] at failed
        cases failed
        obtain ⟨name, met, inside, same⟩ := before.failing naming fault outcome
        exact ⟨name, met, .inl inside, same⟩
    | ok both =>
        rw [outcome] at failed
        obtain ⟨name, met, inside, same⟩ := (after both.1).failing both.2 fault failed
        exact ⟨name, met, .inr inside, same⟩
  · intro naming result succeeded name inside
    rw [bind_apply] at succeeded
    cases outcome : first naming with
    | error reported =>
        rw [outcome] at succeeded
        cases succeeded
    | ok both =>
        rw [outcome] at succeeded
        rcases inside with early | late
        · exact before.succeeding naming both outcome name early
        · exact (after both.1).succeeding both.2 result succeeded name late

theorem Consults.of_iff {computation : Step α} (consults : Consults onVariable asked computation)
    (same : ∀ name, asked' name ↔ asked name) : Consults onVariable asked' computation := by
  have equal : asked' = asked := funext fun name => propext (same name)
  rw [equal]
  exact consults

theorem consults_pure (value : α) :
    Consults onVariable (fun _ => False) (pure value : Step α) :=
  .of_succeeding fun naming => ⟨(value, naming), rfl⟩

theorem consults_evaluate (total : ∀ coeffect, ∃ value, evaluate coeffect = .ok value)
    (coeffect : Coeffect) :
    Consults onVariable (fun _ => False) (liftM (evaluate coeffect) : Step Coeffect) := by
  obtain ⟨value, evaluated⟩ := total coeffect
  rw [evaluated]
  exact consults_pure value

private theorem consults_visitElements {elements : List Ty}
    (each : ∀ element ∈ elements,
      Consults onVariable element.Mentions (visit evaluate onVariable element)) :
    Consults onVariable (fun name => ∃ element ∈ elements, element.Mentions name)
      (visitElements evaluate onVariable elements) := by
  induction elements with
  | nil => exact (consults_pure []).of_iff (by simp)
  | cons first rest ih =>
      rw [List.forall_mem_cons] at each
      rw [visitElements]
      refine Consults.of_iff (each.1.bind fun _ => (ih each.2).bind fun _ => consults_pure _) ?_
      simp

/-- Visiting a type without gaps asks for the results of its variables, if annotations can be
evaluated. -/
theorem consults_visit (total : ∀ coeffect, ∃ value, evaluate coeffect = .ok value)
    (given : type.gapless = true) :
    Consults onVariable type.Mentions (visit evaluate onVariable type) := by
  induction type with
  | absent => cases given
  | var name =>
      constructor
      · intro naming fault failed
        exact ⟨name, naming, Ty.mentions_var.mpr rfl, failed⟩
      · intro naming both succeeded other mentioned
        rw [← Ty.mentions_var.mp mentioned]
        exact ⟨naming, both, succeeded⟩
  | prim name => exact (consults_pure _).of_iff (by simp)
  | tuple elements ih =>
      rw [Ty.gapless_tuple, List.all_eq_true] at given
      rw [visit]
      have each := consults_visitElements fun element member =>
        ih element member (given element member)
      exact (each.bind fun _ => consults_pure _).of_iff (by simp)
  | arrow declaration call argument result ihArgument ihResult =>
      rw [Ty.gapless_arrow, Bool.and_eq_true] at given
      rw [visit]
      refine Consults.of_iff ((consults_evaluate total declaration).bind fun _ =>
        (consults_evaluate total call).bind fun _ => (ihArgument given.1).bind fun _ =>
          (ihResult given.2).bind fun _ => consults_pure _) ?_
      simp
  | comonad requirement inner ih =>
      rw [visit]
      refine Consults.of_iff ((consults_evaluate total requirement).bind fun _ =>
        (ih given).bind fun _ => consults_pure _) ?_
      simp

end Consulting

private theorem exists_rename (name : String) (naming : Naming) :
    ∃ both, rename name naming = .ok both := by
  unfold rename
  split
  · exact ⟨_, rfl⟩
  · exact ⟨_, rfl⟩

section Cycles

variable (gapless : assigned.Gapless) (total : ∀ coeffect, ∃ value, evaluate coeffect = .ok value)

include gapless total

/-- A failure names a variable that can be reached and leads back to itself. -/
theorem Recurses.cycle_of_error {naming : Naming} {fault : Fault}
    (recurses : Recurses evaluate assigned resolving type computation)
    (given : type.gapless = true) (trail : Substitution.Trail assigned resolving type)
    (failed : computation naming = .error fault) :
    ∃ name, fault = .unexpected (.cyclicAssignment name) ∧ assigned.Reaches type name ∧
      TransGen assigned.Leads name name := by
  induction recurses generalizing naming with
  | @visit resolving type onVariable free again follow ih =>
      obtain ⟨name, met, mentioned, here⟩ :=
        (consults_visit total given).failing naming fault failed
      cases found : assigned.get? name with
      | none =>
          obtain ⟨both, succeeds⟩ := exists_rename name met
          rw [free name mentioned found, succeeds] at here
          cases here
      | some held =>
          by_cases known : name ∈ resolving
          · rw [again name held mentioned found known] at here
            cases here
            exact ⟨name, rfl, ⟨name, mentioned, .refl⟩, trail.leads name known name mentioned⟩
          · obtain ⟨cyclic, same, ⟨other, inside, path⟩, cycle⟩ :=
              ih name held mentioned found known (gapless name held found) (trail.extend known mentioned found) here
            have edge : assigned.Leads name other := ⟨held, found, inside⟩
            exact ⟨cyclic, same, ⟨name, mentioned, .head edge path⟩, cycle⟩

/-- Where the recursion succeeds, no variable that can be reached leads back to itself. -/
theorem Recurses.not_cyclic_of_ok {naming : Naming} {both : Ty × Naming} {name : String}
    (recurses : Recurses evaluate assigned resolving type computation)
    (given : type.gapless = true) (succeeded : computation naming = .ok both)
    (reached : assigned.Reaches type name) : ¬ TransGen assigned.Leads name name := by
  induction recurses generalizing naming both with
  | @visit resolving type onVariable free again follow ih =>
      obtain ⟨other, mentioned, path⟩ := reached
      obtain ⟨met, both', here⟩ :=
        (consults_visit total given).succeeding naming both succeeded other mentioned
      intro cycle
      -- Either way there is a step from the variable that the type mentions.
      have onward : ∃ next, assigned.Leads other next ∧ ReflTransGen assigned.Leads next name := by
        rcases path.cases_head with same | further
        · rw [same]
          exact TransGen.head'_iff.mp cycle
        · exact further
      obtain ⟨next, ⟨held, found, inside⟩, path⟩ := onward
      by_cases known : other ∈ resolving
      · rw [again other held mentioned found known] at here
        cases here
      · exact ih other held mentioned found known (gapless other held found) here
          ⟨next, inside, path⟩ cycle

end Cycles

end Normaliser

theorem normalise_eq_map_process (evaluate : Normaliser.Evaluator) (assigned : Substitution)
    (type : Ty) : normalise evaluate assigned type =
      (Normaliser.process evaluate assigned assigned.size [] type []).map Prod.fst := by
  unfold normalise
  cases Normaliser.process evaluate assigned assigned.size [] type [] with
  | ok both => rfl
  | error fault => rfl

theorem normalises_or_meets_cycle {assigned : Substitution} (gapless : assigned.Gapless)
    {type : Ty} (given : type.gapless = true) {evaluate : Normaliser.Evaluator}
    (total : ∀ coeffect, ∃ value, evaluate coeffect = .ok value) :
    (∃ normal, normalise evaluate assigned type = .ok normal ∧
      ¬ ∃ name, assigned.Reaches type name ∧ TransGen assigned.Leads name name) ∨
    ∃ name, normalise evaluate assigned type = .error (.unexpected (.cyclicAssignment name)) ∧
      assigned.Reaches type name ∧ TransGen assigned.Leads name name := by
  have trail := Substitution.Trail.start assigned type
  have recurses : Normaliser.Recurses evaluate assigned [] type
      (Normaliser.process evaluate assigned assigned.size [] type) :=
    Normaliser.recurses_process trail (Nat.le_add_right _ _)
  rw [normalise_eq_map_process]
  cases outcome : Normaliser.process evaluate assigned assigned.size [] type [] with
  | ok both =>
      refine .inl ⟨both.1, rfl, ?_⟩
      rintro ⟨name, reached, cycle⟩
      exact recurses.not_cyclic_of_ok gapless total given outcome reached cycle
  | error fault =>
      obtain ⟨name, rfl, found⟩ := recurses.cycle_of_error gapless total given trail outcome
      exact .inr ⟨name, rfl, found⟩

/-- On every substitution the recursion ends, with one result. It fails, with a cyclic assignment,
exactly if a variable that the type leads to leads back to itself, it then names such a variable,
and otherwise it succeeds. -/
theorem normalise_detects_cycles {assigned : Substitution} (gapless : assigned.Gapless) {type : Ty}
    (given : type.gapless = true) {evaluate : Normaliser.Evaluator}
    (total : ∀ coeffect, ∃ value, evaluate coeffect = .ok value) :
    (∃ computation, (∀ other, Normaliser.Recurses evaluate assigned [] type other ↔
        other = computation) ∧
      normalise evaluate assigned type = (computation []).map Prod.fst) ∧
    ((∃ name, normalise evaluate assigned type = .error (.unexpected (.cyclicAssignment name))) ↔
      ∃ name, assigned.Reaches type name ∧ TransGen assigned.Leads name name) ∧
    ((∃ normal, normalise evaluate assigned type = .ok normal) ↔
      ¬ ∃ name, assigned.Reaches type name ∧ TransGen assigned.Leads name name) ∧
    ∀ name, normalise evaluate assigned type = .error (.unexpected (.cyclicAssignment name)) →
      assigned.Reaches type name ∧ TransGen assigned.Leads name name := by
  have recurses : Normaliser.Recurses evaluate assigned [] type
      (Normaliser.process evaluate assigned assigned.size [] type) :=
    Normaliser.recurses_process (Substitution.Trail.start assigned type) (Nat.le_add_right _ _)
  refine ⟨⟨_, fun other => ⟨recurses.unique, fun same => same ▸ recurses⟩,
    normalise_eq_map_process evaluate assigned type⟩, ?_⟩
  rcases normalises_or_meets_cycle gapless given total with
    ⟨normal, succeeded, acyclic⟩ | ⟨cyclic, failed, found⟩
  · rw [succeeded]
    refine ⟨⟨?_, fun cycle => absurd cycle acyclic⟩, ⟨fun _ => acyclic, fun _ => ⟨normal, rfl⟩⟩, ?_⟩
    · rintro ⟨name, failed⟩
      cases failed
    · intro name failed
      cases failed
  · rw [failed]
    refine ⟨⟨fun _ => ⟨cyclic, found⟩, fun _ => ⟨cyclic, rfl⟩⟩,
      ⟨?_, fun acyclic => absurd ⟨cyclic, found⟩ acyclic⟩, ?_⟩
    · rintro ⟨normal, succeeded⟩
      cases succeeded
    · intro name same
      cases same
      exact found

theorem normalise_detects_cycles_of_sharing :
    let assigned : Substitution := NameMap.ofList [("a", .tuple [.var "b", .var "b"]),
      ("b", .comonad .use (.var "c")), ("d", .tuple [.var "b", .var "e"]),
      ("e", .arrow .use .use (.prim "Int") (.var "d"))]
    let shared : Ty := .tuple [.var "a", .var "b", .var "a"]
    let cyclic : Ty := .tuple [.var "a", .var "e"]
    assigned.Gapless ∧
      (∃ normal, normalise Normaliser.identity assigned shared = .ok normal ∧
        ¬ ∃ name, assigned.Reaches shared name ∧ TransGen assigned.Leads name name) ∧
      normalise Normaliser.identity assigned cyclic =
        .error (.unexpected (.cyclicAssignment "e")) ∧
      assigned.Reaches cyclic "e" ∧ TransGen assigned.Leads "e" "e" := by
  intro assigned shared cyclic
  have gapless : assigned.Gapless :=
    (((Substitution.gapless_empty.insert rfl).insert rfl).insert rfl).insert rfl
  have total (coeffect : Coeffect) : ∃ value, Normaliser.identity coeffect = .ok value := ⟨_, rfl⟩
  have succeeded : ∃ normal, normalise Normaliser.identity assigned shared = .ok normal :=
    ⟨.tuple [.tuple [.comonad .use (.var "a"), .comonad .use (.var "a")], .comonad .use (.var "a"),
      .tuple [.comonad .use (.var "a"), .comonad .use (.var "a")]], by decide +kernel⟩
  have failed : normalise Normaliser.identity assigned cyclic =
      .error (.unexpected (.cyclicAssignment "e")) := by decide +kernel
  have acyclic := (normalise_detects_cycles gapless rfl total).2.2.1.mp succeeded
  obtain ⟨normal, succeeds⟩ := succeeded
  refine ⟨gapless, ⟨normal, succeeds, acyclic⟩, failed, ?_⟩
  exact (normalise_detects_cycles gapless rfl total).2.2.2 "e" failed

end CoeffectSolver
