import CoeffectSolver.Proofs.Names.NameMap
import CoeffectSolver.Proofs.Term.Replacement
import Mathlib.Logic.Relation

/-! Substitutions in which no variable leads back to itself. On these the hops that are allowed when
a type is resolved or searched are always enough, so that applying a substitution satisfies its
defining equation and the occurs check sees through every chain of assignments. -/

namespace CoeffectSolver.Substitution

open Relation (TransGen ReflTransGen)

/-- A variable is assigned a type that mentions another variable. -/
def Leads (assigned : Substitution) (name other : String) : Prop :=
  ∃ held, assigned.get? name = some held ∧ held.Mentions other

/-- Following assigned variables never returns to the start. -/
def Acyclic (assigned : Substitution) : Prop := ∀ name, ¬ TransGen assigned.Leads name name

theorem acyclic_empty : Acyclic NameMap.empty := by
  intro name cycle
  obtain ⟨_, ⟨_, found, _⟩, _⟩ := TransGen.head'_iff.mp cycle
  cases found

/-- Assigned variables that were followed, one after the other, on the way to a type. -/
structure Trail (assigned : Substitution) (visited : List String) (type : Ty) : Prop where
  distinct : visited.Nodup
  held : ∀ name ∈ visited, assigned.contains name = true
  leads : ∀ name ∈ visited, ∀ other, type.Mentions other → TransGen assigned.Leads name other

variable {assigned : Substitution}

theorem Trail.start (assigned : Substitution) (type : Ty) : Trail assigned [] type :=
  { distinct := List.nodup_nil
    held := fun _ member => by cases member
    leads := fun _ member => by cases member }

theorem Trail.extend {visited : List String} {type held : Ty} {name : String}
    (trail : Trail assigned visited type) (new : name ∉ visited)
    (mentioned : type.Mentions name) (found : assigned.get? name = some held) :
    Trail assigned (name :: visited) held := by
  refine { distinct := List.nodup_cons.mpr ⟨new, trail.distinct⟩, held := ?_, leads := ?_ }
  · intro other member
    rcases List.mem_cons.mp member with same | earlier
    · rw [same]
      exact NameMap.contains_iff_exists.mpr ⟨held, found⟩
    · exact trail.held other earlier
  · intro other member next inside
    have edge : assigned.Leads name next := ⟨held, found, inside⟩
    rcases List.mem_cons.mp member with same | earlier
    · rw [same]
      exact .single edge
    · exact (trail.leads other earlier name mentioned).tail edge

theorem Trail.follow {visited : List String} {type held : Ty} {name : String}
    (trail : Trail assigned visited type) (acyclic : assigned.Acyclic)
    (mentioned : type.Mentions name) (found : assigned.get? name = some held) :
    Trail assigned (name :: visited) held := by
  refine trail.extend (fun again => ?_) mentioned found
  exact acyclic name (trail.leads name again name mentioned)

/-- A trail through all assigned variables ends in a type without any of them. -/
theorem Trail.unassigned {visited : List String} {type : Ty} {name : String}
    (trail : Trail assigned visited type) (acyclic : assigned.Acyclic)
    (all : assigned.size ≤ visited.length) (mentioned : type.Mentions name) :
    assigned.get? name = none := by
  cases found : assigned.get? name with
  | none => rfl
  | some held =>
      have again : name ∈ visited := NameMap.mem_of_size_le trail.distinct trail.held all
        (NameMap.contains_iff_exists.mpr ⟨held, found⟩)
      exact absurd (trail.leads name again name mentioned) (acyclic name)

theorem resolve_of_unassigned {type : Ty} (hops : Nat)
    (unassigned : ∀ name, type.Mentions name → assigned.get? name = none) :
    assigned.resolve hops type = type := by
  cases hops with
  | zero => rfl
  | succ hops =>
      rw [resolve]
      refine Eq.trans (Ty.replace_congr fun name mentioned => ?_) (Ty.replace_var type)
      rw [unassigned name mentioned]

private theorem Trail.resolve_succ {visited : List String} {type : Ty} {hops : Nat}
    (trail : Trail assigned visited type) (acyclic : assigned.Acyclic)
    (enough : assigned.size ≤ hops + visited.length) :
    assigned.resolve (hops + 1) type = assigned.resolve hops type := by
  induction hops generalizing visited type with
  | zero =>
      have all : assigned.size ≤ visited.length := by omega
      exact resolve_of_unassigned 1 fun name mentioned => trail.unassigned acyclic all mentioned
  | succ hops ih =>
      rw [resolve, resolve]
      refine Ty.replace_congr fun name mentioned => ?_
      cases found : assigned.get? name with
      | none => rfl
      | some held =>
          refine ih (trail.follow acyclic mentioned found) ?_
          rw [List.length_cons]
          omega

private theorem Trail.unassigned_of_mentions_resolve {visited : List String} {type : Ty}
    {hops : Nat} {name : String} (trail : Trail assigned visited type)
    (acyclic : assigned.Acyclic) (enough : assigned.size ≤ hops + visited.length)
    (mentioned : (assigned.resolve hops type).Mentions name) : assigned.get? name = none := by
  induction hops generalizing visited type with
  | zero =>
      have all : assigned.size ≤ visited.length := by omega
      exact trail.unassigned acyclic all mentioned
  | succ hops ih =>
      rw [resolve] at mentioned
      obtain ⟨other, inside, met⟩ := Ty.mentions_replace.mp mentioned
      cases found : assigned.get? other with
      | none =>
          rw [found] at met
          rw [← Ty.mentions_var.mp met]
          exact found
      | some held =>
          rw [found] at met
          refine ih (trail.follow acyclic inside found) ?_ met
          rw [List.length_cons]
          omega

theorem get?_resolved (name : String) :
    assigned.resolved.get? name = (assigned.get? name).map assigned.apply :=
  NameMap.get?_mapValues

section Applying

variable (acyclic : assigned.Acyclic)

include acyclic

theorem apply_eq_replace (type : Ty) :
    assigned.apply type = type.replace fun name =>
      match assigned.get? name with
      | some held => assigned.apply held
      | none => .var name :=
  ((Trail.start assigned type).resolve_succ acyclic (Nat.le_add_right _ _)).symm

theorem apply_var_of_some {name : String} {held : Ty} (found : assigned.get? name = some held) :
    assigned.apply (.var name) = assigned.apply held := by
  rw [apply_eq_replace acyclic, Ty.replace_of_var, found]

theorem apply_tuple (elements : List Ty) :
    assigned.apply (.tuple elements) = .tuple (elements.map assigned.apply) := by
  rw [apply_eq_replace acyclic, Ty.replace_tuple]
  congr 1
  refine List.map_congr_left fun element _ => ?_
  rw [apply_eq_replace acyclic element]

theorem apply_arrow (declaration call : Coeffect) (argument result : Ty) :
    assigned.apply (.arrow declaration call argument result) =
      .arrow declaration call (assigned.apply argument) (assigned.apply result) := by
  rw [apply_eq_replace acyclic, Ty.replace_arrow, ← apply_eq_replace acyclic argument,
    ← apply_eq_replace acyclic result]

theorem apply_comonad (requirement : Coeffect) (inner : Ty) :
    assigned.apply (.comonad requirement inner) = .comonad requirement (assigned.apply inner) := by
  rw [apply_eq_replace acyclic, Ty.replace_comonad, ← apply_eq_replace acyclic inner]

theorem apply_eq_replace_apply_var (type : Ty) :
    assigned.apply type = type.replace fun name => assigned.apply (.var name) := by
  rw [apply_eq_replace acyclic]
  refine Ty.replace_congr fun name _ => ?_
  rw [apply_eq_replace acyclic (.var name), Ty.replace_of_var]

theorem unassigned_of_mentions_apply {type : Ty} {name : String}
    (mentioned : (assigned.apply type).Mentions name) : assigned.get? name = none :=
  (Trail.start assigned type).unassigned_of_mentions_resolve acyclic (Nat.le_add_right _ _)
    mentioned

theorem apply_apply (type : Ty) : assigned.apply (assigned.apply type) = assigned.apply type :=
  resolve_of_unassigned _ fun _ mentioned => unassigned_of_mentions_apply acyclic mentioned

/-- The types of a resolved substitution mention none of its variables. -/
theorem Acyclic.resolved : Acyclic assigned.resolved := by
  intro name cycle
  obtain ⟨_, ⟨_, found, _⟩, _⟩ := TransGen.head'_iff.mp cycle
  obtain ⟨_, _, ⟨_, before, mentioned⟩⟩ := TransGen.tail'_iff.mp cycle
  rw [get?_resolved] at found before
  obtain ⟨_, _, rfl⟩ := Option.map_eq_some_iff.mp before
  rw [unassigned_of_mentions_apply acyclic mentioned] at found
  cases found

/-- Resolving every assigned type first makes no difference to what a type becomes. -/
theorem apply_resolved (type : Ty) : assigned.resolved.apply type = assigned.apply type := by
  have sizes : assigned.resolved.size = assigned.size := NameMap.size_mapValues
  have settled (hops : Nat) (held : Ty) :
      assigned.resolved.resolve hops (assigned.apply held) = assigned.apply held :=
    resolve_of_unassigned hops fun name mentioned => by
      rw [get?_resolved, unassigned_of_mentions_apply acyclic mentioned, Option.map_none]
  unfold apply
  rw [sizes]
  cases count : assigned.size with
  | zero => rfl
  | succ hops =>
      rw [← count]
      refine Eq.trans ?_ (apply_eq_replace acyclic type).symm
      rw [count, resolve]
      refine Ty.replace_congr fun name _ => ?_
      rw [get?_resolved]
      cases assigned.get? name with
      | none => rfl
      | some held => exact settled hops held

end Applying

private theorem Trail.meets_of_reaches {visited : List String} {type : Ty} {hops : Nat}
    {name other : String} (trail : Trail assigned visited type) (acyclic : assigned.Acyclic)
    (enough : assigned.size ≤ hops + visited.length) (mentioned : type.Mentions other)
    (reaches : ReflTransGen assigned.Leads other name) :
    assigned.meets name hops type = true := by
  induction hops generalizing visited type other with
  | zero =>
      have all : assigned.size ≤ visited.length := by omega
      rw [meets, Ty.anyVar_iff_exists_mentions]
      refine ⟨other, mentioned, ?_⟩
      rcases reaches.cases_head with same | ⟨next, ⟨held, found, _⟩, _⟩
      · rw [same]
        exact beq_self_eq_true name
      · rw [trail.unassigned acyclic all mentioned] at found
        cases found
  | succ hops ih =>
      rw [meets, Ty.anyVar_iff_exists_mentions]
      refine ⟨other, mentioned, ?_⟩
      rcases reaches.cases_head with same | ⟨next, ⟨held, found, inside⟩, onward⟩
      · rw [same, beq_self_eq_true, Bool.true_or]
      · have further : assigned.meets name hops held = true :=
          ih (trail.follow acyclic mentioned found) (by rw [List.length_cons]; omega) inside onward
        rw [found, Bool.or_eq_true]
        exact .inr further

/-- The occurs check finds every variable that following assignments leads to. -/
theorem not_reaches_of_occursIn_eq_false (acyclic : assigned.Acyclic) {name other : String}
    {type : Ty} (absent : assigned.occursIn name type = false) (mentioned : type.Mentions other) :
    ¬ ReflTransGen assigned.Leads other name := by
  intro reaches
  have met : assigned.occursIn name type = true :=
    (Trail.start assigned type).meets_of_reaches acyclic (Nat.le_add_right _ _) mentioned reaches
  rw [absent] at met
  cases met

private theorem leads_insert {name source target : String} {type : Ty}
    (leads : Leads (assigned.insert name type) source target) :
    source = name ∧ type.Mentions target ∨ assigned.Leads source target := by
  obtain ⟨held, found, mentioned⟩ := leads
  rw [NameMap.get?_insert] at found
  split at found
  · rename_i same
    cases found
    exact .inl ⟨same, mentioned⟩
  · exact .inr ⟨held, found, mentioned⟩

-- A path through the new assignment passes it once: afterwards it starts from a variable of the
-- assigned type, and from there the occurs check has excluded a way back.
private theorem transGen_insert {name source target : String} {type : Ty}
    (fresh : ∀ other, type.Mentions other → ¬ ReflTransGen assigned.Leads other name)
    (path : TransGen (Leads (assigned.insert name type)) source target) :
    TransGen assigned.Leads source target ∨
      ReflTransGen assigned.Leads source name ∧
        ∃ other, type.Mentions other ∧ ReflTransGen assigned.Leads other target := by
  induction path with
  | single edge =>
      rcases leads_insert edge with ⟨same, mentioned⟩ | old
      · rw [same]
        exact .inr ⟨.refl, _, mentioned, .refl⟩
      · exact .inl (.single old)
  | tail _ edge ih =>
      rcases ih with before | ⟨toName, other, mentioned, onward⟩
      · rcases leads_insert edge with ⟨same, inside⟩ | old
        · rw [same] at before
          exact .inr ⟨before.to_reflTransGen, _, inside, .refl⟩
        · exact .inl (before.tail old)
      · rcases leads_insert edge with ⟨same, _⟩ | old
        · rw [same] at onward
          exact absurd onward (fresh other mentioned)
        · exact .inr ⟨toName, other, mentioned, onward.tail old⟩

/-- Assigning a type that passes the occurs check creates no cycle. -/
theorem Acyclic.insert {name : String} {type : Ty} (acyclic : assigned.Acyclic)
    (absent : assigned.occursIn name type = false) :
    Acyclic (assigned.insert name type) := by
  have fresh (other : String) (mentioned : type.Mentions other) :
      ¬ ReflTransGen assigned.Leads other name :=
    not_reaches_of_occursIn_eq_false acyclic absent mentioned
  intro start cycle
  rcases transGen_insert fresh cycle with old | ⟨toName, other, mentioned, onward⟩
  · exact acyclic start old
  · exact fresh other mentioned (onward.trans toName)

end CoeffectSolver.Substitution
