import CoeffectSolver.Proofs.Term.Erasure
import CoeffectSolver.Proofs.Unification.Acyclicity
import CoeffectSolver.Unification.Normaliser
import Mathlib.Logic.Equiv.Fintype

/-! Normalising under an acyclic substitution is applying the substitution and then giving each
variable the canonical name of its place among the variables in order of first occurrence. Types
that are instances of each other have the same canonical form. -/

namespace CoeffectSolver

namespace Normaliser

/-- The free variables met once another one is met. -/
def meet (naming : Naming) (name : String) : Naming :=
  if name ∈ naming then naming else naming ++ [name]

def meetAll (naming : Naming) (names : List String) : Naming := names.foldl meet naming

def canonicalVar (naming : Naming) (name : String) : Ty := .var (canonicalName (naming.idxOf name))

section Naming

variable {naming : Naming} {name : String} {names : List String}

private theorem meetAll_append (names names' : List String) :
    meetAll naming (names ++ names') = meetAll (meetAll naming names) names' :=
  List.foldl_append

private theorem prefix_meet (naming : Naming) (name : String) : naming <+: meet naming name := by
  unfold meet
  split
  · exact List.prefix_refl naming
  · exact List.prefix_append naming [name]

private theorem prefix_meetAll (naming : Naming) (names : List String) :
    naming <+: meetAll naming names := by
  induction names generalizing naming with
  | nil => exact List.prefix_refl naming
  | cons name rest ih => exact (prefix_meet naming name).trans (ih (meet naming name))

private theorem mem_meetAll (member : name ∈ names) : name ∈ meetAll naming names := by
  induction names generalizing naming with
  | nil => cases member
  | cons first rest ih =>
      rcases List.mem_cons.mp member with same | later
      · have met : name ∈ meet naming first := by
          unfold meet
          rw [same]
          split
          · assumption
          · exact List.mem_append_right naming List.mem_cons_self
        exact (prefix_meetAll (meet naming first) rest).subset met
      · exact ih later

/-- A variable keeps its name while others are met. -/
private theorem canonicalVar_meetAll (met : name ∈ naming) (names : List String) :
    canonicalVar (meetAll naming names) name = canonicalVar naming name := by
  obtain ⟨others, extended⟩ := prefix_meetAll naming names
  rw [canonicalVar, canonicalVar, ← extended, List.idxOf_append_of_mem met]

private theorem replace_canonicalVar_meetAll (type : Ty) (names : List String) :
    type.replace (canonicalVar (meetAll (meetAll naming type.occurrences) names)) =
      type.replace (canonicalVar (meetAll naming type.occurrences)) :=
  Ty.replace_congr fun _ mentioned =>
    canonicalVar_meetAll (mem_meetAll (Ty.mem_occurrences_iff.mpr mentioned)) names

private theorem rename_eq (naming : Naming) (name : String) :
    rename name naming = .ok (canonicalVar (meet naming name) name, meet naming name) := by
  unfold rename meet canonicalVar
  cases found : naming.findIdx? (fun other => other == name) with
  | none =>
      have new : name ∉ naming := by
        intro member
        have different := List.findIdx?_eq_none_iff.mp found name member
        rw [beq_self_eq_true] at different
        cases different
      rw [if_neg new, List.idxOf_append, if_neg new, List.idxOf_cons_self, Nat.zero_add]
  | some place =>
      obtain ⟨inside, index⟩ := List.findIdx?_eq_some_iff_findIdx_eq.mp found
      have position : naming.idxOf name = place := index
      have known : name ∈ naming := List.idxOf_lt_length_iff.mp (position ▸ inside)
      rw [if_pos known, position]

end Naming

section Visits

variable {evaluate evaluate' : Evaluator} {onVariable onVariable' : String → Step Ty}

theorem visitElements_map {change : Ty → Ty} {elements : List Ty}
    (each : ∀ element ∈ elements,
      visit evaluate onVariable (change element) = visit evaluate' onVariable' element) :
    visitElements evaluate onVariable (elements.map change) =
      visitElements evaluate' onVariable' elements := by
  induction elements with
  | nil => rfl
  | cons first rest ih =>
      rw [List.forall_mem_cons] at each
      rw [List.map_cons, visitElements, visitElements, each.1, ih each.2]

theorem visit_congr {type : Ty}
    (same : ∀ name, type.Mentions name → onVariable name = onVariable' name) :
    visit evaluate onVariable type = visit evaluate onVariable' type := by
  induction type with
  | absent => rfl
  | var name => exact same name (Ty.mentions_var.mpr rfl)
  | prim name => rfl
  | tuple elements ih =>
      have each : visitElements evaluate onVariable (elements.map id) =
          visitElements evaluate onVariable' elements :=
        visitElements_map fun element member => ih element member fun name mentioned =>
          same name (Ty.mentions_tuple.mpr ⟨element, member, mentioned⟩)
      rw [List.map_id] at each
      rw [visit, visit, each]
  | arrow declaration call argument result ihArgument ihResult =>
      rw [visit, visit,
        ihArgument fun name mentioned => same name (Ty.mentions_arrow.mpr (.inl mentioned)),
        ihResult fun name mentioned => same name (Ty.mentions_arrow.mpr (.inr mentioned))]
  | comonad requirement inner ih =>
      rw [visit, visit, ih fun name mentioned => same name (Ty.mentions_comonad.mpr mentioned)]

/-- Visiting a replaced type is visiting the type and, at each variable, its image. -/
theorem visit_replace (image : String → Ty) (type : Ty) :
    visit evaluate onVariable (type.replace image) =
      visit evaluate (fun name => visit evaluate onVariable (image name)) type := by
  induction type with
  | absent => rfl
  | var name => rfl
  | prim name => rfl
  | tuple elements ih => rw [Ty.replace_tuple, visit, visit, visitElements_map ih]
  | arrow declaration call argument result ihArgument ihResult =>
      rw [Ty.replace_arrow, visit, visit, ihArgument, ihResult]
  | comonad requirement inner ih => rw [Ty.replace_comonad, visit, visit, ih]

/-- Following assigned variables while visiting is visiting the resolved type. -/
private theorem process_eq_visit_resolve {assigned : Substitution} (acyclic : assigned.Acyclic)
    {resolving : List String} {type : Ty} {hops : Nat}
    (trail : Substitution.Trail assigned resolving type)
    (enough : assigned.size ≤ hops + resolving.length) :
    process evaluate assigned hops resolving type =
      visit evaluate rename (assigned.resolve hops type) := by
  induction hops generalizing resolving type with
  | zero =>
      have all : assigned.size ≤ resolving.length := by omega
      rw [process, Substitution.resolve]
      refine visit_congr fun name mentioned => ?_
      rw [NameMap.contains, trail.unassigned acyclic all mentioned, Option.isSome_none,
        if_neg Bool.false_ne_true]
  | succ hops ih =>
      rw [process, Substitution.resolve, visit_replace]
      refine visit_congr fun name mentioned => ?_
      cases found : assigned.get? name with
      | none => rfl
      | some held =>
          have followed := trail.follow acyclic mentioned found
          have new : ¬ resolving.contains name = true := by
            rw [List.contains_iff_mem]
            exact (List.nodup_cons.mp followed.distinct).1
          dsimp only
          rw [if_neg new]
          refine ih followed ?_
          rw [List.length_cons]
          omega

theorem bind_apply {α β : Type} (first : Step α) (second : α → Step β) (naming : Naming) :
    (first >>= second) naming =
      match first naming with
      | .ok (value, met) => second value met
      | .error fault => .error fault := by
  change (first naming >>= fun both => second both.1 both.2) = _
  cases first naming with
  | ok both => rfl
  | error fault => rfl

end Visits

/-- What naming the variables of a type gives, when annotations are left alone. -/
def named (naming : Naming) (type : Ty) : Except Fault (Ty × Naming) :=
  if type.gapless then
    .ok (type.replace (canonicalVar (meetAll naming type.occurrences)),
      meetAll naming type.occurrences)
  else .error (.unexpected .absentType)

private theorem visitElements_rename {elements : List Ty} {naming : Naming}
    (each : ∀ element ∈ elements, ∀ naming,
      visit identity rename element naming = named naming element) :
    visitElements identity rename elements naming =
      if elements.all Ty.gapless then
        .ok (elements.map (Ty.replace
            (canonicalVar (meetAll naming (elements.flatMap Ty.occurrences)))),
          meetAll naming (elements.flatMap Ty.occurrences))
      else .error (.unexpected .absentType) := by
  induction elements generalizing naming with
  | nil => rfl
  | cons first rest ih =>
      rw [List.forall_mem_cons] at each
      rw [visitElements, bind_apply, each.1, named, List.all_cons, List.flatMap_cons, meetAll_append]
      cases first.gapless with
      | false => rfl
      | true =>
          rw [if_pos rfl]
          dsimp only
          rw [bind_apply, ih each.2, Bool.true_and]
          cases rest.all Ty.gapless with
          | false => rfl
          | true =>
              rw [if_pos rfl, List.map_cons, replace_canonicalVar_meetAll]
              rfl

theorem visit_rename (type : Ty) (naming : Naming) :
    visit identity rename type naming = named naming type := by
  induction type generalizing naming with
  | absent => rfl
  | var name => exact rename_eq naming name
  | prim name => rfl
  | tuple elements ih =>
      rw [visit, bind_apply, visitElements_rename ih, named, Ty.gapless_tuple, Ty.occurrences_tuple,
        Ty.replace_tuple]
      cases elements.all Ty.gapless with
      | false => rfl
      | true => rfl
  | arrow declaration call argument result ihArgument ihResult =>
      change (visit identity rename argument >>= fun argument =>
        visit identity rename result >>= fun result =>
          pure (Ty.arrow declaration call argument result)) naming = _
      rw [bind_apply, ihArgument, named, named, Ty.gapless_arrow, Ty.occurrences_arrow,
        meetAll_append]
      cases argument.gapless with
      | false => rfl
      | true =>
          rw [if_pos rfl]
          dsimp only
          rw [bind_apply, ihResult, named, Bool.true_and]
          cases result.gapless with
          | false => rfl
          | true =>
              rw [if_pos rfl, if_pos rfl, Ty.replace_arrow, replace_canonicalVar_meetAll]
              rfl
  | comonad requirement inner ih =>
      change (visit identity rename inner >>= fun inner =>
        pure (Ty.comonad requirement inner)) naming = _
      rw [bind_apply, ih, named, named, Ty.gapless_comonad, Ty.occurrences_comonad]
      cases inner.gapless with
      | false => rfl
      | true => rfl

end Normaliser

open Normaliser (meet meetAll canonicalVar)

/-- The type with canonical names for its variables, in order of first occurrence. -/
def Ty.canonical (type : Ty) : Ty := type.replace (canonicalVar (meetAll [] type.occurrences))

/-- Normalising is visiting the type that the substitution makes of a type. -/
theorem normalise_eq_visit {assigned : Substitution} (acyclic : assigned.Acyclic)
    (evaluate : Normaliser.Evaluator) (type : Ty) :
    normalise evaluate assigned type =
      (Normaliser.visit evaluate Normaliser.rename (assigned.apply type) []).map Prod.fst := by
  rw [normalise, Normaliser.process_eq_visit_resolve acyclic (Substitution.Trail.start assigned type)
    (Nat.le_add_right _ _), ← Substitution.apply]
  cases Normaliser.visit evaluate Normaliser.rename (assigned.apply type) [] with
  | ok both => rfl
  | error fault => rfl

theorem normalise_identity {assigned : Substitution} (acyclic : assigned.Acyclic) (type : Ty) :
    normalise Normaliser.identity assigned type =
      if (assigned.apply type).gapless then .ok (assigned.apply type).canonical
      else .error (.unexpected .absentType) := by
  rw [normalise_eq_visit acyclic, Normaliser.visit_rename, Normaliser.named]
  cases (assigned.apply type).gapless with
  | false => rfl
  | true => rfl

namespace Ty

theorem erase_canonical (type : Ty) : type.canonical.erase = type.erase.canonical := by
  rw [canonical, canonical, erase_replace, occurrences_erase]
  rfl

private theorem meetAll_map {rename : String → String} (injective : Function.Injective rename)
    (naming names : List String) :
    meetAll (naming.map rename) (names.map rename) = (meetAll naming names).map rename := by
  induction names generalizing naming with
  | nil => rfl
  | cons name rest ih =>
      have met : meet (naming.map rename) (rename name) = (meet naming name).map rename := by
        have known := List.mem_map_of_injective injective (l := naming) (a := name)
        unfold meet
        by_cases member : name ∈ naming
        · rw [if_pos member, if_pos (known.mpr member)]
        · rw [if_neg member, if_neg (mt known.mp member), List.map_append]
          rfl
      rw [List.map_cons, meetAll, List.foldl_cons, met]
      exact ih (meet naming name)

private theorem idxOf_map {rename : String → String} (injective : Function.Injective rename)
    (naming : List String) (name : String) :
    (naming.map rename).idxOf (rename name) = naming.idxOf name := by
  unfold List.idxOf
  rw [List.findIdx_map]
  congr 1
  funext other
  exact Bool.eq_iff_iff.mpr (by simp [injective.eq_iff])

/-- Canonical names do not depend on the names that were there. -/
theorem canonical_renamed {rename : String → String} (injective : Function.Injective rename)
    (type : Ty) : (type.replace fun name => .var (rename name)).canonical = type.canonical := by
  rw [canonical, occurrences_renamed, replace_replace, canonical]
  have places := meetAll_map injective [] type.occurrences
  rw [List.map_nil] at places
  refine replace_congr fun name _ => ?_
  rw [replace_of_var, canonicalVar, canonicalVar, places, idxOf_map injective]

private theorem exists_var_of_replace_eq_var {image : String → Ty} {type : Ty} {name : String}
    (same : type.replace image = .var name) : ∃ other, type = .var other ∧ image other = .var name := by
  cases type with
  | var other => exact ⟨other, rfl, same⟩
  | _ => cases same

/-- A type and an instance of it that it is an instance of in turn differ by a renaming. -/
theorem exists_renaming {first second : Ty} {image image' : String → Ty}
    (there : first.replace image = second) (back : second.replace image' = first) :
    ∃ rename : Equiv.Perm String, first.replace (fun name => .var (rename name)) = second := by
  have returned (name : String) (mentioned : first.Mentions name) :
      (image name).replace image' = .var name := by
    have round : first.replace (fun name => (image name).replace image') = first.replace .var := by
      rw [← replace_replace, there, back, replace_var]
    exact image_eq_of_replace_eq round mentioned
  have renames (name : {name // name ∈ first.occurrences}) :
      ∃ other, image name = .var other ∧ image' other = .var name :=
    exists_var_of_replace_eq_var (returned name (mem_occurrences_iff.mp name.2))
  choose target forth restored using renames
  have injective : Function.Injective target := by
    intro name name' same
    have both := restored name
    rw [same, restored name'] at both
    exact Subtype.ext (Ty.var.inj both).symm
  -- The renaming is one of finitely many variables and extends to all names.
  obtain ⟨permutation, extended⟩ :=
    Equiv.Perm.exists_extending_pair Subtype.val target Subtype.val_injective injective
  refine ⟨permutation, ?_⟩
  rw [← there]
  refine replace_congr fun name mentioned => ?_
  have listed := mem_occurrences_iff.mpr mentioned
  rw [forth ⟨name, listed⟩, ← extended ⟨name, listed⟩]

theorem canonical_eq_of_instances {first second : Ty} {image image' : String → Ty}
    (there : first.replace image = second) (back : second.replace image' = first) :
    first.canonical = second.canonical ∧ first.gapless = second.gapless := by
  obtain ⟨rename, renamed⟩ := exists_renaming there back
  constructor
  · rw [← renamed, canonical_renamed rename.injective]
  · rw [← renamed, Bool.eq_iff_iff, gapless_replace]
    exact (and_iff_left fun _ _ => rfl).symm

end Ty
end CoeffectSolver
