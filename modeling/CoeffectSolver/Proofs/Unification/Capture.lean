import CoeffectSolver.Proofs.Unification.Renaming

/-! Which occurrences of type variables a normal form shows under one name. An occurrence is given by
the branches that lead to it, through tuples, arrows and comonads and also through annotations into
payload types. Normalising keeps the names inside annotations and chooses the others without looking
at them, so names are confused only between an occurrence inside an annotation and one outside. -/

namespace CoeffectSolver

/-- A step from a type or a coeffect to one of its parts. -/
inductive Branch where
  | element (place : Nat)
  | declaration
  | call
  | argument
  | result
  | requirement
  | inner
  | payload
  | left
  | right
  deriving DecidableEq, Repr

/-- The step leads from a type into an annotation. -/
def Branch.annotates : Branch → Bool
  | .declaration | .call | .requirement => true
  | _ => false

/-- The position is inside an annotation. -/
def annotated (position : List Branch) : Bool :=
  position.any Branch.annotates

mutual

/-- The type variable at a position of a type. -/
def Ty.variableAt : List Branch → Ty → Option String
  | [], .var name => some name
  | .element place :: rest, .tuple elements => elements[place]?.bind (Ty.variableAt rest)
  | .declaration :: rest, .arrow declaration _ _ _ => declaration.variableAt rest
  | .call :: rest, .arrow _ call _ _ => call.variableAt rest
  | .argument :: rest, .arrow _ _ argument _ => argument.variableAt rest
  | .result :: rest, .arrow _ _ _ result => result.variableAt rest
  | .requirement :: rest, .comonad requirement _ => requirement.variableAt rest
  | .inner :: rest, .comonad _ inner => inner.variableAt rest
  | _, _ => none

def Coeffect.variableAt : List Branch → Coeffect → Option String
  | .payload :: rest, .param _ payload => payload.variableAt rest
  | .left :: rest, .merge left _ => left.variableAt rest
  | .right :: rest, .merge _ right => right.variableAt rest
  | .left :: rest, .split left _ => left.variableAt rest
  | .right :: rest, .split _ right => right.variableAt rest
  | .left :: rest, .seq left _ => left.variableAt rest
  | .right :: rest, .seq _ right => right.variableAt rest
  | _, _ => none

end

namespace Ty

/-- Renaming the variables of a type leaves each occurrence at its position, with a new name if it is
outside annotations. -/
theorem variableAt_renamed (rename : String → String) (position : List Branch) (type : Ty) :
    (type.replace fun name => .var (rename name)).variableAt position =
      (type.variableAt position).map fun name =>
        if annotated position then name else rename name := by
  induction position generalizing type with
  | nil => cases type <;> rfl
  | cons branch rest ih =>
      cases type with
      | absent | var | prim => cases branch <;> rfl
      | tuple elements =>
          cases branch with
          | element place =>
              rw [replace_tuple, variableAt, variableAt, List.getElem?_map]
              cases elements[place]? with
              | none => rfl
              | some element => exact ih element
          | _ => rfl
      | arrow declaration call argument result =>
          cases branch with
          -- Annotations are left as they are, so every name below them is kept.
          | declaration | call => exact Option.map_id_apply.symm
          | argument => exact ih argument
          | result => exact ih result
          | _ => rfl
      | comonad requirement inner =>
          cases branch with
          | requirement => exact Option.map_id_apply.symm
          | inner => exact ih inner
          | _ => rfl

theorem mentions_of_variableAt {position : List Branch} {type : Ty} {name : String}
    (outside : annotated position = false) (found : type.variableAt position = some name) :
    type.Mentions name := by
  induction position generalizing type with
  | nil =>
      cases type with
      | var => exact mentions_var.mpr (Option.some.inj found)
      | _ => cases found
  | cons branch rest ih =>
      obtain ⟨outer, inner⟩ := Bool.or_eq_false_iff.mp outside
      cases type with
      | absent | var | prim => cases branch <;> cases found
      | tuple elements =>
          cases branch with
          | element place =>
              obtain ⟨element, placed, below⟩ := Option.bind_eq_some_iff.mp found
              exact mentions_tuple.mpr ⟨element, List.mem_of_getElem? placed, ih inner below⟩
          | _ => cases found
      | arrow declaration call argument result =>
          cases branch with
          | declaration | call => cases outer
          | argument => exact mentions_arrow.mpr (.inl (ih inner found))
          | result => exact mentions_arrow.mpr (.inr (ih inner found))
          | _ => cases found
      | comonad requirement inside =>
          cases branch with
          | requirement => cases outer
          | inner => exact mentions_comonad.mpr (ih inner found)
          | _ => cases found

theorem exists_place_of_variableAt {position : List Branch} {type : Ty} {name : String}
    (outside : annotated position = false) (found : type.variableAt position = some name) :
    ∃ place : Nat, type.occurrences.eraseDups[place]? = some name := by
  apply List.mem_iff_getElem?.mp
  rw [List.mem_eraseDups, mem_occurrences_iff]
  exact mentions_of_variableAt outside found

theorem variableAt_canonical {position : List Branch} {type : Ty} {name : String}
    (found : type.variableAt position = some name) :
    type.canonical.variableAt position =
      some (if annotated position then name else type.canonicalNameOf name) := by
  rw [canonical_eq_replace, variableAt_renamed, found, Option.map_some]

theorem isSome_variableAt_canonical (position : List Branch) (type : Ty) :
    (type.canonical.variableAt position).isSome = (type.variableAt position).isSome := by
  rw [canonical_eq_replace, variableAt_renamed, Option.isSome_map]

variable {position position' : List Branch} {type : Ty} {name name' : String}
  (found : type.variableAt position = some name)
  (found' : type.variableAt position' = some name')

include found found'

/-- Two occurrences inside annotations, or two outside, are not confused. -/
theorem variableAt_canonical_eq_iff_of_alike (alike : annotated position = annotated position') :
    type.canonical.variableAt position = type.canonical.variableAt position' ↔ name = name' := by
  rw [variableAt_canonical found, variableAt_canonical found', Option.some.injEq, ← alike]
  cases region : annotated position with
  | true => rfl
  | false =>
      have mentioned : type.Mentions name := mentions_of_variableAt region found
      have mentioned' : type.Mentions name' := mentions_of_variableAt (alike ▸ region) found'
      exact type.canonicalNameOf_injOn.eq_iff mentioned mentioned'

theorem variableAt_canonical_eq_iff_of_place (inside : annotated position = true)
    (outside : annotated position' = false) {place : Nat}
    (placed : type.occurrences.eraseDups[place]? = some name') :
    type.canonical.variableAt position = type.canonical.variableAt position' ↔
      name = canonicalName place := by
  rw [variableAt_canonical found, variableAt_canonical found', inside, outside, if_pos rfl,
    if_neg Bool.false_ne_true, canonicalNameOf_eq_of_getElem? placed, Option.some.injEq]

end Ty

/-- A normal form has its variables where the applied type has them. It shows two variables inside
annotations, or two outside, under one name exactly if they are the same. It shows one inside and one
outside under one name exactly if the one inside is called as the canonical name that the other gets
for its place. -/
theorem normal_form_confuses_only_annotations {assigned : Substitution}
    (acyclic : assigned.Acyclic) (type : Ty) :
    (assigned.Gapless → type.gapless = true →
      ∃ normal, normalise Normaliser.identity assigned type = .ok normal) ∧
    ∀ normal, normalise Normaliser.identity assigned type = .ok normal →
      (∀ position, (normal.variableAt position).isSome =
        ((assigned.apply type).variableAt position).isSome) ∧
      ∀ position position' name name',
        (assigned.apply type).variableAt position = some name →
        (assigned.apply type).variableAt position' = some name' →
        (annotated position = annotated position' →
          (normal.variableAt position = normal.variableAt position' ↔ name = name')) ∧
        (annotated position = true → annotated position' = false →
          ∃ place : Nat, (assigned.apply type).occurrences.eraseDups[place]? = some name' ∧
            (normal.variableAt position = normal.variableAt position' ↔
              name = canonicalName place)) := by
  refine ⟨fun gapless given => exists_normal acyclic gapless given, ?_⟩
  intro normal succeeded
  have shape : (assigned.apply type).canonical = normal := by
    rw [normalise_identity acyclic] at succeeded
    split at succeeded
    · exact Except.ok.inj succeeded
    · cases succeeded
  subst shape
  refine ⟨fun position => Ty.isSome_variableAt_canonical position _, ?_⟩
  intro position position' name name' found found'
  refine ⟨Ty.variableAt_canonical_eq_iff_of_alike found found', fun inside outside => ?_⟩
  obtain ⟨place, placed⟩ := Ty.exists_place_of_variableAt outside found'
  exact ⟨place, placed, Ty.variableAt_canonical_eq_iff_of_place found found' inside outside placed⟩

theorem normal_form_confuses_only_annotations_of_payloads :
    let assigned : Substitution := NameMap.empty.insert "x" (.tuple [.var "v", .var "w"])
    let type : Ty := .arrow (.param "p" (.var "b"))
      (.merge (.param "q" (.var "b")) (.param "r" (.var "w"))) (.var "x") (.var "v")
    ∃ normal, normalise Normaliser.identity assigned type = .ok normal ∧
      normal.variableAt [.declaration, .payload] = normal.variableAt [.call, .left, .payload] ∧
      normal.variableAt [.argument, .element 0] = normal.variableAt [.result] ∧
      normal.variableAt [.argument, .element 0] ≠ normal.variableAt [.argument, .element 1] ∧
      normal.variableAt [.declaration, .payload] = normal.variableAt [.argument, .element 1] ∧
      normal.variableAt [.call, .right, .payload] ≠ normal.variableAt [.argument, .element 1] := by
  intro assigned type
  have acyclic : assigned.Acyclic := Substitution.acyclic_empty.insert (by decide +kernel)
  have gapless : assigned.Gapless := Substitution.gapless_empty.insert rfl
  have declared : (assigned.apply type).variableAt [.declaration, .payload] = some "b" := by
    decide +kernel
  have called : (assigned.apply type).variableAt [.call, .left, .payload] = some "b" := by
    decide +kernel
  have required : (assigned.apply type).variableAt [.call, .right, .payload] = some "w" := by
    decide +kernel
  have first : (assigned.apply type).variableAt [.argument, .element 0] = some "v" := by
    decide +kernel
  have second : (assigned.apply type).variableAt [.argument, .element 1] = some "w" := by
    decide +kernel
  have returned : (assigned.apply type).variableAt [.result] = some "v" := by decide +kernel
  have distinct : (assigned.apply type).occurrences.eraseDups = ["v", "w"] := by decide +kernel
  have onlyPlace : ∀ place : Nat,
      (assigned.apply type).occurrences.eraseDups[place]? = some "w" → 1 = place := by
    intro place placed
    rw [distinct] at placed
    have given : ["v", "w"][1]? = some "w" := rfl
    exact (List.getElem?_inj (by decide) (by decide)).mp (given.trans placed.symm)
  obtain ⟨succeeds, names⟩ := normal_form_confuses_only_annotations acyclic type
  obtain ⟨normal, normalised⟩ := succeeds gapless rfl
  obtain ⟨-, names⟩ := names normal normalised
  refine ⟨normal, normalised, ((names _ _ _ _ declared called).1 rfl).mpr rfl,
    ((names _ _ _ _ first returned).1 rfl).mpr rfl, ?_, ?_, ?_⟩
  · rw [Ne, (names _ _ _ _ first second).1 rfl]
    decide
  · obtain ⟨place, placed, shown⟩ := (names _ _ _ _ declared second).2 rfl rfl
    obtain rfl := onlyPlace place placed
    exact shown.mpr (by decide)
  · obtain ⟨place, placed, shown⟩ := (names _ _ _ _ required second).2 rfl rfl
    obtain rfl := onlyPlace place placed
    rw [Ne, shown]
    decide

/-- A name inside an annotation is also chosen for a different variable outside. -/
theorem normal_form_captures_payload_name :
    let type : Ty := .comonad (.param "p" (.var "a")) (.var "b")
    let normal : Ty := .comonad (.param "p" (.var "a")) (.var "a")
    Substitution.Acyclic NameMap.empty ∧
      normalise Normaliser.identity NameMap.empty type = .ok normal ∧
      normal.variableAt [.requirement, .payload] = some "a" ∧
      normal.variableAt [.inner] = some "a" ∧
      (Substitution.apply NameMap.empty type).variableAt [.requirement, .payload] = some "a" ∧
      (Substitution.apply NameMap.empty type).variableAt [.inner] = some "b" := by
  refine ⟨Substitution.acyclic_empty, ?_, rfl, rfl, ?_, ?_⟩ <;> decide +kernel

end CoeffectSolver
