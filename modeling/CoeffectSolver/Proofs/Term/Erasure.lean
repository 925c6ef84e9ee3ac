import CoeffectSolver.Proofs.Term.Likeness

/-! What is left of a type when its annotations are erased, the order in which its variables occur,
and whether a type is missing somewhere in it. Types that are alike up to annotations are equal once
the annotations are erased. -/

namespace CoeffectSolver.Ty

mutual

/-- The type with plain use for every annotation. -/
def erase : Ty → Ty
  | .absent => .absent
  | .var name => .var name
  | .prim name => .prim name
  | .tuple elements => .tuple (eraseElements elements)
  | .arrow _ _ argument result => .arrow .use .use argument.erase result.erase
  | .comonad _ inner => .comonad .use inner.erase

def eraseElements : List Ty → List Ty
  | [] => []
  | first :: rest => first.erase :: eraseElements rest

end

mutual

/-- The variables outside annotations, one for each occurrence, from left to right. -/
def occurrences : Ty → List String
  | .absent => []
  | .var name => [name]
  | .prim _ => []
  | .tuple elements => occurrencesInElements elements
  | .arrow _ _ argument result => argument.occurrences ++ result.occurrences
  | .comonad _ inner => inner.occurrences

def occurrencesInElements : List Ty → List String
  | [] => []
  | first :: rest => first.occurrences ++ occurrencesInElements rest

end

mutual

/-- Whether a type is given everywhere outside annotations. -/
def gapless : Ty → Bool
  | .absent => false
  | .var _ => true
  | .prim _ => true
  | .tuple elements => gaplessElements elements
  | .arrow _ _ argument result => argument.gapless && result.gapless
  | .comonad _ inner => inner.gapless

def gaplessElements : List Ty → Bool
  | [] => true
  | first :: rest => first.gapless && gaplessElements rest

end

private theorem eraseElements_eq_map (elements : List Ty) :
    eraseElements elements = elements.map erase := by
  induction elements with
  | nil => rfl
  | cons first rest ih => exact congrArg (first.erase :: ·) ih

private theorem occurrencesInElements_eq_flatMap (elements : List Ty) :
    occurrencesInElements elements = elements.flatMap occurrences := by
  induction elements with
  | nil => rfl
  | cons first rest ih => exact congrArg (first.occurrences ++ ·) ih

private theorem gaplessElements_eq_all (elements : List Ty) :
    gaplessElements elements = elements.all gapless := by
  induction elements with
  | nil => rfl
  | cons first rest ih => exact congrArg (first.gapless && ·) ih

@[simp] theorem erase_tuple (elements : List Ty) :
    (Ty.tuple elements).erase = .tuple (elements.map erase) :=
  congrArg Ty.tuple (eraseElements_eq_map elements)

@[simp] theorem erase_arrow (declaration call : Coeffect) (argument result : Ty) :
    (Ty.arrow declaration call argument result).erase =
      .arrow .use .use argument.erase result.erase := rfl

@[simp] theorem erase_comonad (requirement : Coeffect) (inner : Ty) :
    (Ty.comonad requirement inner).erase = .comonad .use inner.erase := rfl

@[simp] theorem occurrences_tuple (elements : List Ty) :
    (Ty.tuple elements).occurrences = elements.flatMap occurrences :=
  occurrencesInElements_eq_flatMap elements

@[simp] theorem occurrences_arrow (declaration call : Coeffect) (argument result : Ty) :
    (Ty.arrow declaration call argument result).occurrences =
      argument.occurrences ++ result.occurrences := rfl

@[simp] theorem occurrences_comonad (requirement : Coeffect) (inner : Ty) :
    (Ty.comonad requirement inner).occurrences = inner.occurrences := rfl

@[simp] theorem gapless_tuple (elements : List Ty) :
    (Ty.tuple elements).gapless = elements.all gapless :=
  gaplessElements_eq_all elements

@[simp] theorem gapless_arrow (declaration call : Coeffect) (argument result : Ty) :
    (Ty.arrow declaration call argument result).gapless =
      (argument.gapless && result.gapless) := rfl

@[simp] theorem gapless_comonad (requirement : Coeffect) (inner : Ty) :
    (Ty.comonad requirement inner).gapless = inner.gapless := rfl

theorem erase_replace (image : String → Ty) (type : Ty) :
    (type.replace image).erase = type.erase.replace (fun name => (image name).erase) := by
  induction type with
  | absent => rfl
  | var name => rfl
  | prim name => rfl
  | tuple elements ih =>
      simp only [replace_tuple, erase_tuple, List.map_map]
      congr 1
      exact List.map_congr_left ih
  | arrow declaration call argument result ihArgument ihResult =>
      simp only [replace_arrow, erase_arrow, ihArgument, ihResult]
  | comonad requirement inner ih => simp only [replace_comonad, erase_comonad, ih]

theorem AlikeUpTo.erase_eq {related : Coeffect → Coeffect → Prop} {first second : Ty}
    (alike : AlikeUpTo related first second) : first.erase = second.erase := by
  induction first generalizing second with
  | absent => cases alike; rfl
  | var name => cases alike; rfl
  | prim name => cases alike; rfl
  | tuple elements ih =>
      cases alike with
      | @tuple _ elements' each =>
          have erased := forall₂_of_each (fun element member _ => ih element member) each
          have same : List.Forall₂ Eq (elements.map erase) (elements'.map erase) :=
            List.forall₂_map_left_iff.mpr (List.forall₂_map_right_iff.mpr erased)
          rw [List.forall₂_eq_eq_eq] at same
          rw [erase_tuple, erase_tuple, same]
  | arrow declaration call argument result ihArgument ihResult =>
      cases alike with
      | arrow _ _ arguments results =>
          rw [erase_arrow, erase_arrow, ihArgument arguments, ihResult results]
  | comonad requirement inner ih =>
      cases alike with
      | comonad _ inners => rw [erase_comonad, erase_comonad, ih inners]

/-- Types that are equal once annotations are erased differ in annotations only. -/
theorem alikeUpTo_of_erase_eq {first second : Ty} (same : first.erase = second.erase) :
    AlikeUpTo (fun _ _ => True) first second := by
  induction first generalizing second with
  | absent =>
      cases second with
      | absent => exact .absent
      | _ => cases same
  | var name =>
      cases second with
      | var other => cases same; exact .var name
      | _ => cases same
  | prim name =>
      cases second with
      | prim other => cases same; exact .prim name
      | _ => cases same
  | tuple elements ih =>
      cases second with
      | tuple elements' =>
          rw [erase_tuple, erase_tuple, Ty.tuple.injEq, ← List.forall₂_eq_eq_eq,
            List.forall₂_map_left_iff, List.forall₂_map_right_iff] at same
          have each := (List.forall₂_and_left elements elements').mpr ⟨ih, same⟩
          exact .tuple (each.imp fun element other known => known.1 known.2)
      | _ => cases same
  | arrow declaration call argument result ihArgument ihResult =>
      cases second with
      | arrow declaration' call' argument' result' =>
          obtain ⟨_, _, arguments, results⟩ := Ty.arrow.inj same
          exact .arrow trivial trivial (ihArgument arguments) (ihResult results)
      | _ => cases same
  | comonad requirement inner ih =>
      cases second with
      | comonad requirement' inner' =>
          exact .comonad trivial (ih (Ty.comonad.inj same).2)
      | _ => cases same

theorem erase_erase (type : Ty) : type.erase.erase = type.erase := by
  induction type with
  | absent => rfl
  | var name => rfl
  | prim name => rfl
  | tuple elements ih =>
      rw [erase_tuple, erase_tuple, List.map_map]
      congr 1
      exact List.map_congr_left ih
  | arrow declaration call argument result ihArgument ihResult =>
      rw [erase_arrow, erase_arrow, ihArgument, ihResult]
  | comonad requirement inner ih => rw [erase_comonad, erase_comonad, ih]

theorem mem_occurrences_iff {type : Ty} {name : String} :
    name ∈ type.occurrences ↔ type.Mentions name := by
  induction type with
  | absent => simp [occurrences]
  | var other => simp [occurrences, eq_comm]
  | prim other => simp [occurrences]
  | tuple elements ih =>
      rw [occurrences_tuple, List.mem_flatMap, mentions_tuple]
      exact exists_congr fun element => and_congr_right fun member => ih element member
  | arrow declaration call argument result ihArgument ihResult =>
      rw [occurrences_arrow, List.mem_append, mentions_arrow, ihArgument, ihResult]
  | comonad requirement inner ih => rw [occurrences_comonad, mentions_comonad, ih]

theorem occurrences_erase (type : Ty) : type.erase.occurrences = type.occurrences := by
  induction type with
  | absent => rfl
  | var name => rfl
  | prim name => rfl
  | tuple elements ih =>
      rw [erase_tuple, occurrences_tuple, occurrences_tuple, List.flatMap_map]
      exact List.flatMap_congr ih
  | arrow declaration call argument result ihArgument ihResult =>
      rw [erase_arrow, occurrences_arrow, occurrences_arrow, ihArgument, ihResult]
  | comonad requirement inner ih => rw [erase_comonad, occurrences_comonad, occurrences_comonad, ih]

theorem occurrences_renamed (rename : String → String) (type : Ty) :
    (type.replace fun name => .var (rename name)).occurrences = type.occurrences.map rename := by
  induction type with
  | absent => rfl
  | var name => rfl
  | prim name => rfl
  | tuple elements ih =>
      rw [replace_tuple, occurrences_tuple, occurrences_tuple, List.flatMap_map, List.map_flatMap]
      exact List.flatMap_congr ih
  | arrow declaration call argument result ihArgument ihResult =>
      rw [replace_arrow, occurrences_arrow, occurrences_arrow, ihArgument, ihResult, List.map_append]
  | comonad requirement inner ih =>
      rw [replace_comonad, occurrences_comonad, occurrences_comonad, ih]

theorem gapless_erase (type : Ty) : type.erase.gapless = type.gapless := by
  induction type with
  | absent => rfl
  | var name => rfl
  | prim name => rfl
  | tuple elements ih =>
      rw [erase_tuple, gapless_tuple, gapless_tuple, List.all_map, Bool.eq_iff_iff,
        List.all_eq_true, List.all_eq_true]
      refine forall₂_congr fun element member => ?_
      rw [Function.comp_apply, ih element member]
  | arrow declaration call argument result ihArgument ihResult =>
      rw [erase_arrow, gapless_arrow, gapless_arrow, ihArgument, ihResult]
  | comonad requirement inner ih => rw [erase_comonad, gapless_comonad, gapless_comonad, ih]

/-- A replaced type has a gap where the type has one, or where the image of one of its variables
does. -/
theorem gapless_replace {image : String → Ty} {type : Ty} :
    (type.replace image).gapless = true ↔
      type.gapless = true ∧ ∀ name, type.Mentions name → (image name).gapless = true := by
  induction type with
  | absent => simp [gapless]
  | var name => simp [gapless]
  | prim name => simp [gapless]
  | tuple elements ih =>
      simp only [replace_tuple, gapless_tuple, List.all_map, List.all_eq_true, Function.comp_apply,
        mentions_tuple]
      constructor
      · intro all
        refine ⟨fun element member => ((ih element member).mp (all element member)).1, ?_⟩
        rintro name ⟨element, member, inside⟩
        exact ((ih element member).mp (all element member)).2 name inside
      · rintro ⟨all, images⟩ element member
        exact (ih element member).mpr ⟨all element member, fun name inside =>
          images name ⟨element, member, inside⟩⟩
  | arrow declaration call argument result ihArgument ihResult =>
      simp only [replace_arrow, gapless_arrow, Bool.and_eq_true, mentions_arrow, ihArgument, ihResult,
        or_imp, forall_and]
      exact and_and_and_comm
  | comonad requirement inner ih =>
      simp only [replace_comonad, gapless_comonad, mentions_comonad, ih]

end CoeffectSolver.Ty
