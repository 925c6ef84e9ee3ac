import CoeffectSolver.Unification.Substitution

/-! Induction on types, and how replacing type variables acts on a type. Variables are those outside
annotations throughout, since replacement does not enter annotations. -/

namespace CoeffectSolver.Ty

/-- Induction on a type, with one hypothesis for all elements of a tuple. -/
@[elab_as_elim, induction_eliminator]
theorem structuralInduction {motive : Ty → Prop} (absent : motive .absent)
    (var : ∀ name, motive (.var name)) (prim : ∀ name, motive (.prim name))
    (tuple : ∀ elements, (∀ element ∈ elements, motive element) → motive (.tuple elements))
    (arrow : ∀ declaration call argument result, motive argument → motive result →
      motive (.arrow declaration call argument result))
    (comonad : ∀ requirement inner, motive inner → motive (.comonad requirement inner))
    (type : Ty) : motive type :=
  match type with
  | .absent => absent
  | .var name => var name
  | .prim name => prim name
  | .tuple elements =>
      tuple elements fun element _member =>
        structuralInduction absent var prim tuple arrow comonad element
  | .arrow declaration call argument result =>
      arrow declaration call argument result
        (structuralInduction absent var prim tuple arrow comonad argument)
        (structuralInduction absent var prim tuple arrow comonad result)
  | .comonad requirement inner =>
      comonad requirement inner (structuralInduction absent var prim tuple arrow comonad inner)

theorem replaceElements_eq_map (image : String → Ty) (elements : List Ty) :
    replaceElements image elements = elements.map (replace image) := by
  induction elements with
  | nil => rfl
  | cons first rest ih => exact congrArg (first.replace image :: ·) ih

theorem anyVarElements_eq_any (test : String → Bool) (elements : List Ty) :
    anyVarElements test elements = elements.any (anyVar test) := by
  induction elements with
  | nil => rfl
  | cons first rest ih => exact congrArg (first.anyVar test || ·) ih

section Equations

variable (image : String → Ty) (test : String → Bool)

@[simp, grind =] theorem replace_absent : Ty.absent.replace image = .absent := rfl

@[simp, grind =] theorem replace_of_var (name : String) : (Ty.var name).replace image = image name := rfl

@[simp, grind =] theorem replace_prim (name : String) : (Ty.prim name).replace image = .prim name := rfl

@[simp, grind =] theorem replace_tuple (elements : List Ty) :
    (Ty.tuple elements).replace image = .tuple (elements.map (replace image)) :=
  congrArg Ty.tuple (replaceElements_eq_map image elements)

@[simp, grind =] theorem replace_arrow (declaration call : Coeffect) (argument result : Ty) :
    (Ty.arrow declaration call argument result).replace image =
      .arrow declaration call (argument.replace image) (result.replace image) := rfl

@[simp, grind =] theorem replace_comonad (requirement : Coeffect) (inner : Ty) :
    (Ty.comonad requirement inner).replace image = .comonad requirement (inner.replace image) := rfl

@[simp] theorem anyVar_absent : Ty.absent.anyVar test = false := rfl

@[simp] theorem anyVar_var (name : String) : (Ty.var name).anyVar test = test name := rfl

@[simp] theorem anyVar_prim (name : String) : (Ty.prim name).anyVar test = false := rfl

@[simp] theorem anyVar_tuple (elements : List Ty) :
    (Ty.tuple elements).anyVar test = elements.any (anyVar test) :=
  anyVarElements_eq_any test elements

@[simp] theorem anyVar_arrow (declaration call : Coeffect) (argument result : Ty) :
    (Ty.arrow declaration call argument result).anyVar test =
      (argument.anyVar test || result.anyVar test) := rfl

@[simp] theorem anyVar_comonad (requirement : Coeffect) (inner : Ty) :
    (Ty.comonad requirement inner).anyVar test = inner.anyVar test := rfl

end Equations

/-- A type variable stands in a type, outside annotations. -/
def Mentions (type : Ty) (name : String) : Prop :=
  type.anyVar (fun other => other == name) = true

@[simp] theorem not_mentions_absent {name : String} : ¬ Mentions .absent name := by
  simp [Mentions]

@[simp] theorem mentions_var {other name : String} : Mentions (.var other) name ↔ other = name := by
  simp [Mentions]

@[simp] theorem not_mentions_prim {other name : String} : ¬ Mentions (.prim other) name := by
  simp [Mentions]

@[simp] theorem mentions_tuple {elements : List Ty} {name : String} :
    Mentions (.tuple elements) name ↔ ∃ element ∈ elements, element.Mentions name := by
  simp [Mentions]

@[simp] theorem mentions_arrow {declaration call : Coeffect} {argument result : Ty}
    {name : String} :
    Mentions (.arrow declaration call argument result) name ↔
      argument.Mentions name ∨ result.Mentions name := by
  simp [Mentions]

@[simp] theorem mentions_comonad {requirement : Coeffect} {inner : Ty} {name : String} :
    Mentions (.comonad requirement inner) name ↔ inner.Mentions name := by
  simp [Mentions]

theorem anyVar_iff_exists_mentions (test : String → Bool) (type : Ty) :
    type.anyVar test = true ↔ ∃ name, type.Mentions name ∧ test name = true := by
  induction type with
  | absent => simp
  | var name => simp
  | prim name => simp
  | tuple elements ih =>
      rw [anyVar_tuple, List.any_eq_true]
      constructor
      · rintro ⟨element, member, passes⟩
        obtain ⟨name, mentioned, tested⟩ := (ih element member).mp passes
        exact ⟨name, mentions_tuple.mpr ⟨element, member, mentioned⟩, tested⟩
      · rintro ⟨name, mentioned, tested⟩
        obtain ⟨element, member, inside⟩ := mentions_tuple.mp mentioned
        exact ⟨element, member, (ih element member).mpr ⟨name, inside, tested⟩⟩
  | arrow declaration call argument result ihArgument ihResult =>
      rw [anyVar_arrow, Bool.or_eq_true, ihArgument, ihResult, ← exists_or]
      simp only [mentions_arrow, or_and_right]
  | comonad requirement inner ih =>
      rw [anyVar_comonad, ih]
      simp only [mentions_comonad]

theorem replace_congr {image image' : String → Ty} {type : Ty}
    (same : ∀ name, type.Mentions name → image name = image' name) :
    type.replace image = type.replace image' := by
  induction type with
  | absent => rfl
  | var name => exact same name (mentions_var.mpr rfl)
  | prim name => rfl
  | tuple elements ih =>
      rw [replace_tuple, replace_tuple]
      congr 1
      refine List.map_congr_left fun element member => ?_
      exact ih element member fun name mentioned =>
        same name (mentions_tuple.mpr ⟨element, member, mentioned⟩)
  | arrow declaration call argument result ihArgument ihResult =>
      rw [replace_arrow, replace_arrow,
        ihArgument fun name mentioned => same name (mentions_arrow.mpr (.inl mentioned)),
        ihResult fun name mentioned => same name (mentions_arrow.mpr (.inr mentioned))]
  | comonad requirement inner ih =>
      rw [replace_comonad, replace_comonad, ih fun name mentioned => same name (mentions_comonad.mpr mentioned)]

theorem image_eq_of_replace_eq {image image' : String → Ty} {type : Ty}
    (same : type.replace image = type.replace image') {name : String}
    (mentioned : type.Mentions name) : image name = image' name := by
  induction type with
  | absent => exact absurd mentioned not_mentions_absent
  | var other =>
      rw [← mentions_var.mp mentioned]
      exact same
  | prim other => exact absurd mentioned not_mentions_prim
  | tuple elements ih =>
      obtain ⟨element, member, inside⟩ := mentions_tuple.mp mentioned
      rw [replace_tuple, replace_tuple] at same
      exact ih element member (List.map_inj_left.mp (Ty.tuple.inj same) element member) inside
  | arrow declaration call argument result ihArgument ihResult =>
      rw [replace_arrow, replace_arrow] at same
      obtain ⟨_, _, arguments, results⟩ := Ty.arrow.inj same
      rcases mentions_arrow.mp mentioned with inside | inside
      · exact ihArgument arguments inside
      · exact ihResult results inside
  | comonad requirement inner ih =>
      rw [replace_comonad, replace_comonad] at same
      exact ih (Ty.comonad.inj same).2 (mentions_comonad.mp mentioned)

theorem replace_var (type : Ty) : type.replace .var = type := by
  induction type with
  | absent => rfl
  | var name => rfl
  | prim name => rfl
  | tuple elements ih =>
      rw [replace_tuple, List.map_congr_left ih, List.map_id']
  | arrow declaration call argument result ihArgument ihResult =>
      rw [replace_arrow, ihArgument, ihResult]
  | comonad requirement inner ih => rw [replace_comonad, ih]

theorem replace_replace (first second : String → Ty) (type : Ty) :
    (type.replace first).replace second =
      type.replace (fun name => (first name).replace second) := by
  induction type with
  | absent => rfl
  | var name => rfl
  | prim name => rfl
  | tuple elements ih =>
      simp only [replace_tuple, List.map_map]
      congr 1
      exact List.map_congr_left ih
  | arrow declaration call argument result ihArgument ihResult =>
      simp only [replace_arrow, ihArgument, ihResult]
  | comonad requirement inner ih => simp only [replace_comonad, ih]

theorem mentions_replace {image : String → Ty} {type : Ty} {name : String} :
    (type.replace image).Mentions name ↔
      ∃ other, type.Mentions other ∧ (image other).Mentions name := by
  induction type with
  | absent => simp
  | var other => simp
  | prim other => simp
  | tuple elements ih =>
      rw [replace_tuple, mentions_tuple]
      constructor
      · rintro ⟨replaced, member, mentioned⟩
        obtain ⟨element, inside, rfl⟩ := List.mem_map.mp member
        obtain ⟨other, occurs, met⟩ := (ih element inside).mp mentioned
        exact ⟨other, mentions_tuple.mpr ⟨element, inside, occurs⟩, met⟩
      · rintro ⟨other, occurs, met⟩
        obtain ⟨element, inside, occurs⟩ := mentions_tuple.mp occurs
        exact ⟨_, List.mem_map.mpr ⟨element, inside, rfl⟩,
          (ih element inside).mpr ⟨other, occurs, met⟩⟩
  | arrow declaration call argument result ihArgument ihResult =>
      rw [replace_arrow, mentions_arrow, ihArgument, ihResult, ← exists_or]
      simp only [mentions_arrow, or_and_right]
  | comonad requirement inner ih =>
      rw [replace_comonad, mentions_comonad, ih]
      simp only [mentions_comonad]

end CoeffectSolver.Ty
