import CoeffectSolver.Proofs.Unification.Annotations

/-! Normal forms in two phases: the substitution is applied, then annotations are evaluated and
variables get the canonical name of their place in order of first occurrence. Canonical names do not
repeat, so a normal form determines its type up to a permutation of variable names and is its own
normal form. -/

namespace CoeffectSolver

theorem canonicalName_of_lt {position : Nat} (small : position < canonicalLetters.length) :
    canonicalLetters[position]? = some (canonicalName position) := by
  rw [canonicalName, List.getElem?_eq_getElem small]

theorem canonicalName_of_le {position : Nat} (large : canonicalLetters.length ≤ position) :
    canonicalName position = "a" ++ (position - canonicalLetters.length).repr := by
  rw [canonicalName, List.getElem?_eq_none large]
  rfl

private theorem canonicalName_ne_of_lt_of_le {position place : Nat}
    (small : position < canonicalLetters.length) (large : canonicalLetters.length ≤ place) :
    canonicalName position ≠ canonicalName place := by
  intro same
  have letters : ∀ letter ∈ canonicalLetters, letter.length = 1 := by decide
  have short : (canonicalName position).length = 1 :=
    letters _ (List.mem_of_getElem? (canonicalName_of_lt small))
  rw [same, canonicalName_of_le large, String.length_append] at short
  have digits : (place - canonicalLetters.length).repr.length ≠ 0 := by
    rw [Ne, String.length_eq_zero_iff]
    exact Nat.repr_ne_empty
  have letter : "a".length = 1 := rfl
  omega

theorem canonicalName_injective : Function.Injective canonicalName := by
  intro position place same
  by_cases small : position < canonicalLetters.length
  · by_cases small' : place < canonicalLetters.length
    · have distinct : canonicalLetters.Nodup := by decide
      apply (List.getElem?_inj small distinct).mp
      rw [canonicalName_of_lt small, canonicalName_of_lt small', same]
    · exact absurd same (canonicalName_ne_of_lt_of_le small (by omega))
  · by_cases small' : place < canonicalLetters.length
    · exact absurd same.symm (canonicalName_ne_of_lt_of_le small' (by omega))
    · rw [canonicalName_of_le (by omega), canonicalName_of_le (by omega),
        String.append_right_inj, Nat.repr_eq_ofList_toDigits, Nat.repr_eq_ofList_toDigits,
        String.ofList_inj] at same
      have numbers := congrArg (Nat.ofDigitChars 10 · 0) same
      simp only [Nat.ofDigitChars_ten_toDigits] at numbers
      omega

namespace Ty

mutual

/-- Changes every annotation. -/
def mapAnnotations (change : Coeffect → Coeffect) : Ty → Ty
  | .absent => .absent
  | .var name => .var name
  | .prim name => .prim name
  | .tuple elements => .tuple (mapAnnotationsInElements change elements)
  | .arrow declaration call argument result =>
      .arrow (change declaration) (change call) (argument.mapAnnotations change)
        (result.mapAnnotations change)
  | .comonad requirement inner => .comonad (change requirement) (inner.mapAnnotations change)

def mapAnnotationsInElements (change : Coeffect → Coeffect) : List Ty → List Ty
  | [] => []
  | first :: rest => first.mapAnnotations change :: mapAnnotationsInElements change rest

end

variable (change : Coeffect → Coeffect)

private theorem mapAnnotationsInElements_eq_map (elements : List Ty) :
    mapAnnotationsInElements change elements = elements.map (mapAnnotations change) := by
  induction elements with
  | nil => rfl
  | cons first rest ih => exact congrArg (first.mapAnnotations change :: ·) ih

@[simp] theorem mapAnnotations_tuple (elements : List Ty) :
    (Ty.tuple elements).mapAnnotations change = .tuple (elements.map (mapAnnotations change)) :=
  congrArg Ty.tuple (mapAnnotationsInElements_eq_map change elements)

@[simp] theorem mapAnnotations_arrow (declaration call : Coeffect) (argument result : Ty) :
    (Ty.arrow declaration call argument result).mapAnnotations change =
      .arrow (change declaration) (change call) (argument.mapAnnotations change)
        (result.mapAnnotations change) := rfl

@[simp] theorem mapAnnotations_comonad (requirement : Coeffect) (inner : Ty) :
    (Ty.comonad requirement inner).mapAnnotations change =
      .comonad (change requirement) (inner.mapAnnotations change) := rfl

theorem erase_mapAnnotations (type : Ty) : (type.mapAnnotations change).erase = type.erase := by
  induction type with
  | absent => rfl
  | var name => rfl
  | prim name => rfl
  | tuple elements ih =>
      rw [mapAnnotations_tuple, erase_tuple, erase_tuple, List.map_map]
      congr 1
      exact List.map_congr_left ih
  | arrow declaration call argument result ihArgument ihResult =>
      rw [mapAnnotations_arrow, erase_arrow, erase_arrow, ihArgument, ihResult]
  | comonad requirement inner ih => rw [mapAnnotations_comonad, erase_comonad, erase_comonad, ih]

theorem occurrences_mapAnnotations (type : Ty) :
    (type.mapAnnotations change).occurrences = type.occurrences := by
  rw [← occurrences_erase, erase_mapAnnotations, occurrences_erase]

theorem gapless_mapAnnotations (type : Ty) :
    (type.mapAnnotations change).gapless = type.gapless := by
  rw [← gapless_erase, erase_mapAnnotations, gapless_erase]

end Ty

namespace Normaliser

/-- Visiting a type is visiting it with its annotations evaluated beforehand. -/
theorem visit_mapAnnotations {evaluate : Evaluator} {value : Coeffect → Coeffect}
    {onVariable : String → Step Ty} {type : Ty}
    (evaluated : ∀ coeffect ∈ type.annotations, evaluate coeffect = .ok (value coeffect)) :
    visit identity onVariable (type.mapAnnotations value) = visit evaluate onVariable type := by
  induction type with
  | absent => rfl
  | var name => rfl
  | prim name => rfl
  | tuple elements ih =>
      rw [Ty.annotations_tuple, List.forall_mem_flatMap] at evaluated
      have each : visitElements identity onVariable (elements.map (Ty.mapAnnotations value)) =
          visitElements evaluate onVariable elements :=
        visitElements_map fun element member => ih element member (evaluated element member)
      rw [Ty.mapAnnotations_tuple, visit, visit, each]
  | arrow declaration call argument result ihArgument ihResult =>
      rw [Ty.annotations_arrow, List.forall_mem_cons, List.forall_mem_cons,
        List.forall_mem_append] at evaluated
      obtain ⟨onDeclaration, onCall, onArgument, onResult⟩ := evaluated
      rw [Ty.mapAnnotations_arrow, visit, visit, onDeclaration, onCall, ihArgument onArgument,
        ihResult onResult]
      rfl
  | comonad requirement inner ih =>
      rw [Ty.annotations_comonad, List.forall_mem_cons] at evaluated
      rw [Ty.mapAnnotations_comonad, visit, visit, evaluated.1, ih evaluated.2]
      rfl

private theorem nodup_meetAll {naming : Naming} (distinct : naming.Nodup) (names : List String) :
    (meetAll naming names).Nodup := by
  induction names generalizing naming with
  | nil => exact distinct
  | cons name rest ih =>
      apply ih
      unfold meet
      split
      · exact distinct
      · rename_i new
        exact List.nodup_append.mpr ⟨distinct, List.nodup_singleton name, by grind⟩

/-- The variables are met in the order of their first occurrences. -/
theorem meetAll_eq_append_eraseDups (naming : Naming) (names : List String) :
    meetAll naming names = naming ++ (names.filter (· ∉ naming)).eraseDups := by
  induction names generalizing naming with
  | nil => exact (List.append_nil naming).symm
  | cons name rest ih =>
      rw [meetAll, List.foldl_cons]
      change meetAll (meet naming name) rest = _
      rw [ih, meet]
      by_cases known : name ∈ naming
      · rw [if_pos known, List.filter_cons_of_neg (by simpa using known)]
      · have unmet : rest.filter (· ∉ naming ++ [name]) =
            rest.filter (fun other => !other == name && decide (other ∉ naming)) := by
          refine List.filter_congr fun other _ => ?_
          by_cases same : other = name <;> simp [same]
        rw [if_neg known, List.filter_cons_of_pos (by simpa using known), List.eraseDups_cons,
          List.filter_filter, List.append_assoc, unmet]
        rfl

theorem meetAll_nil_eq_eraseDups (names : List String) : meetAll [] names = names.eraseDups := by
  rw [meetAll_eq_append_eraseDups, List.nil_append, List.filter_eq_self.mpr (by simp)]

end Normaliser

/-- The canonical name that a variable of a type gets. -/
def Ty.canonicalNameOf (type : Ty) (name : String) : String :=
  canonicalName (type.occurrences.eraseDups.idxOf name)

namespace Ty

theorem canonical_eq_replace (type : Ty) :
    type.canonical = type.replace fun name => .var (type.canonicalNameOf name) := by
  rw [canonical, Normaliser.meetAll_nil_eq_eraseDups]
  rfl

theorem canonicalNameOf_eq_of_getElem? {type : Ty} {place : Nat} {name : String}
    (placed : type.occurrences.eraseDups[place]? = some name) :
    type.canonicalNameOf name = canonicalName place := by
  have distinct : type.occurrences.eraseDups.Nodup := by
    rw [← Normaliser.meetAll_nil_eq_eraseDups]
    exact Normaliser.nodup_meetAll List.nodup_nil _
  obtain ⟨inside, rfl⟩ := List.getElem?_eq_some_iff.mp placed
  rw [canonicalNameOf, distinct.idxOf_getElem]

theorem canonicalNameOf_injOn (type : Ty) :
    Set.InjOn type.canonicalNameOf {name | type.Mentions name} := by
  intro name mentioned other _ same
  have listed : name ∈ type.occurrences.eraseDups :=
    List.mem_eraseDups.mpr (mem_occurrences_iff.mpr mentioned)
  exact (List.idxOf_inj listed).mp (canonicalName_injective same)

end Ty

/-- Normalising is applying the substitution, evaluating the annotations, and giving the variables
canonical names in order of first occurrence, different ones to different variables. -/
theorem normalise_eq_apply_renamed {assigned : Substitution} (acyclic : assigned.Acyclic)
    (gapless : assigned.Gapless) {type : Ty} (given : type.gapless = true)
    {evaluate : Normaliser.Evaluator} {value : Coeffect → Coeffect}
    (evaluated : ∀ coeffect ∈ (assigned.apply type).annotations,
      evaluate coeffect = .ok (value coeffect)) :
    ∃ rename : String → String,
      (∀ place name, (assigned.apply type).occurrences.eraseDups[place]? = some name →
        rename name = canonicalName place) ∧
      Set.InjOn rename {name | (assigned.apply type).Mentions name} ∧
      normalise evaluate assigned type =
        .ok (((assigned.apply type).mapAnnotations value).replace fun name =>
          .var (rename name)) := by
  refine ⟨(assigned.apply type).canonicalNameOf,
    fun place name => Ty.canonicalNameOf_eq_of_getElem?, Ty.canonicalNameOf_injOn _, ?_⟩
  have same : ((assigned.apply type).mapAnnotations value).canonicalNameOf =
      (assigned.apply type).canonicalNameOf := by
    funext name
    rw [Ty.canonicalNameOf, Ty.canonicalNameOf, Ty.occurrences_mapAnnotations]
  rw [normalise_eq_visit acyclic, ← Normaliser.visit_mapAnnotations evaluated,
    Normaliser.visit_rename, Normaliser.named, Ty.gapless_mapAnnotations,
    if_pos (gapless.apply given), ← same, ← Ty.canonical_eq_replace]
  rfl

theorem normalise_eq_apply_renamed_of_history :
    let assigned : Substitution :=
      (NameMap.empty.insert "res" (.tuple [.prim "Int", .var "free"])).insert "f"
        (.arrow (.var "r") .use (.var "b") (.var "res"))
    let type : Ty := .tuple [.var "c", .var "f", .var "f"]
    let evaluate : Normaliser.Evaluator := fun coeffect =>
      if coeffect = .var "r" then .ok (.param "r" .absent)
      else if coeffect = .use then .ok .use
      else .error (.unexpected (.notParameters coeffect))
    assigned.Acyclic ∧ assigned.Gapless ∧
      (assigned.apply type).occurrences.eraseDups = ["c", "b", "free"] ∧
      ∃ rename : String → String, rename "c" = "a" ∧ rename "b" = "b" ∧ rename "free" = "c" ∧
        normalise evaluate assigned type = .ok (.tuple [.var (rename "c"),
          .arrow (.param "r" .absent) .use (.var (rename "b"))
            (.tuple [.prim "Int", .var (rename "free")]),
          .arrow (.param "r" .absent) .use (.var (rename "b"))
            (.tuple [.prim "Int", .var (rename "free")])]) := by
  intro assigned type evaluate
  let value : Coeffect → Coeffect := fun coeffect =>
    if coeffect = .var "r" then .param "r" .absent else coeffect
  have acyclic : assigned.Acyclic :=
    (Substitution.acyclic_empty.insert (by decide +kernel)).insert (by decide +kernel)
  have gapless : assigned.Gapless :=
    (Substitution.gapless_empty.insert rfl).insert rfl
  have applied : assigned.apply type = .tuple [.var "c",
      .arrow (.var "r") .use (.var "b") (.tuple [.prim "Int", .var "free"]),
      .arrow (.var "r") .use (.var "b") (.tuple [.prim "Int", .var "free"])] := by decide +kernel
  have distinct : (assigned.apply type).occurrences.eraseDups = ["c", "b", "free"] := by
    rw [applied]
    decide +kernel
  have evaluated : ∀ coeffect ∈ (assigned.apply type).annotations,
      evaluate coeffect = .ok (value coeffect) := by
    rw [applied]
    decide +kernel
  obtain ⟨rename, places, _, normal⟩ :=
    normalise_eq_apply_renamed acyclic gapless rfl evaluated
  rw [distinct] at places
  refine ⟨acyclic, gapless, distinct, rename, places 0 "c" rfl, places 1 "b" rfl,
    places 2 "free" rfl, ?_⟩
  rw [normal, applied]
  rfl

namespace Ty

/-- Canonical names can be taken back. -/
theorem exists_replace_canonical_eq (type : Ty) :
    ∃ image : String → Ty, type.canonical.replace image = type := by
  have restored := type.canonicalNameOf_injOn.leftInvOn_invFunOn
  refine ⟨fun name =>
    .var (Function.invFunOn type.canonicalNameOf {name | type.Mentions name} name), ?_⟩
  rw [canonical_eq_replace, replace_replace]
  refine Eq.trans (replace_congr fun name mentioned => ?_) (replace_var type)
  rw [replace_of_var, restored mentioned]

theorem canonical_eq_iff_exists_perm {first second : Ty} :
    first.canonical = second.canonical ↔
      ∃ rename : Equiv.Perm String, first.replace (fun name => .var (rename name)) = second := by
  constructor
  · intro same
    obtain ⟨image, restored⟩ := first.exists_replace_canonical_eq
    obtain ⟨image', restored'⟩ := second.exists_replace_canonical_eq
    -- By way of the canonical form each of the two is an instance of the other.
    rw [same, canonical, replace_replace] at restored
    rw [← same, canonical, replace_replace] at restored'
    exact exists_renaming restored' restored
  · rintro ⟨rename, rfl⟩
    exact (canonical_renamed rename.injective first).symm

theorem canonical_canonical (type : Ty) :
    type.canonical.canonical = type.canonical ∧ type.canonical.gapless = type.gapless := by
  obtain ⟨image, restored⟩ := type.exists_replace_canonical_eq
  exact canonical_eq_of_instances restored rfl

end Ty

theorem normalise_identity_empty (type : Ty) :
    normalise Normaliser.identity NameMap.empty type =
      if type.gapless then .ok type.canonical else .error (.unexpected .absentType) :=
  normalise_identity Substitution.acyclic_empty type

/-- Types without gaps have the same normal form exactly if a permutation of variable names turns
one into the other, and a normal form is its own normal form. -/
theorem normal_forms_decide_renaming :
    (∀ first second : Ty, first.gapless = true → second.gapless = true →
      (∃ normal, normalise Normaliser.identity NameMap.empty first = .ok normal) ∧
      (normalise Normaliser.identity NameMap.empty first =
          normalise Normaliser.identity NameMap.empty second ↔
        ∃ rename : Equiv.Perm String,
          first.replace (fun name => .var (rename name)) = second)) ∧
    ∀ assigned : Substitution, assigned.Acyclic → ∀ type : Ty,
      (assigned.Gapless → type.gapless = true →
        ∃ normal, normalise Normaliser.identity assigned type = .ok normal) ∧
      ∀ normal, normalise Normaliser.identity assigned type = .ok normal →
        normalise Normaliser.identity NameMap.empty normal = .ok normal := by
  constructor
  · intro first second given given'
    rw [normalise_identity_empty, normalise_identity_empty, if_pos given, if_pos given',
      Except.ok.injEq]
    exact ⟨⟨_, rfl⟩, Ty.canonical_eq_iff_exists_perm⟩
  · intro assigned acyclic type
    refine ⟨fun gapless given => exists_normal acyclic gapless given, ?_⟩
    intro normal succeeded
    rw [normalise_identity acyclic] at succeeded
    split at succeeded
    · rename_i given
      cases succeeded
      obtain ⟨same, gaps⟩ := (assigned.apply type).canonical_canonical
      rw [normalise_identity_empty, gaps, if_pos given, same]
    · cases succeeded

theorem normal_forms_decide_renaming_of_conflicting_names :
    let payload : Coeffect := .param "p" (.var "b")
    let first : Ty := .tuple [.var "b", .arrow payload .use (.var "a") (.var "a0")]
    let second : Ty := .tuple [.var "a0", .arrow payload .use (.var "b") (.var "a")]
    let third : Ty := .tuple [.var "a0", .arrow payload .use (.var "b") (.var "b")]
    let assigned : Substitution := NameMap.empty.insert "x" (.tuple [.var "b", .var "a"])
    (∃ rename : Equiv.Perm String, first.replace (fun name => .var (rename name)) = second) ∧
      (¬ ∃ rename : Equiv.Perm String, first.replace (fun name => .var (rename name)) = third) ∧
      ∃ normal, normalise Normaliser.identity assigned (.arrow payload .use (.var "a0") (.var "x")) =
          .ok normal ∧
        normal = .arrow payload .use (.var "a") (.tuple [.var "b", .var "c"]) ∧
        normalise Normaliser.identity NameMap.empty normal = .ok normal := by
  intro payload first second third assigned
  have acyclic : assigned.Acyclic := Substitution.acyclic_empty.insert (by decide +kernel)
  have normal : normalise Normaliser.identity assigned
      (.arrow payload .use (.var "a0") (.var "x")) =
        .ok (.arrow payload .use (.var "a") (.tuple [.var "b", .var "c"])) := by decide +kernel
  obtain ⟨decides, idempotent⟩ := normal_forms_decide_renaming
  refine ⟨?_, ?_, _, normal, rfl, (idempotent assigned acyclic _).2 _ normal⟩
  · apply (decides first second rfl rfl).2.mp
    decide +kernel
  · rw [← (decides first third rfl rfl).2]
    decide +kernel

end CoeffectSolver
