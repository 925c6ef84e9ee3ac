import CoeffectSolver.Names.NameMap
import Mathlib.Data.List.Sort

/-! Sets of names are determined by their members and maps keyed by name by what they answer, and
comparing two maps entry by entry decides whether they are equal. -/

namespace CoeffectSolver

theorem NameSet.ext_of_mem {first second : NameSet}
    (same : ∀ name, name ∈ first ↔ name ∈ second) : first = second := by
  have irreflexive : Std.Irrefl (fun earlier later : String => earlier < later) :=
    ⟨String.lt_irrefl⟩
  have antisymmetric : Std.Antisymm (fun earlier later : String => earlier < later) :=
    ⟨fun _ _ before after => absurd after (String.lt_asymm before)⟩
  have names : first.names = second.names :=
    List.Pairwise.eq_of_mem_iff first.ascending second.ascending fun name => same name
  cases first
  cases second
  cases names
  rfl

namespace NameMap

variable {α β : Type}

private theorem lookup_eq_some_iff {entries : List (String × α)}
    (ascending : entries.Pairwise (fun earlier later => earlier.1 < later.1))
    {name : String} {value : α} :
    lookup name entries = some value ↔ (name, value) ∈ entries := by
  induction entries with
  | nil => simp [lookup]
  | cons head rest ih =>
      obtain ⟨other, held⟩ := head
      obtain ⟨headBelow, restAscending⟩ := List.pairwise_cons.mp ascending
      rw [lookup, List.mem_cons]
      by_cases same : other = name
      · subst same
        rw [if_pos rfl]
        constructor
        · intro found
          exact .inl (by rw [Option.some.inj found])
        · rintro (atHead | inRest)
          · rw [(Prod.mk.inj atHead).2]
          · exact absurd (headBelow _ inRest) (String.lt_irrefl other)
      · rw [if_neg same, ih restAscending]
        constructor
        · exact .inr
        · rintro (atHead | inRest)
          · exact absurd (Prod.mk.inj atHead).1.symm same
          · exact inRest

theorem get?_eq_some_iff {map : NameMap α} {name : String} {value : α} :
    map.get? name = some value ↔ (name, value) ∈ map.entries :=
  lookup_eq_some_iff map.ascending

theorem contains_iff_exists {map : NameMap α} {name : String} :
    map.contains name = true ↔ ∃ value, map.get? name = some value :=
  Option.isSome_iff_exists

theorem contains_iff_mem_names {map : NameMap α} {name : String} :
    map.contains name = true ↔ name ∈ map.entries.map Prod.fst := by
  rw [contains_iff_exists]
  simp [get?_eq_some_iff]

theorem ext_of_get? {first second : NameMap α}
    (same : ∀ name, first.get? name = second.get? name) : first = second := by
  have irreflexive : Std.Irrefl (fun earlier later : String × α => earlier.1 < later.1) :=
    ⟨fun entry => String.lt_irrefl entry.1⟩
  have antisymmetric : Std.Antisymm (fun earlier later : String × α => earlier.1 < later.1) :=
    ⟨fun earlier later before after => absurd after (String.lt_asymm before)⟩
  have entries : first.entries = second.entries :=
    List.Pairwise.eq_of_mem_iff first.ascending second.ascending fun ⟨name, value⟩ => by
      rw [← get?_eq_some_iff, ← get?_eq_some_iff, same]
  cases first
  cases second
  cases entries
  rfl

theorem get?_mapValues {map : NameMap α} {change : α → β} {name : String} :
    (map.mapValues change).get? name = (map.get? name).map change := by
  have general : ∀ entries : List (String × α),
      lookup name (entries.map fun entry => (entry.1, change entry.2)) =
        (lookup name entries).map change := by
    intro entries
    induction entries with
    | nil => rfl
    | cons head rest ih =>
        rw [List.map_cons, lookup, lookup, ih]
        split
        · rfl
        · rfl
  exact general map.entries

theorem size_mapValues {map : NameMap α} {change : α → β} :
    (map.mapValues change).size = map.size :=
  List.length_map _

private theorem names_nodup (map : NameMap α) : (map.entries.map Prod.fst).Nodup := by
  refine List.pairwise_map.mpr (map.ascending.imp ?_)
  intro earlier later before same
  rw [same] at before
  exact String.lt_irrefl later.1 before

/-- As many distinct assigned names as there are entries are all the names. -/
theorem mem_of_size_le {map : NameMap α} {names : List String} (distinct : names.Nodup)
    (assigned : ∀ name ∈ names, map.contains name = true) (enough : map.size ≤ names.length)
    {name : String} (held : map.contains name = true) : name ∈ names := by
  have subset : names ⊆ map.entries.map Prod.fst := fun other member =>
    contains_iff_mem_names.mp (assigned other member)
  have all : names.Perm (map.entries.map Prod.fst) :=
    (List.subperm_of_subset distinct subset).perm_of_length_le (by rw [List.length_map]; exact enough)
  exact all.mem_iff.mpr (contains_iff_mem_names.mp held)

theorem agreesBy_eq_true_iff [DecidableEq α] {first second : NameMap α} :
    first.agreesBy (fun value value' => decide (value = value')) second = true ↔
      first = second := by
  rw [agreesBy, Bool.and_eq_true, beq_iff_eq, List.all_eq_true]
  constructor
  · rintro ⟨sizes, all⟩
    have found : ∀ name value, first.get? name = some value → second.get? name = some value := by
      intro name value held
      have checked := all (name, value) (get?_eq_some_iff.mp held)
      cases answer : second.get? name with
      | none => rw [answer] at checked; cases checked
      | some other =>
          rw [answer] at checked
          have same : value = other := of_decide_eq_true checked
          rw [same]
    -- every name of the first map is a name of the second, and there are equally many
    have names : ∀ name, second.contains name = true → name ∈ first.entries.map Prod.fst :=
      fun name => mem_of_size_le first.names_nodup
        (fun other member => by
          obtain ⟨value, held⟩ := contains_iff_exists.mp (contains_iff_mem_names.mpr member)
          exact contains_iff_exists.mpr ⟨value, found other value held⟩)
        (by rw [List.length_map]; exact Nat.le_of_eq sizes.symm)
    apply ext_of_get?
    intro name
    cases answer : first.get? name with
    | some value => rw [found name value answer]
    | none =>
        cases other : second.get? name with
        | none => rfl
        | some value =>
            have held := names name (contains_iff_exists.mpr ⟨value, other⟩)
            obtain ⟨value', held'⟩ := contains_iff_exists.mp (contains_iff_mem_names.mpr held)
            rw [answer] at held'
            cases held'
  · rintro rfl
    refine ⟨rfl, ?_⟩
    rintro ⟨name, value⟩ member
    rw [get?_eq_some_iff.mpr member]
    exact decide_eq_true rfl

end NameMap
end CoeffectSolver
