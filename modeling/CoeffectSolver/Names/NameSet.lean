/-!
Finite sets of names, kept as strictly ascending lists.

Names are compared code point by code point. Because the order is strict, a set of names has exactly
one representation, so equality of sets is equality of values and a listing is already sorted.
-/

namespace CoeffectSolver

/-- A finite set of names, listed in strictly ascending order. -/
structure NameSet where
  /-- The members, smallest first. -/
  names : List String
  /-- No member is repeated and each one is smaller than those after it. -/
  ascending : names.Pairwise (fun earlier later => earlier < later) := by simp
  deriving DecidableEq

/-- Two names that are ordered in neither direction are the same name. -/
theorem name_eq_of_not_lt {first second : String} (notBefore : ¬ first < second)
    (notAfter : ¬ second < first) : first = second :=
  String.le_antisymm (String.not_lt.mp notAfter) (String.not_lt.mp notBefore)

namespace NameSet

/-- Puts a name at its place in an ascending list, unless it is there already. -/
def place (name : String) : List String → List String
  | [] => [name]
  | head :: rest =>
      if name < head then name :: head :: rest
      else if head < name then head :: place name rest
      else head :: rest

theorem mem_place {name member : String} {names : List String} :
    member ∈ place name names ↔ member = name ∨ member ∈ names := by
  induction names with
  | nil => simp [place]
  | cons head rest ih =>
      unfold place
      split
      · simp
      · rename_i notBefore
        split
        · simp only [List.mem_cons, ih]
          constructor
          · rintro (same | same | inRest)
            · exact .inr (.inl same)
            · exact .inl same
            · exact .inr (.inr inRest)
          · rintro (same | same | inRest)
            · exact .inr (.inl same)
            · exact .inl same
            · exact .inr (.inr inRest)
        · rename_i notAfter
          have same : name = head := name_eq_of_not_lt notBefore notAfter
          subst same
          simp

theorem pairwise_place {name : String} {names : List String}
    (ascending : names.Pairwise (fun earlier later => earlier < later)) :
    (place name names).Pairwise (fun earlier later => earlier < later) := by
  induction names with
  | nil => simp [place]
  | cons head rest ih =>
      obtain ⟨headBelow, restAscending⟩ := List.pairwise_cons.mp ascending
      unfold place
      split
      · rename_i before
        refine List.pairwise_cons.mpr ⟨?_, ascending⟩
        intro member inList
        rcases List.mem_cons.mp inList with same | inRest
        · exact same ▸ before
        · exact String.lt_trans before (headBelow member inRest)
      · split
        · rename_i after
          refine List.pairwise_cons.mpr ⟨?_, ih restAscending⟩
          intro member inPlaced
          rcases mem_place.mp inPlaced with same | inRest
          · exact same ▸ after
          · exact headBelow member inRest
        · exact ascending

/-- The set without members. -/
def empty : NameSet := { names := [] }

instance : EmptyCollection NameSet := ⟨empty⟩

instance : Inhabited NameSet := ⟨empty⟩

/-- Adds a name. -/
def insert (members : NameSet) (name : String) : NameSet where
  names := place name members.names
  ascending := pairwise_place members.ascending

/-- The set with one member. -/
def singleton (name : String) : NameSet := { names := [name] }

/-- Whether a name is a member. -/
def contains (members : NameSet) (name : String) : Bool :=
  members.names.contains name

/-- Keeps the members that pass a test. -/
def filter (members : NameSet) (keep : String → Bool) : NameSet where
  names := members.names.filter keep
  ascending := members.ascending.filter keep

/-- Removes a name. -/
def erase (members : NameSet) (name : String) : NameSet :=
  members.filter (fun member => member != name)

/-- The members of either set. -/
def union (first second : NameSet) : NameSet :=
  second.names.foldl insert first

/-- The members of the first set that are not members of the second. -/
def difference (first second : NameSet) : NameSet :=
  first.filter (fun member => !second.contains member)

/-- Whether some name is a member of both sets. -/
def overlaps (first second : NameSet) : Bool :=
  first.names.any second.contains

/-- The number of members. -/
def size (members : NameSet) : Nat := members.names.length

/-- The set of the names of a list. -/
def ofList (names : List String) : NameSet := names.foldl insert empty

instance : Membership String NameSet := ⟨fun members name => name ∈ members.names⟩

theorem mem_def {members : NameSet} {name : String} : name ∈ members ↔ name ∈ members.names :=
  Iff.rfl

instance (name : String) (members : NameSet) : Decidable (name ∈ members) :=
  inferInstanceAs (Decidable (name ∈ members.names))

theorem contains_iff {members : NameSet} {name : String} :
    members.contains name = true ↔ name ∈ members := by
  simp [contains, mem_def]

theorem mem_insert {members : NameSet} {name member : String} :
    member ∈ members.insert name ↔ member = name ∨ member ∈ members :=
  mem_place

theorem not_mem_empty {name : String} : ¬ name ∈ empty := by
  simp [mem_def, empty]

theorem mem_singleton {name member : String} : member ∈ singleton name ↔ member = name := by
  simp [mem_def, singleton]

theorem mem_filter {members : NameSet} {keep : String → Bool} {member : String} :
    member ∈ members.filter keep ↔ member ∈ members ∧ keep member = true := by
  simp [mem_def, filter]

theorem mem_erase {members : NameSet} {name member : String} :
    member ∈ members.erase name ↔ member ∈ members ∧ member ≠ name := by
  simp [erase, mem_filter]

theorem mem_foldl_insert {names : List String} {members : NameSet} {member : String} :
    member ∈ names.foldl insert members ↔ member ∈ members ∨ member ∈ names := by
  induction names generalizing members with
  | nil => simp
  | cons head rest ih =>
      rw [List.foldl_cons, ih, mem_insert, List.mem_cons]
      constructor
      · rintro ((same | inMembers) | inRest)
        · exact .inr (.inl same)
        · exact .inl inMembers
        · exact .inr (.inr inRest)
      · rintro (inMembers | same | inRest)
        · exact .inl (.inr inMembers)
        · exact .inl (.inl same)
        · exact .inr inRest

theorem mem_union {first second : NameSet} {member : String} :
    member ∈ first.union second ↔ member ∈ first ∨ member ∈ second :=
  mem_foldl_insert

theorem mem_difference {first second : NameSet} {member : String} :
    member ∈ first.difference second ↔ member ∈ first ∧ ¬ member ∈ second := by
  rw [difference, mem_filter]
  simp [← contains_iff]

theorem mem_ofList {names : List String} {member : String} :
    member ∈ ofList names ↔ member ∈ names := by
  rw [ofList, mem_foldl_insert]
  simp [not_mem_empty]

theorem overlaps_iff {first second : NameSet} :
    first.overlaps second = true ↔ ∃ member, member ∈ first ∧ member ∈ second := by
  simp only [overlaps, List.any_eq_true, contains_iff]
  exact Iff.rfl

end NameSet
end CoeffectSolver
