import CoeffectSolver.Names.NameSet

/-!
Finite maps from names to values, kept as strictly ascending association lists.

As with sets of names, the strict order makes the representation canonical: a map is determined by
what it answers, and its entries are already in the order in which they are reported.
-/

namespace CoeffectSolver

/-- A finite map keyed by name. -/
structure NameMap (α : Type) where
  /-- The entries, smallest name first. -/
  entries : List (String × α)
  /-- Each name is smaller than the names of the entries after it. -/
  ascending : entries.Pairwise (fun earlier later => earlier.1 < later.1) := by simp

namespace NameMap

variable {α : Type}

/-- The map without entries. -/
def empty : NameMap α := { entries := [] }

instance : EmptyCollection (NameMap α) := ⟨empty⟩

instance : Inhabited (NameMap α) := ⟨empty⟩

instance [DecidableEq α] : DecidableEq (NameMap α) := fun first second =>
  if same : first.entries = second.entries then
    isTrue (by cases first; cases second; cases same; rfl)
  else
    isFalse (fun equal => same (congrArg entries equal))

/-- Looks a name up in an association list. -/
def lookup (name : String) : List (String × α) → Option α
  | [] => none
  | (other, value) :: rest => if other = name then some value else lookup name rest

/-- The value at a name, if there is one. -/
def get? (map : NameMap α) (name : String) : Option α := lookup name map.entries

/-- Whether a name has a value. -/
def contains (map : NameMap α) (name : String) : Bool := (map.get? name).isSome

/-- Sets the value at a name in an ascending association list. -/
def place (name : String) (value : α) : List (String × α) → List (String × α)
  | [] => [(name, value)]
  | (other, held) :: rest =>
      if name < other then (name, value) :: (other, held) :: rest
      else if other < name then (other, held) :: place name value rest
      else (name, value) :: rest

theorem fst_of_mem_place {name : String} {value : α} {entries : List (String × α)}
    {entry : String × α} (placed : entry ∈ place name value entries) :
    entry.1 = name ∨ entry ∈ entries := by
  induction entries with
  | nil => simp [place] at placed; exact .inl (by rw [placed])
  | cons head rest ih =>
      obtain ⟨other, held⟩ := head
      unfold place at placed
      split at placed
      · rcases List.mem_cons.mp placed with same | inRest
        · exact .inl (by rw [same])
        · exact .inr inRest
      · split at placed
        · rcases List.mem_cons.mp placed with same | inRest
          · exact .inr (by rw [same]; exact List.mem_cons_self)
          · rcases ih inRest with same | found
            · exact .inl same
            · exact .inr (List.mem_cons_of_mem _ found)
        · rcases List.mem_cons.mp placed with same | inRest
          · exact .inl (by rw [same])
          · exact .inr (List.mem_cons_of_mem _ inRest)

theorem pairwise_place {name : String} {value : α} {entries : List (String × α)}
    (ascending : entries.Pairwise (fun earlier later => earlier.1 < later.1)) :
    (place name value entries).Pairwise (fun earlier later => earlier.1 < later.1) := by
  induction entries with
  | nil => simp [place]
  | cons head rest ih =>
      obtain ⟨other, held⟩ := head
      obtain ⟨headBelow, restAscending⟩ := List.pairwise_cons.mp ascending
      unfold place
      split
      · rename_i before
        refine List.pairwise_cons.mpr ⟨?_, ascending⟩
        intro entry inList
        rcases List.mem_cons.mp inList with same | inRest
        · exact same ▸ before
        · exact String.lt_trans before (headBelow entry inRest)
      · rename_i notBefore
        split
        · rename_i after
          refine List.pairwise_cons.mpr ⟨?_, ih restAscending⟩
          intro entry placed
          rcases fst_of_mem_place placed with same | inRest
          · exact same ▸ after
          · exact headBelow entry inRest
        · rename_i notAfter
          have same : name = other := name_eq_of_not_lt notBefore notAfter
          subst same
          exact List.pairwise_cons.mpr ⟨headBelow, restAscending⟩

/-- Sets the value at a name, replacing the one that was there. -/
def insert (map : NameMap α) (name : String) (value : α) : NameMap α where
  entries := place name value map.entries
  ascending := pairwise_place map.ascending

/-- The number of entries. -/
def size (map : NameMap α) : Nat := map.entries.length

/-- The map of a list of entries, in which a later entry replaces an earlier one. -/
def ofList (entries : List (String × α)) : NameMap α :=
  entries.foldl (fun map entry => map.insert entry.1 entry.2) empty

/-- Applies a function to every value. -/
def mapValues {β : Type} (map : NameMap α) (change : α → β) : NameMap β where
  entries := map.entries.map (fun entry => (entry.1, change entry.2))
  ascending := List.pairwise_map.mpr map.ascending

/-- Whether two maps have the same names, with values that pass a comparison. -/
def agreesBy (same : α → α → Bool) (first second : NameMap α) : Bool :=
  first.size == second.size &&
    first.entries.all fun entry =>
      match second.get? entry.1 with
      | some other => same entry.2 other
      | none => false

theorem lookup_place {name other : String} {value : α} {entries : List (String × α)} :
    lookup other (place name value entries) =
      if other = name then some value else lookup other entries := by
  induction entries with
  | nil => simp [place, lookup, eq_comm]
  | cons head rest ih =>
      obtain ⟨key, held⟩ := head
      unfold place
      split
      · simp [lookup, eq_comm]
      · rename_i notBefore
        split
        · rename_i after
          simp only [lookup, ih]
          by_cases atKey : key = other
          · subst atKey
            have different : key ≠ name := fun same => String.lt_irrefl key (same ▸ after)
            simp [different]
          · simp [atKey]
        · rename_i notAfter
          have same : name = key := name_eq_of_not_lt notBefore notAfter
          subst same
          by_cases atName : name = other
          · simp [lookup, atName]
          · simp [lookup, atName, Ne.symm atName]

/-- Insertion changes the answer at one name only. -/
theorem get?_insert {map : NameMap α} {name other : String} {value : α} :
    (map.insert name value).get? other = if other = name then some value else map.get? other :=
  lookup_place

@[simp] theorem get?_empty {name : String} : (empty : NameMap α).get? name = none := rfl

@[simp] theorem contains_empty {name : String} : (empty : NameMap α).contains name = false := rfl

end NameMap
end CoeffectSolver
