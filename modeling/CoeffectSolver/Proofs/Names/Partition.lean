import CoeffectSolver.Names.Partition
import CoeffectSolver.Proofs.Iteration
import CoeffectSolver.Proofs.Names.NameMap
import Mathlib.Logic.Relation

/-! Partitions of names: merging ends with disjoint classes that keep the names of every pair
together, so that a partition determines which names are written together. Two names are in one
class exactly when a chain of pairs connects them. -/

namespace CoeffectSolver.Partition

/-- No two classes share a member. -/
def Disjoint (classes : List NameSet) : Prop :=
  classes.Pairwise (fun first second => first.overlaps second = false)

/-- A list of classes and the one in which two overlapping classes are merged. -/
inductive Merges : List NameSet → List NameSet → Prop
  | intro (before middle after : List NameSet) {first second : NameSet}
      (overlapping : first.overlaps second = true) :
      Merges (before ++ first :: (middle ++ second :: after))
        (before ++ first.union second :: (middle ++ after))

private theorem mergeInto_eq_none {first : NameSet} {classes : List NameSet}
    (failed : mergeInto first classes = none) :
    ∀ members ∈ classes, first.overlaps members = false := by
  induction classes with
  | nil => intro members member; cases member
  | cons next rest ih =>
      unfold mergeInto at failed
      split at failed
      · cases failed
      · rename_i apart
        intro members member
        rcases List.mem_cons.mp member with same | later
        · rw [same]
          exact Bool.eq_false_iff.mpr apart
        · exact ih (Option.map_eq_none_iff.mp failed) members later

private theorem mergeInto_eq_some {first merged : NameSet} {classes others : List NameSet}
    (found : mergeInto first classes = some (others, merged)) :
    ∃ middle second after, first.overlaps second = true ∧
      classes = middle ++ second :: after ∧ others = middle ++ after ∧
      merged = first.union second := by
  induction classes generalizing others with
  | nil => cases found
  | cons next rest ih =>
      unfold mergeInto at found
      split at found
      · rename_i overlapping
        cases found
        exact ⟨[], next, rest, overlapping, rfl, rfl, rfl⟩
      · obtain ⟨⟨others', merged'⟩, foundLater, same⟩ := Option.map_eq_some_iff.mp found
        cases same
        obtain ⟨middle, second, after, overlapping, split, kept, union⟩ := ih foundLater
        refine ⟨next :: middle, second, after, overlapping, ?_, ?_, union⟩
        · rw [split, List.cons_append]
        · rw [List.cons_append, ← kept]

theorem mergeFirstOverlap_cases (classes : List NameSet) :
    Disjoint classes ∧ mergeFirstOverlap classes = classes ∨
      Merges classes (mergeFirstOverlap classes) := by
  induction classes with
  | nil => exact .inl ⟨List.Pairwise.nil, rfl⟩
  | cons first rest ih =>
      unfold mergeFirstOverlap
      cases attempt : mergeInto first rest with
      | some result =>
          obtain ⟨middle, second, after, overlapping, split, kept, union⟩ :=
            mergeInto_eq_some attempt
          dsimp only
          rw [split, kept, union]
          exact .inr (.intro [] middle after overlapping)
      | none =>
          dsimp only
          rcases ih with ⟨disjoint, unchanged⟩ | merges
          · rw [unchanged]
            exact .inl ⟨List.pairwise_cons.mpr ⟨mergeInto_eq_none attempt, disjoint⟩, rfl⟩
          · generalize mergeFirstOverlap rest = result at merges ⊢
            cases merges with
            | intro before middle after overlapping =>
                exact .inr (.intro (first :: before) middle after overlapping)

theorem Merges.length_eq {classes merged : List NameSet} (merges : Merges classes merged) :
    merged.length + 1 = classes.length := by
  cases merges with
  | intro before middle after overlapping =>
      simp only [List.length_append, List.length_cons]
      omega

/-- Merging keeps the members of every class together. -/
theorem Merges.exists_superset {classes merged : List NameSet} (merges : Merges classes merged)
    {members : NameSet} (held : members ∈ classes) :
    ∃ larger ∈ merged, ∀ name ∈ members, name ∈ larger := by
  cases merges with
  | @intro before middle after first second overlapping =>
      have joined : first.union second ∈ before ++ first.union second :: (middle ++ after) :=
        List.mem_append_right _ List.mem_cons_self
      rw [List.mem_append, List.mem_cons, List.mem_append, List.mem_cons] at held
      rcases held with inBefore | isFirst | inMiddle | isSecond | inAfter
      · exact ⟨members, List.mem_append_left _ inBefore, fun _ member => member⟩
      · exact ⟨_, joined, fun name member => NameSet.mem_union.mpr (.inl (isFirst ▸ member))⟩
      · exact ⟨members, List.mem_append_right _ (List.mem_cons_of_mem _
          (List.mem_append_left _ inMiddle)), fun _ member => member⟩
      · exact ⟨_, joined, fun name member => NameSet.mem_union.mpr (.inr (isSecond ▸ member))⟩
      · exact ⟨members, List.mem_append_right _ (List.mem_cons_of_mem _
          (List.mem_append_right _ inAfter)), fun _ member => member⟩

/-- The bound on the number of merges is always enough. -/
theorem closure_settled (pairs : List (String × String)) : (closure pairs).halt = .settled := by
  refine Iteration.settled_of_measure List.length (fun classes => ?_) ?_
  · refine ⟨mergeFirstOverlap classes, rfl, ?_⟩
    rcases mergeFirstOverlap_cases classes with ⟨_, unchanged⟩ | merges
    · exact .inl (decide_eq_true unchanged.symm)
    · have shorter := merges.length_eq
      exact .inr (by omega)
  · rw [List.length_map]
    exact Nat.lt_succ_self _

theorem disjoint_ofPairs (pairs : List (String × String)) : Disjoint (ofPairs pairs).classes := by
  obtain ⟨previous, advanced, agreed⟩ := Iteration.exists_agreeing_of_settled (closure_settled pairs)
  have merged : mergeFirstOverlap previous = (ofPairs pairs).classes := Except.ok.inj advanced
  have same : previous = (ofPairs pairs).classes := of_decide_eq_true agreed
  rw [same] at merged
  rcases mergeFirstOverlap_cases (ofPairs pairs).classes with ⟨disjoint, _⟩ | merges
  · exact disjoint
  · rw [merged] at merges
    have shorter := merges.length_eq
    omega

/-- What holds of the pairs as classes, and is kept when two classes are merged, holds of the classes
in the end. -/
theorem classes_invariant {motive : List NameSet → Prop} {pairs : List (String × String)}
    (kept : ∀ classes merged, Merges classes merged → motive classes → motive merged)
    (begins : motive (pairs.map fun pair => NameSet.ofList [pair.1, pair.2])) :
    motive (ofPairs pairs).classes := by
  refine Iteration.run_invariant (motive := motive) ?_ begins
  intro classes next holds advanced
  have merged : mergeFirstOverlap classes = next := Except.ok.inj advanced
  rw [← merged]
  rcases mergeFirstOverlap_cases classes with ⟨_, unchanged⟩ | merges
  · rw [unchanged]
    exact holds
  · exact kept classes _ merges holds

/-- The two names of a pair are in one class. -/
theorem exists_class_of_mem {pairs : List (String × String)} {pair : String × String}
    (given : pair ∈ pairs) :
    ∃ members ∈ (ofPairs pairs).classes, pair.1 ∈ members ∧ pair.2 ∈ members := by
  refine classes_invariant (motive := fun classes =>
    ∃ members ∈ classes, pair.1 ∈ members ∧ pair.2 ∈ members) ?_ ?_
  · rintro classes merged merges ⟨members, held, first, second⟩
    obtain ⟨larger, kept, superset⟩ := merges.exists_superset held
    exact ⟨larger, kept, superset _ first, superset _ second⟩
  · refine ⟨NameSet.ofList [pair.1, pair.2], List.mem_map_of_mem given, ?_, ?_⟩
    · exact NameSet.mem_ofList.mpr List.mem_cons_self
    · exact NameSet.mem_ofList.mpr (List.mem_cons_of_mem _ List.mem_cons_self)

section Classes

variable {partition : Partition}

theorem mem_classOf_self (partition : Partition) (name : String) : name ∈ partition.classOf name := by
  unfold classOf
  cases found : partition.classes.find? (fun members => members.contains name) with
  | none => exact NameSet.mem_singleton.mpr rfl
  | some members =>
      have contained := List.find?_some found
      exact NameSet.contains_iff.mp contained

private theorem eq_of_mem_of_mem {classes : List NameSet} (disjoint : Disjoint classes)
    {first second : NameSet} {name : String} (held : first ∈ classes) (held' : second ∈ classes)
    (member : name ∈ first) (member' : name ∈ second) : first = second := by
  have overlapping {members members' : NameSet} (inside : name ∈ members)
      (inside' : name ∈ members') (apart : members.overlaps members' = false) : False := by
    rw [NameSet.overlaps_iff.mpr ⟨name, inside, inside'⟩] at apart
    cases apart
  induction classes with
  | nil => cases held
  | cons head rest ih =>
      obtain ⟨headApart, restDisjoint⟩ := List.pairwise_cons.mp disjoint
      rcases List.mem_cons.mp held with atHead | inRest
      · rcases List.mem_cons.mp held' with atHead' | inRest'
        · rw [atHead, atHead']
        · exact absurd (headApart second inRest') (overlapping (atHead ▸ member) member')
      · rcases List.mem_cons.mp held' with atHead' | inRest'
        · exact absurd (headApart first inRest) (overlapping (atHead' ▸ member') member)
        · exact ih restDisjoint inRest inRest'

theorem classOf_eq_of_mem (disjoint : Disjoint partition.classes) {members : NameSet}
    {name : String} (held : members ∈ partition.classes) (member : name ∈ members) :
    partition.classOf name = members := by
  unfold classOf
  cases found : partition.classes.find? (fun members => members.contains name) with
  | none =>
      have missing := List.find?_eq_none.mp found members held
      exact absurd (NameSet.contains_iff.mpr member) missing
  | some other =>
      have contained := List.find?_some found
      exact eq_of_mem_of_mem disjoint (List.mem_of_find?_eq_some found) held
        (NameSet.contains_iff.mp contained) member

/-- Names in one class have the same class. -/
theorem classOf_eq_of_mem_classOf (disjoint : Disjoint partition.classes) {name other : String}
    (member : other ∈ partition.classOf name) :
    partition.classOf other = partition.classOf name := by
  cases found : partition.classes.find? (fun members => members.contains name) with
  | none =>
      have alone : partition.classOf name = NameSet.singleton name := by
        rw [classOf, found, Option.getD_none]
      rw [alone] at member
      rw [NameSet.mem_singleton.mp member]
  | some members =>
      have same : partition.classOf name = members := by rw [classOf, found, Option.getD_some]
      rw [same] at member ⊢
      exact classOf_eq_of_mem disjoint (List.mem_of_find?_eq_some found) member

theorem mem_classOf_iff (disjoint : Disjoint partition.classes) {name other : String} :
    other ∈ partition.classOf name ↔ partition.classOf other = partition.classOf name := by
  constructor
  · exact classOf_eq_of_mem_classOf disjoint
  · intro same
    rw [← same]
    exact mem_classOf_self partition other

theorem classOf_eq_of_pair {pairs : List (String × String)} {first second : String}
    (given : (first, second) ∈ pairs) :
    (ofPairs pairs).classOf first = (ofPairs pairs).classOf second := by
  obtain ⟨members, held, inFirst, inSecond⟩ := exists_class_of_mem given
  rw [classOf_eq_of_mem (disjoint_ofPairs pairs) held inFirst,
    classOf_eq_of_mem (disjoint_ofPairs pairs) held inSecond]

end Classes

section Chains

variable {pairs : List (String × String)}

/-- Merging two overlapping classes puts only related names together. -/
private theorem Merges.related {related : String → String → Prop} (equivalent : Equivalence related)
    {classes merged : List NameSet} (merges : Merges classes merged)
    (each : ∀ members ∈ classes, ∀ name ∈ members, ∀ other ∈ members, related name other) :
    ∀ members ∈ merged, ∀ name ∈ members, ∀ other ∈ members, related name other := by
  cases merges with
  | @intro before middle after first second overlapping =>
      simp only [List.forall_mem_append, List.forall_mem_cons] at each ⊢
      obtain ⟨inBefore, inFirst, inMiddle, inSecond, inAfter⟩ := each
      obtain ⟨shared, held, held'⟩ := NameSet.overlaps_iff.mp overlapping
      refine ⟨inBefore, fun name member other member' => ?_, inMiddle, inAfter⟩
      have toShared (name : String) (member : name ∈ first.union second) : related name shared :=
        (NameSet.mem_union.mp member).elim (fun inside => inFirst name inside shared held)
          (fun inside => inSecond name inside shared held')
      exact equivalent.trans (toShared name member) (equivalent.symm (toShared other member'))

/-- An equivalence that holds of every pair holds of any two names of one class. -/
theorem related_of_classOf_eq {related : String → String → Prop} (equivalent : Equivalence related)
    (given : ∀ pair ∈ pairs, related pair.1 pair.2) {first second : String}
    (same : (ofPairs pairs).classOf first = (ofPairs pairs).classOf second) :
    related first second := by
  have each : ∀ members ∈ (ofPairs pairs).classes, ∀ name ∈ members, ∀ other ∈ members,
      related name other := by
    refine classes_invariant (motive := fun classes => ∀ members ∈ classes, ∀ name ∈ members,
      ∀ other ∈ members, related name other) ?_ ?_
    · intro classes merged merges holds
      exact merges.related equivalent holds
    · intro members held name member other member'
      obtain ⟨pair, listed, rfl⟩ := List.mem_map.mp held
      have sides := given pair listed
      simp only [NameSet.mem_ofList, List.mem_cons, List.not_mem_nil, or_false] at member member'
      rcases member with rfl | rfl <;> rcases member' with rfl | rfl
      · exact equivalent.refl _
      · exact sides
      · exact equivalent.symm sides
      · exact equivalent.refl _
  have member : first ∈ (ofPairs pairs).classOf second := by
    rw [← same]
    exact mem_classOf_self _ first
  unfold classOf at member
  cases found : (ofPairs pairs).classes.find? (fun members => members.contains second) with
  | none =>
      rw [found, Option.getD_none, NameSet.mem_singleton] at member
      rw [member]
      exact equivalent.refl second
  | some members =>
      rw [found, Option.getD_some] at member
      have contained := List.find?_some found
      exact each members (List.mem_of_find?_eq_some found) first member second
        (NameSet.contains_iff.mp contained)

theorem value_eq_of_classOf_eq {β : Type} {value : String → β}
    (given : ∀ pair ∈ pairs, value pair.1 = value pair.2) {first second : String}
    (same : (ofPairs pairs).classOf first = (ofPairs pairs).classOf second) :
    value first = value second := by
  have equivalent : Equivalence fun first second => value first = value second :=
    ⟨fun _ => rfl, Eq.symm, Eq.trans⟩
  exact related_of_classOf_eq equivalent given same

theorem classOf_eq_iff_eqvGen {related : String → String → Prop}
    (joined : ∀ pair ∈ pairs, related pair.1 pair.2)
    (together : ∀ name other, related name other →
      (ofPairs pairs).classOf name = (ofPairs pairs).classOf other) {first second : String} :
    (ofPairs pairs).classOf first = (ofPairs pairs).classOf second ↔
      Relation.EqvGen related first second := by
  constructor
  · apply related_of_classOf_eq (Relation.EqvGen.is_equivalence _)
    intro pair listed
    exact .rel pair.1 pair.2 (joined pair listed)
  · intro chain
    induction chain with
    | rel name other edge => exact together name other edge
    | refl name => rfl
    | symm name other _ ih => exact ih.symm
    | trans name middle other _ _ early late => exact early.trans late

/-- Two names are in one class exactly when a chain of pairs connects them. -/
theorem classOf_eq_iff_chain {first second : String} :
    (ofPairs pairs).classOf first = (ofPairs pairs).classOf second ↔
      Relation.EqvGen (fun name other => (name, other) ∈ pairs) first second :=
  classOf_eq_iff_eqvGen (fun _ listed => listed) (fun _ _ listed => classOf_eq_of_pair listed)

end Chains

section Assigning

variable {α : Type} {partition : Partition}

private theorem get?_foldl_insert {names : List String} {value : α} {map : NameMap α}
    {other : String} :
    (names.foldl (fun map member => map.insert member value) map).get? other =
      if other ∈ names then some value else map.get? other := by
  induction names generalizing map with
  | nil => simp
  | cons name rest ih =>
      rw [List.foldl_cons, ih, NameMap.get?_insert]
      by_cases inRest : other ∈ rest
      · simp [inRest]
      · simp [inRest]

/-- A value is written to the names of one class and to no other name. -/
theorem get?_assign (disjoint : Disjoint partition.classes) {name other : String} {value : α}
    {map : NameMap α} :
    (partition.assign name value map).get? other =
      if partition.classOf other = partition.classOf name then some value
      else map.get? other := by
  rw [assign, get?_foldl_insert]
  exact if_congr (mem_classOf_iff disjoint) rfl rfl

/-- A map that does not tell the names of a class apart. -/
def Respects (partition : Partition) (map : NameMap α) : Prop :=
  ∀ first second, partition.classOf first = partition.classOf second →
    map.get? first = map.get? second

theorem respects_empty (partition : Partition) : partition.Respects (NameMap.empty : NameMap α) :=
  fun _ _ _ => rfl

theorem respects_assign (disjoint : Disjoint partition.classes) {name : String} {value : α}
    {map : NameMap α} (respects : partition.Respects map) :
    partition.Respects (partition.assign name value map) := by
  intro first second same
  rw [get?_assign disjoint, get?_assign disjoint, same, respects first second same]

end Assigning

end CoeffectSolver.Partition
