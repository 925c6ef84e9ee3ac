import CoeffectSolver.Proofs.Names.Partition

/-! The classes that a list of pairs generates are the classes of the names that chains of pairs
connect: a chain leads from a name to a name by pairs that may be read in either direction. Which
classes there are therefore does not depend on the order and the direction of the pairs. -/

namespace CoeffectSolver.Partition

open Relation (TransGen ReflTransGen SymmGen)

variable {pairs : List (String × String)} {name first second : String} {members : NameSet}

/-- Two names that stand in one pair, in either order. -/
def Joined (pairs : List (String × String)) : String → String → Prop :=
  SymmGen fun first second => (first, second) ∈ pairs

theorem joined_iff :
    Joined pairs first second ↔ (first, second) ∈ pairs ∨ (second, first) ∈ pairs :=
  Iff.rfl

instance (pairs : List (String × String)) (first second : String) :
    Decidable (Joined pairs first second) :=
  decidable_of_iff _ joined_iff.symm

private theorem exists_joined_iff :
    (∃ other, Joined pairs name other) ↔ ∃ pair ∈ pairs, name = pair.1 ∨ name = pair.2 := by
  constructor
  · rintro ⟨other, listed | listed⟩
    · exact ⟨(name, other), listed, .inl rfl⟩
    · exact ⟨(other, name), listed, .inr rfl⟩
  · rintro ⟨pair, listed, rfl | rfl⟩
    · exact ⟨pair.2, .of_rel listed⟩
    · exact ⟨pair.1, .of_rel_symm listed⟩

/-- A class that has a member, and only members with a property. -/
def Populated (property : String → Prop) (members : NameSet) : Prop :=
  (∃ name, name ∈ members) ∧ ∀ name ∈ members, property name

private theorem Merges.populated {property : String → Prop} {classes merged : List NameSet}
    (merges : Merges classes merged) (each : ∀ members ∈ classes, Populated property members) :
    ∀ members ∈ merged, Populated property members := by
  cases merges with
  | @intro before middle after one another overlapping =>
      simp only [List.forall_mem_append, List.forall_mem_cons] at each ⊢
      obtain ⟨inBefore, inOne, inMiddle, inAnother, inAfter⟩ := each
      refine ⟨inBefore, ⟨?_, fun name member => ?_⟩, inMiddle, inAfter⟩
      · obtain ⟨name, member⟩ := inOne.1
        exact ⟨name, NameSet.mem_union.mpr (.inl member)⟩
      · rcases NameSet.mem_union.mp member with inside | inside
        · exact inOne.2 name inside
        · exact inAnother.2 name inside

theorem populated_ofPairs :
    ∀ members ∈ (ofPairs pairs).classes, Populated (fun name => ∃ other, Joined pairs name other)
      members := by
  refine classes_invariant (motive := fun classes => ∀ members ∈ classes, Populated _ members)
    (fun _ _ merges each => merges.populated each) ?_
  intro members held
  obtain ⟨pair, listed, rfl⟩ := List.mem_map.mp held
  constructor
  · exact ⟨pair.1, NameSet.mem_ofList.mpr List.mem_cons_self⟩
  · intro name member
    rw [NameSet.mem_ofList, List.mem_pair] at member
    exact exists_joined_iff.mpr ⟨pair, listed, member⟩

theorem classOf_eq_iff_joined :
    (ofPairs pairs).classOf first = (ofPairs pairs).classOf second ↔
      ReflTransGen (Joined pairs) first second := by
  rw [classOf_eq_iff_chain, Joined, Relation.EqvGen.reflTransGen_symmGen]

/-- A name is in a class if it is in a pair, that is if a chain leads away from it and back. -/
theorem exists_class_iff_chain :
    (∃ members ∈ (ofPairs pairs).classes, first ∈ members ∧ second ∈ members) ↔
      TransGen (Joined pairs) first second := by
  constructor
  · rintro ⟨members, held, inFirst, inSecond⟩
    obtain ⟨other, joined⟩ := (populated_ofPairs members held).2 first inFirst
    have connected : ReflTransGen (Joined pairs) first second := by
      rw [← classOf_eq_iff_joined, classOf_eq_of_mem (disjoint_ofPairs pairs) held inFirst,
        classOf_eq_of_mem (disjoint_ofPairs pairs) held inSecond]
    -- The step to the other name of a pair and back makes the chain a proper one.
    exact (TransGen.tail (.single joined) joined.symm).trans_left connected
  · intro chain
    obtain ⟨other, joined, _⟩ := TransGen.head'_iff.mp chain
    obtain ⟨pair, listed, side⟩ := exists_joined_iff.mp ⟨other, joined⟩
    obtain ⟨members, held, inFirst, inSecond⟩ := exists_class_of_mem listed
    have member : first ∈ members := by
      rcases side with same | same
      · exact same ▸ inFirst
      · exact same ▸ inSecond
    have whole : members = (ofPairs pairs).classOf second := by
      rw [← classOf_eq_of_mem (disjoint_ofPairs pairs) held member, classOf_eq_iff_joined]
      exact chain.to_reflTransGen
    exact ⟨members, held, member, whole ▸ mem_classOf_self _ second⟩

theorem mem_class_iff_chain (held : members ∈ (ofPairs pairs).classes) (member : first ∈ members) :
    second ∈ members ↔ TransGen (Joined pairs) first second := by
  rw [← exists_class_iff_chain]
  constructor
  · intro member'
    exact ⟨members, held, member, member'⟩
  · rintro ⟨members', held', inFirst, inSecond⟩
    rw [← classOf_eq_of_mem (disjoint_ofPairs pairs) held member,
      classOf_eq_of_mem (disjoint_ofPairs pairs) held' inFirst]
    exact inSecond

theorem exists_class_iff_mentioned :
    (∃ members ∈ (ofPairs pairs).classes, name ∈ members) ↔
      ∃ pair ∈ pairs, name = pair.1 ∨ name = pair.2 := by
  rw [← exists_joined_iff]
  constructor
  · rintro ⟨members, held, member⟩
    exact (populated_ofPairs members held).2 name member
  · rintro ⟨other, joined⟩
    obtain ⟨members, held, member, _⟩ := exists_class_iff_chain.mpr (.single joined)
    exact ⟨members, held, member⟩

theorem names_classOf_eq (alone : ¬ ∃ pair ∈ pairs, name = pair.1 ∨ name = pair.2) :
    ((ofPairs pairs).classOf name).names = [name] := by
  unfold classOf
  have none : (ofPairs pairs).classes.find? (fun members => members.contains name) = none := by
    apply List.find?_eq_none.mpr
    intro members held contained
    exact alone (exists_class_iff_mentioned.mp ⟨members, held, NameSet.contains_iff.mp contained⟩)
  rw [none]
  rfl

theorem disjoint_iff {classes : List NameSet} :
    Disjoint classes ↔ classes.Pairwise fun members members' => ∀ name ∈ members, name ∉ members' := by
  unfold Disjoint
  simp only [Bool.eq_false_iff, ne_eq, NameSet.overlaps_iff, not_exists, not_and]

private theorem nodup_classes : (ofPairs pairs).classes.Nodup := by
  apply (disjoint_iff.mp (disjoint_ofPairs pairs)).imp_of_mem
  intro members members' held _ apart same
  obtain ⟨⟨name, member⟩, _⟩ := populated_ofPairs members held
  exact apart name member (same ▸ member)

section Reordering

variable {others : List (String × String)}

private theorem mem_classes_of_joined (same : Joined others = Joined pairs)
    (held : members ∈ (ofPairs pairs).classes) : members ∈ (ofPairs others).classes := by
  obtain ⟨⟨name, member⟩, _⟩ := populated_ofPairs members held
  have around := (mem_class_iff_chain held member).mp member
  rw [← same] at around
  obtain ⟨members', held', member', _⟩ := exists_class_iff_chain.mpr around
  have equal : members = members' := by
    apply NameSet.ext_of_mem
    intro other
    rw [mem_class_iff_chain held member, mem_class_iff_chain held' member', same]
  rw [equal]
  exact held'

theorem classes_perm_of_joined (same : Joined others = Joined pairs) :
    (ofPairs others).classes.Perm (ofPairs pairs).classes := by
  apply (List.perm_ext_iff_of_nodup nodup_classes nodup_classes).mpr
  intro members
  constructor
  · exact mem_classes_of_joined same.symm
  · exact mem_classes_of_joined same

theorem classOf_eq_of_joined (same : Joined others = Joined pairs) (name : String) :
    (ofPairs others).classOf name = (ofPairs pairs).classOf name := by
  apply NameSet.ext_of_mem
  intro other
  rw [mem_classOf_iff (disjoint_ofPairs others), mem_classOf_iff (disjoint_ofPairs pairs),
    classOf_eq_iff_joined, classOf_eq_iff_joined, same]

end Reordering

/-- Merging settles within its bound and ends with the equivalence classes of the names in the
pairs: they are not empty, ascending and disjoint, hold exactly the names in the pairs, and two names
together exactly if a chain of pairs connects them. The class of a name is the one that holds it, or
the name alone. Neither the order nor the direction of the pairs matters. -/
theorem ofPairs_is_equivalence_closure (pairs : List (String × String)) :
    ((closure pairs).halt = .settled ∧ (closure pairs).applications ≤ pairs.length + 1) ∧
    (∀ members ∈ (ofPairs pairs).classes, members.names ≠ [] ∧
      members.names.Pairwise (fun earlier later => earlier < later)) ∧
    ((ofPairs pairs).classes.Pairwise fun members members' => ∀ name ∈ members, name ∉ members') ∧
    (∀ name, (∃ members ∈ (ofPairs pairs).classes, name ∈ members) ↔
      ∃ pair ∈ pairs, name = pair.1 ∨ name = pair.2) ∧
    (∀ first second, (∃ members ∈ (ofPairs pairs).classes, first ∈ members ∧ second ∈ members) ↔
      TransGen (Joined pairs) first second) ∧
    (∀ name, (∀ members ∈ (ofPairs pairs).classes, name ∈ members →
        (ofPairs pairs).classOf name = members) ∧
      ((¬ ∃ pair ∈ pairs, name = pair.1 ∨ name = pair.2) →
        ((ofPairs pairs).classOf name).names = [name])) ∧
    ∀ others, (∀ first second, Joined others first second ↔ Joined pairs first second) →
      (ofPairs others).classes.Perm (ofPairs pairs).classes ∧
        ∀ name, (ofPairs others).classOf name = (ofPairs pairs).classOf name := by
  refine ⟨⟨closure_settled pairs, Iteration.applications_le _ _ _ _⟩,
    fun members held => ⟨?_, members.ascending⟩, disjoint_iff.mp (disjoint_ofPairs pairs),
    fun name => exists_class_iff_mentioned, fun first second => exists_class_iff_chain,
    fun name => ⟨fun members held member => classOf_eq_of_mem (disjoint_ofPairs pairs) held member,
      names_classOf_eq⟩, fun others same => ?_⟩
  · obtain ⟨⟨name, member⟩, _⟩ := populated_ofPairs members held
    exact List.ne_nil_of_mem member
  · have relation : Joined others = Joined pairs := by
      funext first second
      exact propext (same first second)
    exact ⟨classes_perm_of_joined relation, classOf_eq_of_joined relation⟩

theorem ofPairs_is_equivalence_closure_of_chain :
    let pairs := [("a", "b"), ("x", "x"), ("c", "b")]
    let others := [("b", "c"), ("b", "a"), ("c", "b"), ("x", "x")]
    (∃ members ∈ (ofPairs pairs).classes, "a" ∈ members ∧ "c" ∈ members) ∧
      (ofPairs others).classes.Perm (ofPairs pairs).classes ∧
      ((ofPairs pairs).classOf "z").names = ["z"] := by
  intro pairs others
  obtain ⟨_, _, _, _, together, alone, reordered⟩ := ofPairs_is_equivalence_closure pairs
  have chain : TransGen (Joined pairs) "a" "c" :=
    .tail (.single (b := "b") (by decide)) (by decide)
  have same : ∀ first second, Joined others first second ↔ Joined pairs first second := by
    intro first second
    simp only [joined_iff, others, pairs, List.mem_cons, Prod.mk.injEq, List.not_mem_nil]
    grind
  exact ⟨(together "a" "c").mpr chain, (reordered others same).1, (alone "z").2 (by decide)⟩

end CoeffectSolver.Partition
