import CoeffectSolver.Proofs.Term.Replacement
import CoeffectSolver.Term.Constraint
import Mathlib.Data.List.Forall2
import Mathlib.Logic.Relation

/-! Types that agree up to their annotations: same constructors, names and arities, and annotations
at corresponding places that a given relation between coeffects relates. -/

namespace CoeffectSolver

/-- The same shape, with related annotations at corresponding places. -/
inductive Ty.AlikeUpTo (related : Coeffect → Coeffect → Prop) : Ty → Ty → Prop
  | absent : Ty.AlikeUpTo related .absent .absent
  | var (name : String) : Ty.AlikeUpTo related (.var name) (.var name)
  | prim (name : String) : Ty.AlikeUpTo related (.prim name) (.prim name)
  | tuple {elements elements' : List Ty} :
      List.Forall₂ (Ty.AlikeUpTo related) elements elements' →
      Ty.AlikeUpTo related (.tuple elements) (.tuple elements')
  | arrow {declaration call declaration' call' : Coeffect}
      {argument result argument' result' : Ty} :
      related declaration declaration' → related call call' →
      Ty.AlikeUpTo related argument argument' → Ty.AlikeUpTo related result result' →
      Ty.AlikeUpTo related (.arrow declaration call argument result)
        (.arrow declaration' call' argument' result')
  | comonad {requirement requirement' : Coeffect} {inner inner' : Ty} :
      related requirement requirement' → Ty.AlikeUpTo related inner inner' →
      Ty.AlikeUpTo related (.comonad requirement inner) (.comonad requirement' inner')

/-- The least equivalence between coeffects that holds of the sides of every equality. -/
def Coeffect.EquatedBy (equalities : List CoeffectConstraint) : Coeffect → Coeffect → Prop :=
  Relation.EqvGen (fun left right => { left, right } ∈ equalities)

theorem Coeffect.equatedBy_equivalence (equalities : List CoeffectConstraint) :
    Equivalence (Coeffect.EquatedBy equalities) :=
  Relation.EqvGen.is_equivalence _

theorem Coeffect.equatedBy_of_mem {equalities : List CoeffectConstraint}
    {equality : CoeffectConstraint} (member : equality ∈ equalities) :
    Coeffect.EquatedBy equalities equality.left equality.right :=
  Relation.EqvGen.rel _ _ member

theorem Ty.equal_iff_eq {first second : Ty} : first.equal second = true ↔ first = second := by
  rw [Ty.equal, Bool.and_eq_true, Ty.same_iff_eq]
  constructor
  · exact And.right
  · rintro rfl
    exact ⟨beq_self_eq_true _, rfl⟩

namespace Ty.AlikeUpTo

variable {related : Coeffect → Coeffect → Prop}

theorem refl (equivalent : Equivalence related) (type : Ty) : AlikeUpTo related type type := by
  induction type with
  | absent => exact .absent
  | var name => exact .var name
  | prim name => exact .prim name
  | tuple elements ih => exact .tuple (List.forall₂_same.mpr ih)
  | arrow declaration call argument result ihArgument ihResult =>
      exact .arrow (equivalent.refl declaration) (equivalent.refl call) ihArgument ihResult
  | comonad requirement inner ih => exact .comonad (equivalent.refl requirement) ih

theorem forall₂_of_each {property : Ty → Ty → Prop} {elements elements' : List Ty}
    (each : ∀ element ∈ elements, ∀ other, AlikeUpTo related element other →
      property element other)
    (alike : List.Forall₂ (AlikeUpTo related) elements elements') :
    List.Forall₂ property elements elements' := by
  have both := (List.forall₂_and_left elements elements').mpr ⟨each, alike⟩
  exact both.imp fun element other known => known.1 other known.2

theorem symm (equivalent : Equivalence related) {first second : Ty}
    (alike : AlikeUpTo related first second) : AlikeUpTo related second first := by
  induction first generalizing second with
  | absent => cases alike; exact .absent
  | var name => cases alike; exact .var name
  | prim name => cases alike; exact .prim name
  | tuple elements ih =>
      cases alike with
      | tuple each =>
          have reversed := forall₂_of_each (fun element member _ => ih element member) each
          exact .tuple reversed.flip
  | arrow declaration call argument result ihArgument ihResult =>
      cases alike with
      | arrow declarations calls arguments results =>
          exact .arrow (equivalent.symm declarations) (equivalent.symm calls) (ihArgument arguments)
            (ihResult results)
  | comonad requirement inner ih =>
      cases alike with
      | comonad requirements inners => exact .comonad (equivalent.symm requirements) (ih inners)

private theorem forall₂_trans {elements elements' elements'' : List Ty}
    (each : ∀ element ∈ elements, ∀ middle last, AlikeUpTo related element middle →
      AlikeUpTo related middle last → AlikeUpTo related element last)
    (first : List.Forall₂ (AlikeUpTo related) elements elements')
    (second : List.Forall₂ (AlikeUpTo related) elements' elements'') :
    List.Forall₂ (AlikeUpTo related) elements elements'' := by
  induction first generalizing elements'' with
  | nil => cases second; exact .nil
  | cons head _ ih =>
      cases second with
      | cons head' rest' =>
          refine .cons (each _ List.mem_cons_self _ _ head head') (ih (fun element member => ?_) rest')
          exact each element (List.mem_cons_of_mem _ member)

theorem trans (equivalent : Equivalence related) {first second third : Ty}
    (alike : AlikeUpTo related first second) (alike' : AlikeUpTo related second third) :
    AlikeUpTo related first third := by
  induction first generalizing second third with
  | absent => cases alike; exact alike'
  | var name => cases alike; exact alike'
  | prim name => cases alike; exact alike'
  | tuple elements ih =>
      cases alike with
      | tuple each =>
          cases alike' with
          | tuple each' =>
              exact .tuple (forall₂_trans (fun element member _ _ => ih element member) each each')
  | arrow declaration call argument result ihArgument ihResult =>
      cases alike with
      | arrow declarations calls arguments results =>
          cases alike' with
          | arrow declarations' calls' arguments' results' =>
              exact .arrow (equivalent.trans declarations declarations') (equivalent.trans calls calls')
                (ihArgument arguments arguments') (ihResult results results')
  | comonad requirement inner ih =>
      cases alike with
      | comonad requirements inners =>
          cases alike' with
          | comonad requirements' inners' =>
              exact .comonad (equivalent.trans requirements requirements') (ih inners inners')

theorem equivalence (equivalent : Equivalence related) : Equivalence (AlikeUpTo related) :=
  { refl := refl equivalent
    symm := symm equivalent
    trans := trans equivalent }

/-- Replacing variables by alike types gives alike types. -/
theorem replace_of_alike (equivalent : Equivalence related) {image image' : String → Ty} {type : Ty}
    (alike : ∀ name, type.Mentions name → AlikeUpTo related (image name) (image' name)) :
    AlikeUpTo related (type.replace image) (type.replace image') := by
  induction type with
  | absent => exact .absent
  | var name => exact alike name (mentions_var.mpr rfl)
  | prim name => exact .prim name
  | tuple elements ih =>
      rw [replace_tuple, replace_tuple]
      refine .tuple (List.forall₂_map_left_iff.mpr (List.forall₂_map_right_iff.mpr ?_))
      refine List.forall₂_same.mpr fun element member => ih element member fun name mentioned => ?_
      exact alike name (mentions_tuple.mpr ⟨element, member, mentioned⟩)
  | arrow declaration call argument result ihArgument ihResult =>
      refine .arrow (equivalent.refl declaration) (equivalent.refl call)
        (ihArgument fun name mentioned => ?_) (ihResult fun name mentioned => ?_)
      · exact alike name (mentions_arrow.mpr (.inl mentioned))
      · exact alike name (mentions_arrow.mpr (.inr mentioned))
  | comonad requirement inner ih =>
      refine .comonad (equivalent.refl requirement) (ih fun name mentioned => ?_)
      exact alike name (mentions_comonad.mpr mentioned)

theorem arrow_iff {declaration call declaration' call' : Coeffect}
    {argument result argument' result' : Ty} :
    AlikeUpTo related (.arrow declaration call argument result)
        (.arrow declaration' call' argument' result') ↔
      (related declaration declaration' ∧ related call call') ∧
        AlikeUpTo related argument argument' ∧ AlikeUpTo related result result' := by
  constructor
  · intro alike
    cases alike with
    | arrow declarations calls arguments results =>
        exact ⟨⟨declarations, calls⟩, arguments, results⟩
  · rintro ⟨⟨declarations, calls⟩, arguments, results⟩
    exact .arrow declarations calls arguments results

theorem comonad_iff {requirement requirement' : Coeffect} {inner inner' : Ty} :
    AlikeUpTo related (.comonad requirement inner) (.comonad requirement' inner') ↔
      related requirement requirement' ∧ AlikeUpTo related inner inner' := by
  constructor
  · intro alike
    cases alike with
    | comonad requirements inners => exact ⟨requirements, inners⟩
  · rintro ⟨requirements, inners⟩
    exact .comonad requirements inners

theorem tuple_iff {elements elements' : List Ty} :
    AlikeUpTo related (.tuple elements) (.tuple elements') ↔
      List.Forall₂ (AlikeUpTo related) elements elements' := by
  constructor
  · intro alike
    cases alike with
    | tuple each => exact each
  · exact .tuple

end Ty.AlikeUpTo

namespace Ty

mutual

/-- The number of constructors of a type outside annotations. -/
def nodes : Ty → Nat
  | .absent => 1
  | .var _ => 1
  | .prim _ => 1
  | .tuple elements => 1 + nodesOfElements elements
  | .arrow _ _ argument result => 1 + argument.nodes + result.nodes
  | .comonad _ inner => 1 + inner.nodes

/-- The number of constructors in the elements of a tuple. -/
def nodesOfElements : List Ty → Nat
  | [] => 0
  | first :: rest => first.nodes + nodesOfElements rest

end

theorem nodes_le_nodesOfElements {element : Ty} {elements : List Ty} (member : element ∈ elements) :
    element.nodes ≤ nodesOfElements elements := by
  induction elements with
  | nil => cases member
  | cons first rest ih =>
      rw [nodesOfElements]
      rcases List.mem_cons.mp member with same | later
      · rw [same]; exact Nat.le_add_right _ _
      · exact Nat.le_trans (ih later) (Nat.le_add_left _ _)

private theorem nodesOfElements_eq {elements elements' : List Ty}
    (same : List.Forall₂ (fun element element' => element.nodes = element'.nodes)
      elements elements') :
    nodesOfElements elements = nodesOfElements elements' := by
  induction same with
  | nil => rfl
  | cons head _ ih => rw [nodesOfElements, nodesOfElements, head, ih]

theorem AlikeUpTo.nodes_eq {related : Coeffect → Coeffect → Prop} {first second : Ty}
    (alike : AlikeUpTo related first second) : first.nodes = second.nodes := by
  induction first generalizing second with
  | absent => cases alike; rfl
  | var name => cases alike; rfl
  | prim name => cases alike; rfl
  | tuple elements ih =>
      cases alike with
      | tuple each =>
          have sizes := forall₂_of_each (fun element member _ => ih element member) each
          rw [nodes, nodes, nodesOfElements_eq sizes]
  | arrow declaration call argument result ihArgument ihResult =>
      cases alike with
      | arrow _ _ arguments results => rw [nodes, nodes, ihArgument arguments, ihResult results]
  | comonad requirement inner ih =>
      cases alike with
      | comonad _ inners => rw [nodes, nodes, ih inners]

private theorem nodes_image_le_of {image : String → Ty} {type : Ty} {name : String}
    (within : type = .var name ∨ (image name).nodes < (type.replace image).nodes) :
    (image name).nodes ≤ (type.replace image).nodes := by
  rcases within with same | smaller
  · rw [same]
    exact Nat.le_refl _
  · exact Nat.le_of_lt smaller

/-- The image of a variable is smaller than the image of a larger type that mentions it. -/
theorem eq_var_or_nodes_image_lt {image : String → Ty} {type : Ty} {name : String}
    (mentioned : type.Mentions name) :
    type = .var name ∨ (image name).nodes < (type.replace image).nodes := by
  induction type with
  | absent => exact absurd mentioned not_mentions_absent
  | var other => exact .inl (by rw [mentions_var.mp mentioned])
  | prim other => exact absurd mentioned not_mentions_prim
  | tuple elements ih =>
      obtain ⟨element, member, inside⟩ := mentions_tuple.mp mentioned
      have image_le := nodes_image_le_of (ih element member inside)
      have element_le : (element.replace image).nodes ≤
          nodesOfElements (elements.map (replace image)) :=
        nodes_le_nodesOfElements (List.mem_map_of_mem member)
      rw [replace_tuple, nodes]
      exact .inr (by omega)
  | arrow declaration call argument result ihArgument ihResult =>
      rw [replace_arrow, nodes]
      rcases mentions_arrow.mp mentioned with inside | inside
      · have image_le := nodes_image_le_of (ihArgument inside)
        exact .inr (by omega)
      · have image_le := nodes_image_le_of (ihResult inside)
        exact .inr (by omega)
  | comonad requirement inner ih =>
      have image_le := nodes_image_le_of (ih (mentions_comonad.mp mentioned))
      rw [replace_comonad, nodes]
      exact .inr (by omega)

theorem nodes_image_le {image : String → Ty} {type : Ty} {name : String}
    (mentioned : type.Mentions name) : (image name).nodes ≤ (type.replace image).nodes :=
  nodes_image_le_of (eq_var_or_nodes_image_lt mentioned)

end Ty
end CoeffectSolver
