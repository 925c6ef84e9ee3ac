import CoeffectSolver.Problem.Term
import CoeffectSolver.Proofs.Iteration
import Mathlib.Data.List.Forall2

/-! Which nodes decoding accepts as types and as coeffects, and as which. A node is looked at through
its aliases; what it stands for is said form by form, from what its parts stand for. -/

namespace CoeffectSolver

namespace Iteration

theorem mapM_eq_ok_iff {ι κ ε : Type} {function : ι → Except ε κ} {items : List ι}
    {values : List κ} :
    items.mapM function = .ok values ↔
      List.Forall₂ (fun item value => function item = .ok value) items values := by
  induction items generalizing values with
  | nil =>
      rw [List.forall₂_nil_left_iff]
      constructor
      · intro succeeded
        cases succeeded
        rfl
      · rintro rfl
        rfl
  | cons first rest ih =>
      rw [List.mapM_cons, bind_eq_ok_iff, List.forall₂_cons_left_iff]
      refine exists_congr fun value => ?_
      rw [bind_eq_ok_iff]
      constructor
      · rintro ⟨found, others, later, same⟩
        cases same
        exact ⟨others, found, ih.mp later, rfl⟩
      · rintro ⟨others, found, later, rfl⟩
        exact ⟨found, others, ih.mpr later, rfl⟩

end Iteration

namespace Yaml.Node

/-- A scalar with a text. -/
def IsText (node : Node) (text : String) : Prop :=
  ∃ line plain, node.resolve = .scalar line text plain

/-- A sequence of some items. -/
def HasItems (node : Node) (items : List Node) : Prop :=
  ∃ line, node.resolve = .sequence line items

/-- A mapping with a single key and its value. -/
def HasForm (node : Node) (form : String) (value : Node) : Prop :=
  ∃ line key, node.resolve = .mapping line [(key, value)] ∧ key.text = form

/-- A mapping in which the first entry with a key has a value. -/
def HasField (node : Node) (name : String) (value : Node) : Prop :=
  ∃ line entries key, node.resolve = .mapping line entries ∧
    entries.find? (fun entry => entry.1.text == name) = some (key, value)

end Yaml.Node

namespace Problem

open Yaml (Node)
open Iteration (bind_eq_ok_iff mapM_eq_ok_iff)

variable {node value : Node}

section Parts

theorem scalarText?_eq_some_iff {text : String} :
    scalarText? node.resolve = some text ↔ node.IsText text := by
  unfold scalarText? Node.IsText
  cases node.resolve <;> simp

theorem nonemptyText?_eq_some_iff {text : String} :
    nonemptyText? node.resolve = some text ↔ node.IsText text ∧ text ≠ "" := by
  rw [nonemptyText?, Option.filter_eq_some_iff, scalarText?_eq_some_iff, Bool.not_eq_true',
    Bool.eq_false_iff, Ne, String.isEmpty_iff]

theorem singleEntry_of_hasForm {form : String} (holds : node.HasForm form value) :
    ∃ smaller, singleEntry node.resolve = .ok (form, ⟨value.resolve, smaller⟩) := by
  obtain ⟨line, key, resolved, rfl⟩ := holds
  rw [resolved, singleEntry]
  exact ⟨_, rfl⟩

theorem hasForm_of_singleEntry {form : String} {inside : Inside node.resolve}
    (entered : singleEntry node.resolve = .ok (form, inside)) :
    ∃ value smaller, node.HasForm form value ∧ inside = ⟨value.resolve, smaller⟩ := by
  unfold Node.HasForm
  generalize node.resolve = target at inside entered ⊢
  unfold singleEntry at entered
  split at entered
  · next line entry =>
      cases entered
      exact ⟨entry.2, _, ⟨line, entry.1, rfl, rfl⟩, rfl⟩
  · cases entered

theorem map_findEntry (name : String) (entries : List (Node × Node)) :
    (findEntry name entries).map Subtype.val =
      entries.find? (fun entry => entry.1.text == name) := by
  unfold findEntry
  split
  · next found => exact found.symm
  · next missing => exact missing.symm

theorem field_of_hasField {name : String} (holds : node.HasField name value) :
    ∃ smaller, field name node.resolve = .ok ⟨value.resolve, smaller⟩ := by
  obtain ⟨line, entries, key, resolved, first⟩ := holds
  rw [← map_findEntry] at first
  obtain ⟨entry, found, same⟩ := Option.map_eq_some_iff.mp first
  obtain ⟨_, member⟩ := entry
  subst same
  rw [resolved, field, found]
  exact ⟨_, rfl⟩

theorem hasField_of_field {name : String} {inside : Inside node.resolve}
    (found : field name node.resolve = .ok inside) :
    ∃ value smaller, node.HasField name value ∧ inside = ⟨value.resolve, smaller⟩ := by
  unfold Node.HasField
  generalize node.resolve = target at inside found ⊢
  cases target with
  | mapping line entries =>
      rw [field] at found
      split at found
      · next entry first =>
          cases found
          refine ⟨entry.1.2, _, ⟨line, entries, entry.1.1, rfl, ?_⟩, rfl⟩
          rw [← map_findEntry, first]
          rfl
      · cases found
  | _ => cases found

theorem pair_of_hasItems {left right : Node} (holds : node.HasItems [left, right]) :
    ∃ smaller smaller',
      pair node.resolve = .ok (⟨left.resolve, smaller⟩, ⟨right.resolve, smaller'⟩) := by
  obtain ⟨line, resolved⟩ := holds
  rw [resolved, pair]
  exact ⟨_, _, rfl⟩

theorem hasItems_of_pair {inside : Inside node.resolve × Inside node.resolve}
    (found : pair node.resolve = .ok inside) :
    ∃ left right smaller smaller', node.HasItems [left, right] ∧
      inside = (⟨left.resolve, smaller⟩, ⟨right.resolve, smaller'⟩) := by
  unfold Node.HasItems
  generalize node.resolve = target at inside found ⊢
  unfold pair at found
  split at found
  · next line left right =>
      cases found
      exact ⟨left, right, _, _, ⟨line, rfl⟩, rfl⟩
  · cases found

/-- Reading the items of a sequence one after the other. -/
theorem exists_items_iff {α : Type} {read : Node → Except TermFault α} {results : List α} :
    (∃ inside, items node.resolve = .ok inside ∧
      inside.mapM (fun item => read item.1) = .ok results) ↔
      ∃ listed, node.HasItems listed ∧
        List.Forall₂ (fun item result => read item.resolve = .ok result) listed results := by
  unfold Node.HasItems
  generalize node.resolve = target
  cases target with
  | sequence line listed =>
      have readEach : ∀ inside, items (.sequence line listed) = .ok inside →
          (inside.mapM (fun item => read item.1) = .ok results ↔
            List.Forall₂ (fun item result => read item.resolve = .ok result) listed results) := by
        intro inside found
        cases found
        rw [mapM_eq_ok_iff, List.forall₂_map_left_iff, ← List.attach_map_subtype_val listed,
          List.forall₂_map_left_iff, List.attach_map_subtype_val listed]
        rfl
      constructor
      · rintro ⟨inside, found, reads⟩
        exact ⟨listed, ⟨line, rfl⟩, (readEach inside found).mp reads⟩
      · rintro ⟨_, ⟨_, same⟩, reads⟩
        cases same
        exact ⟨_, rfl, (readEach _ rfl).mpr reads⟩
  | _ =>
      constructor
      · rintro ⟨inside, found, _⟩
        cases found
      · rintro ⟨_, ⟨_, same⟩, _⟩
        cases same

end Parts

/-- What decoding a node as a type can give, with what it gives for the parts of the type. -/
inductive ReadsType (node : Node) : Ty → Prop
  | prim {name : String} : node.IsText name → name ≠ "" → ReadsType node (.prim name)
  | var {value : Node} {name : String} : node.HasForm "var" value → value.IsText name → name ≠ "" →
      ReadsType node (.var name)
  | tuple {value : Node} {items : List Node} {elements : List Ty} : node.HasForm "tuple" value →
      value.HasItems items →
      List.Forall₂ (fun item element => decodeType item = .ok element) items elements →
      ReadsType node (.tuple elements)
  | arrow {value argumentNode resultNode coeffectsNode declarationNode callNode : Node}
      {declaration call : Coeffect} {argument result : Ty} : node.HasForm "func" value →
      value.HasField "arg" argumentNode → value.HasField "result" resultNode →
      value.HasField "coeffects" coeffectsNode →
      coeffectsNode.HasItems [declarationNode, callNode] →
      decodeType argumentNode = .ok argument → decodeType resultNode = .ok result →
      decodeCoeffect declarationNode = .ok declaration → decodeCoeffect callNode = .ok call →
      ReadsType node (.arrow declaration call argument result)
  | comonad {value coeffectNode innerNode : Node} {requirement : Coeffect} {inner : Ty} :
      node.HasForm "comonad" value → value.HasField "coeffect" coeffectNode →
      value.HasField "inner" innerNode → decodeCoeffect coeffectNode = .ok requirement →
      decodeType innerNode = .ok inner → ReadsType node (.comonad requirement inner)

/-- What decoding a node as a coeffect can give, with what it gives for the parts of the coeffect. -/
inductive ReadsCoeffect (node : Node) : Coeffect → Prop
  | use : node.IsText "use" → ReadsCoeffect node .use
  | ignore : node.IsText "ignore" → ReadsCoeffect node .ignore
  | unconstrained : node.IsText "none" → ReadsCoeffect node .unconstrained
  | past {value : Node} {steps : UInt64} : node.HasForm "past" value →
      steps? value.resolve = some steps → ReadsCoeffect node (.past steps)
  | var {value : Node} {name : String} : node.HasForm "var" value → value.IsText name → name ≠ "" →
      ReadsCoeffect node (.var name)
  | named {value : Node} {name : String} : node.HasForm "param" value → value.IsText name →
      ReadsCoeffect node (.param name .absent)
  | typed {value nameNode typeNode : Node} {payload : Ty} : node.HasForm "param" value →
      value.HasField "name" nameNode → value.HasField "type" typeNode →
      decodeType typeNode = .ok payload →
      ReadsCoeffect node (.param nameNode.resolve.text payload)
  | merge {value leftNode rightNode : Node} {left right : Coeffect} : node.HasForm "merge" value →
      value.HasItems [leftNode, rightNode] → decodeCoeffect leftNode = .ok left →
      decodeCoeffect rightNode = .ok right → ReadsCoeffect node (.merge left right)
  | split {value leftNode rightNode : Node} {left right : Coeffect} : node.HasForm "split" value →
      value.HasItems [leftNode, rightNode] → decodeCoeffect leftNode = .ok left →
      decodeCoeffect rightNode = .ok right → ReadsCoeffect node (.split left right)
  | seq {value leftNode rightNode : Node} {left right : Coeffect} : node.HasForm "seq" value →
      value.HasItems [leftNode, rightNode] → decodeCoeffect leftNode = .ok left →
      decodeCoeffect rightNode = .ok right → ReadsCoeffect node (.seq left right)

theorem readsType_of_decodeType {type : Ty} (decoded : decodeType node = .ok type) :
    ReadsType node type := by
  rw [decodeType] at decoded
  unfold typeOf at decoded
  split at decoded
  · next line text plain resolved =>
      split at decoded
      · cases decoded
      · next filled =>
          cases decoded
          exact .prim ⟨line, plain, resolved⟩ (fun empty => filled (by rw [empty]; rfl))
  · obtain ⟨⟨form, inside⟩, entered, decoded⟩ := bind_eq_ok_iff.mp decoded
    obtain ⟨value, smaller, formed, rfl⟩ := hasForm_of_singleEntry entered
    dsimp only at decoded
    split at decoded
    · split at decoded
      · next name named =>
          cases decoded
          obtain ⟨text, filled⟩ := nonemptyText?_eq_some_iff.mp named
          exact .var formed text filled
      · cases decoded
    · obtain ⟨inside, listed, decoded⟩ := bind_eq_ok_iff.mp decoded
      obtain ⟨elements, read, same⟩ := bind_eq_ok_iff.mp decoded
      cases same
      obtain ⟨items, holds, each⟩ := exists_items_iff.mp ⟨inside, listed, read⟩
      exact .tuple formed holds each
    · obtain ⟨_, found, decoded⟩ := bind_eq_ok_iff.mp decoded
      obtain ⟨argumentNode, _, argued, rfl⟩ := hasField_of_field found
      obtain ⟨_, found, decoded⟩ := bind_eq_ok_iff.mp decoded
      obtain ⟨resultNode, _, resulted, rfl⟩ := hasField_of_field found
      obtain ⟨_, found, decoded⟩ := bind_eq_ok_iff.mp decoded
      obtain ⟨coeffectsNode, _, annotated, rfl⟩ := hasField_of_field found
      obtain ⟨argument, readArgument, decoded⟩ := bind_eq_ok_iff.mp decoded
      obtain ⟨result, readResult, decoded⟩ := bind_eq_ok_iff.mp decoded
      obtain ⟨_, found, decoded⟩ := bind_eq_ok_iff.mp decoded
      obtain ⟨declarationNode, callNode, _, _, both, rfl⟩ := hasItems_of_pair found
      obtain ⟨declaration, readDeclaration, decoded⟩ := bind_eq_ok_iff.mp decoded
      obtain ⟨call, readCall, same⟩ := bind_eq_ok_iff.mp decoded
      cases same
      exact .arrow formed argued resulted annotated both readArgument readResult readDeclaration
        readCall
    · obtain ⟨_, found, decoded⟩ := bind_eq_ok_iff.mp decoded
      obtain ⟨coeffectNode, _, required, rfl⟩ := hasField_of_field found
      obtain ⟨_, found, decoded⟩ := bind_eq_ok_iff.mp decoded
      obtain ⟨innerNode, _, inside, rfl⟩ := hasField_of_field found
      obtain ⟨requirement, readRequirement, decoded⟩ := bind_eq_ok_iff.mp decoded
      obtain ⟨inner, readInner, same⟩ := bind_eq_ok_iff.mp decoded
      cases same
      exact .comonad formed required inside readRequirement readInner
    · cases decoded

theorem not_scalar_of_hasForm {form : String} (formed : node.HasForm form value) :
    ∀ line text plain, node.resolve = .scalar line text plain → False := by
  intro line text plain same
  obtain ⟨_, _, resolved, _⟩ := formed
  rw [resolved] at same
  cases same

theorem decodeType_of_readsType {type : Ty} (reads : ReadsType node type) :
    decodeType node = .ok type := by
  rw [decodeType]
  cases reads with
  | prim named filled =>
      obtain ⟨line, plain, resolved⟩ := named
      rw [resolved, typeOf, if_neg (by rwa [String.isEmpty_iff])]
  | var formed named filled =>
      obtain ⟨_, entered⟩ := singleEntry_of_hasForm formed
      rw [typeOf, entered]
      · simp only [bind, Except.bind, nonemptyText?_eq_some_iff.mpr ⟨named, filled⟩]
        rfl
      · exact not_scalar_of_hasForm formed
  | tuple formed holds each =>
      obtain ⟨_, entered⟩ := singleEntry_of_hasForm formed
      obtain ⟨_, listed, read⟩ := exists_items_iff.mpr ⟨_, holds, each⟩
      rw [typeOf, entered]
      · simp only [bind, Except.bind, listed, read]
        rfl
      · exact not_scalar_of_hasForm formed
  | arrow formed argued resulted annotated both readArgument readResult readDeclaration readCall =>
      obtain ⟨_, entered⟩ := singleEntry_of_hasForm formed
      obtain ⟨_, argued⟩ := field_of_hasField argued
      obtain ⟨_, resulted⟩ := field_of_hasField resulted
      obtain ⟨_, annotated⟩ := field_of_hasField annotated
      obtain ⟨_, _, both⟩ := pair_of_hasItems both
      rw [decodeType] at readArgument readResult
      rw [decodeCoeffect] at readDeclaration readCall
      rw [typeOf, entered]
      · simp only [bind, Except.bind, argued, resulted, annotated, both, readArgument, readResult,
          readDeclaration, readCall]
        rfl
      · exact not_scalar_of_hasForm formed
  | comonad formed required inside readRequirement readInner =>
      obtain ⟨_, entered⟩ := singleEntry_of_hasForm formed
      obtain ⟨_, required⟩ := field_of_hasField required
      obtain ⟨_, inside⟩ := field_of_hasField inside
      rw [decodeType] at readInner
      rw [decodeCoeffect] at readRequirement
      rw [typeOf, entered]
      · simp only [bind, Except.bind, required, inside, readRequirement, readInner]
        rfl
      · exact not_scalar_of_hasForm formed

/-- The two parts that are read for a coeffect that is made of two others. -/
theorem exists_parts_of_read {combine : Coeffect → Coeffect → Coeffect} {coeffect : Coeffect}
    (decoded : (do
      let (⟨leftNode, _⟩, ⟨rightNode, _⟩) ← pair node.resolve
      let left ← coeffectOf leftNode
      let right ← coeffectOf rightNode
      pure (combine left right)) = .ok coeffect) :
    ∃ leftNode rightNode left right, node.HasItems [leftNode, rightNode] ∧
      decodeCoeffect leftNode = .ok left ∧ decodeCoeffect rightNode = .ok right ∧
      combine left right = coeffect := by
  obtain ⟨_, found, decoded⟩ := bind_eq_ok_iff.mp decoded
  obtain ⟨leftNode, rightNode, _, _, both, rfl⟩ := hasItems_of_pair found
  obtain ⟨left, readLeft, decoded⟩ := bind_eq_ok_iff.mp decoded
  obtain ⟨right, readRight, same⟩ := bind_eq_ok_iff.mp decoded
  exact ⟨leftNode, rightNode, left, right, both, readLeft, readRight, Except.ok.inj same⟩

theorem readsCoeffect_of_decodeCoeffect {coeffect : Coeffect}
    (decoded : decodeCoeffect node = .ok coeffect) : ReadsCoeffect node coeffect := by
  rw [decodeCoeffect] at decoded
  unfold coeffectOf at decoded
  split at decoded
  · next line text plain resolved =>
      split at decoded
      · cases decoded
        exact .use ⟨line, plain, resolved⟩
      · cases decoded
        exact .ignore ⟨line, plain, resolved⟩
      · cases decoded
        exact .unconstrained ⟨line, plain, resolved⟩
      · cases decoded
  · obtain ⟨⟨form, inside⟩, entered, decoded⟩ := bind_eq_ok_iff.mp decoded
    obtain ⟨value, smaller, formed, rfl⟩ := hasForm_of_singleEntry entered
    dsimp only at decoded
    split at decoded
    · split at decoded
      · next name named =>
          cases decoded
          obtain ⟨text, filled⟩ := nonemptyText?_eq_some_iff.mp named
          exact .var formed text filled
      · cases decoded
    · split at decoded
      · next steps counted =>
          cases decoded
          exact .past formed counted
      · cases decoded
    · split at decoded
      · next name named =>
          cases decoded
          exact .named formed (scalarText?_eq_some_iff.mp named)
      · obtain ⟨_, found, decoded⟩ := bind_eq_ok_iff.mp decoded
        obtain ⟨nameNode, _, named, rfl⟩ := hasField_of_field found
        obtain ⟨_, found, decoded⟩ := bind_eq_ok_iff.mp decoded
        obtain ⟨typeNode, _, typed, rfl⟩ := hasField_of_field found
        obtain ⟨payload, readPayload, same⟩ := bind_eq_ok_iff.mp decoded
        cases same
        exact .typed formed named typed readPayload
    · obtain ⟨_, _, _, _, both, readLeft, readRight, rfl⟩ := exists_parts_of_read decoded
      exact .merge formed both readLeft readRight
    · obtain ⟨_, _, _, _, both, readLeft, readRight, rfl⟩ := exists_parts_of_read decoded
      exact .split formed both readLeft readRight
    · obtain ⟨_, _, _, _, both, readLeft, readRight, rfl⟩ := exists_parts_of_read decoded
      exact .seq formed both readLeft readRight
    · cases decoded

theorem scalarText?_eq_none_of_hasField {name : String} {found : Node}
    (holds : node.HasField name found) : scalarText? node.resolve = none := by
  obtain ⟨line, entries, _, resolved, _⟩ := holds
  rw [resolved]
  rfl

theorem decodeCoeffect_of_readsCoeffect {coeffect : Coeffect} (reads : ReadsCoeffect node coeffect) :
    decodeCoeffect node = .ok coeffect := by
  rw [decodeCoeffect]
  cases reads with
  | use named | ignore named | unconstrained named =>
      obtain ⟨line, plain, resolved⟩ := named
      rw [resolved, coeffectOf]
  | past formed counted =>
      obtain ⟨_, entered⟩ := singleEntry_of_hasForm formed
      rw [coeffectOf, entered]
      · simp only [bind, Except.bind, counted]
        rfl
      · exact not_scalar_of_hasForm formed
  | var formed named filled =>
      obtain ⟨_, entered⟩ := singleEntry_of_hasForm formed
      rw [coeffectOf, entered]
      · simp only [bind, Except.bind, nonemptyText?_eq_some_iff.mpr ⟨named, filled⟩]
        rfl
      · exact not_scalar_of_hasForm formed
  | named formed named =>
      obtain ⟨_, entered⟩ := singleEntry_of_hasForm formed
      rw [coeffectOf, entered]
      · simp only [bind, Except.bind, scalarText?_eq_some_iff.mpr named]
        rfl
      · exact not_scalar_of_hasForm formed
  | typed formed named typed readPayload =>
      obtain ⟨_, entered⟩ := singleEntry_of_hasForm formed
      have fields := scalarText?_eq_none_of_hasField named
      obtain ⟨_, named⟩ := field_of_hasField named
      obtain ⟨_, typed⟩ := field_of_hasField typed
      rw [decodeType] at readPayload
      rw [coeffectOf, entered]
      · simp only [bind, Except.bind, fields, named, typed, readPayload]
        rfl
      · exact not_scalar_of_hasForm formed
  | merge formed both readLeft readRight | split formed both readLeft readRight
  | seq formed both readLeft readRight =>
      obtain ⟨_, entered⟩ := singleEntry_of_hasForm formed
      obtain ⟨_, _, both⟩ := pair_of_hasItems both
      rw [decodeCoeffect] at readLeft readRight
      rw [coeffectOf, entered]
      · simp only [bind, Except.bind, both, readLeft, readRight]
        rfl
      · exact not_scalar_of_hasForm formed

theorem decodeType_eq_ok_iff {type : Ty} : decodeType node = .ok type ↔ ReadsType node type :=
  ⟨readsType_of_decodeType, decodeType_of_readsType⟩

theorem decodeCoeffect_eq_ok_iff {coeffect : Coeffect} :
    decodeCoeffect node = .ok coeffect ↔ ReadsCoeffect node coeffect :=
  ⟨readsCoeffect_of_decodeCoeffect, decodeCoeffect_of_readsCoeffect⟩

end Problem
end CoeffectSolver
