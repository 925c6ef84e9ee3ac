import CoeffectSolver.Proofs.Problem.Revision

/-! The nodes that types and coeffects are written as. Decoding gives a term back from the node it is
written as and from every revision of that node, and gives no terms but those that can be written. -/

namespace CoeffectSolver

mutual

/-- The type can be written: names of primitive types and of variables are not empty, and nothing is
absent in it but payloads. -/
def Ty.expressible : Ty → Bool
  | .absent => false
  | .var name => !name.isEmpty
  | .prim name => !name.isEmpty
  | .tuple elements => Ty.elementsExpressible elements
  | .arrow declaration call argument result =>
      declaration.expressible && call.expressible && (argument.expressible && result.expressible)
  | .comonad requirement inner => requirement.expressible && inner.expressible

def Ty.elementsExpressible : List Ty → Bool
  | [] => true
  | first :: rest => first.expressible && Ty.elementsExpressible rest

/-- The coeffect can be written. The name of a parameter may be empty, and its payload absent. -/
def Coeffect.expressible : Coeffect → Bool
  | .absent => false
  | .use | .ignore | .unconstrained | .past _ | .param _ .absent => true
  | .param _ payload => payload.expressible
  | .var name => !name.isEmpty
  | .merge left right => left.expressible && right.expressible
  | .split left right => left.expressible && right.expressible
  | .seq left right => left.expressible && right.expressible

end

theorem Coeffect.expressible_param {payload : Ty} (name : String) (given : payload ≠ .absent) :
    (Coeffect.param name payload).expressible = payload.expressible := by
  rw [Coeffect.expressible]
  exact given

namespace Problem

open Yaml (Node)

/-! ### Nodes -/

def textNode (text : String) : Node := .scalar 1 text true

def listNode (items : List Node) : Node := .sequence 1 items

def fieldsNode (fields : List (String × Node)) : Node :=
  .mapping 1 (fields.map fun field => (textNode field.1, field.2))

/-- The node of a term that has parts: its form is the only key. -/
def formNode (form : String) (value : Node) : Node := fieldsNode [(form, value)]

mutual

/-- The node that a type is written as. -/
def typeNode : Ty → Node
  | .absent => textNode ""
  | .prim name => textNode name
  | .var name => formNode "var" (textNode name)
  | .tuple elements => formNode "tuple" (listNode (typeNodes elements))
  | .arrow declaration call argument result =>
      formNode "func" (fieldsNode [("arg", typeNode argument), ("result", typeNode result),
        ("coeffects", listNode [coeffectNode declaration, coeffectNode call])])
  | .comonad requirement inner =>
      formNode "comonad" (fieldsNode [("coeffect", coeffectNode requirement),
        ("inner", typeNode inner)])

def typeNodes : List Ty → List Node
  | [] => []
  | first :: rest => typeNode first :: typeNodes rest

/-- The node that a coeffect is written as. A parameter is written with its name alone when it has no
payload. -/
def coeffectNode : Coeffect → Node
  | .absent => textNode ""
  | .use => textNode "use"
  | .ignore => textNode "ignore"
  | .unconstrained => textNode "none"
  | .past steps => formNode "past" (textNode (toString steps.toNat))
  | .var name => formNode "var" (textNode name)
  | .param name .absent => formNode "param" (textNode name)
  | .param name payload =>
      formNode "param" (fieldsNode [("name", textNode name), ("type", typeNode payload)])
  | .merge left right => formNode "merge" (listNode [coeffectNode left, coeffectNode right])
  | .split left right => formNode "split" (listNode [coeffectNode left, coeffectNode right])
  | .seq left right => formNode "seq" (listNode [coeffectNode left, coeffectNode right])

end

theorem coeffectNode_param {payload : Ty} (name : String) (given : payload ≠ .absent) :
    coeffectNode (.param name payload) =
      formNode "param" (fieldsNode [("name", textNode name), ("type", typeNode payload)]) := by
  rw [coeffectNode]
  exact given

theorem isText_textNode (text : String) : (textNode text).IsText text := ⟨1, true, rfl⟩

theorem hasItems_listNode (items : List Node) : (listNode items).HasItems items := ⟨1, rfl⟩

theorem hasForm_formNode (form : String) (value : Node) : (formNode form value).HasForm form value :=
  ⟨1, textNode form, rfl, rfl⟩

theorem hasField_fieldsNode {fields : List (String × Node)} {name key : String} {value : Node}
    (first : fields.find? (fun field => field.1 == name) = some (key, value)) :
    (fieldsNode fields).HasField name value := by
  refine ⟨1, _, textNode key, rfl, ?_⟩
  rw [List.find?_map]
  exact congrArg (Option.map fun field => (textNode field.1, field.2)) first

theorem steps?_textNode (steps : UInt64) : steps? (textNode (toString steps.toNat)) = some steps := by
  have spelled : (toString steps.toNat).toList = Nat.toDigits 10 steps.toNat := Nat.toList_repr
  have filled : (Nat.toDigits 10 steps.toNat).isEmpty = false :=
    List.isEmpty_eq_false_iff.mpr Nat.toDigits_ne_nil
  have digits : (Nat.toDigits 10 steps.toNat).all Char.isDigit = true :=
    List.all_eq_true.mpr fun _ member => Nat.isDigit_of_mem_toDigits (by decide) (by decide) member
  have value : (Nat.toDigits 10 steps.toNat).foldl
      (fun value digit => 10 * value + (digit.toNat - 48)) 0 = steps.toNat :=
    Nat.ofDigitChars_ten_toDigits
  rw [textNode, steps?]
  simp only [spelled, filled, digits, value, Bool.not_true, Bool.or_false,
    Bool.false_eq_true, if_false, if_pos steps.toNat_lt, UInt64.ofNat_toNat]

/-! ### Reading what is written -/

mutual

theorem decodeType_typeNode : (type : Ty) → type.expressible = true →
    decodeType (typeNode type) = .ok type
  | .absent, expressible => by cases expressible
  | .prim name, expressible => by
      have filled : name ≠ "" := by simpa [Ty.expressible] using expressible
      exact decodeType_eq_ok_iff.mpr (.prim (isText_textNode name) filled)
  | .var name, expressible => by
      have filled : name ≠ "" := by simpa [Ty.expressible] using expressible
      exact decodeType_eq_ok_iff.mpr
        (.var (hasForm_formNode "var" _) (isText_textNode name) filled)
  | .tuple elements, expressible => by
      rw [Ty.expressible] at expressible
      exact decodeType_eq_ok_iff.mpr (.tuple (hasForm_formNode "tuple" _) (hasItems_listNode _)
        (decodeType_typeNodes elements expressible))
  | .arrow declaration call argument result, expressible => by
      simp only [Ty.expressible, Bool.and_eq_true] at expressible
      obtain ⟨⟨declarations, calls⟩, arguments, results⟩ := expressible
      exact decodeType_eq_ok_iff.mpr (.arrow (hasForm_formNode "func" _)
        (hasField_fieldsNode rfl) (hasField_fieldsNode rfl) (hasField_fieldsNode rfl)
        (hasItems_listNode _) (decodeType_typeNode argument arguments)
        (decodeType_typeNode result results) (decodeCoeffect_coeffectNode declaration declarations)
        (decodeCoeffect_coeffectNode call calls))
  | .comonad requirement inner, expressible => by
      simp only [Ty.expressible, Bool.and_eq_true] at expressible
      exact decodeType_eq_ok_iff.mpr (.comonad (hasForm_formNode "comonad" _)
        (hasField_fieldsNode rfl) (hasField_fieldsNode rfl)
        (decodeCoeffect_coeffectNode requirement expressible.1)
        (decodeType_typeNode inner expressible.2))

theorem decodeType_typeNodes : (elements : List Ty) → Ty.elementsExpressible elements = true →
    List.Forall₂ (fun item element => decodeType item = .ok element) (typeNodes elements) elements
  | [], _ => .nil
  | first :: rest, expressible => by
      simp only [Ty.elementsExpressible, Bool.and_eq_true] at expressible
      exact .cons (decodeType_typeNode first expressible.1) (decodeType_typeNodes rest expressible.2)

theorem decodeCoeffect_coeffectNode : (coeffect : Coeffect) → coeffect.expressible = true →
    decodeCoeffect (coeffectNode coeffect) = .ok coeffect
  | .absent, expressible => by cases expressible
  | .use, _ => decodeCoeffect_eq_ok_iff.mpr (.use (isText_textNode _))
  | .ignore, _ => decodeCoeffect_eq_ok_iff.mpr (.ignore (isText_textNode _))
  | .unconstrained, _ => decodeCoeffect_eq_ok_iff.mpr (.unconstrained (isText_textNode _))
  | .past steps, _ =>
      decodeCoeffect_eq_ok_iff.mpr (.past (hasForm_formNode "past" _) (steps?_textNode steps))
  | .var name, expressible => by
      have filled : name ≠ "" := by simpa [Coeffect.expressible] using expressible
      exact decodeCoeffect_eq_ok_iff.mpr
        (.var (hasForm_formNode "var" _) (isText_textNode name) filled)
  | .param name payload, expressible => by
      by_cases given : payload = .absent
      · subst given
        exact decodeCoeffect_eq_ok_iff.mpr (.named (hasForm_formNode "param" _) (isText_textNode name))
      · rw [Coeffect.expressible_param name given] at expressible
        rw [coeffectNode_param name given]
        -- The name is what the text of its node says, whatever kind of node that is.
        have named : (fieldsNode [("name", textNode name), ("type", typeNode payload)]).HasField
            "name" (textNode name) := hasField_fieldsNode rfl
        exact decodeCoeffect_eq_ok_iff.mpr (.typed (hasForm_formNode "param" _) named
          (hasField_fieldsNode rfl) (decodeType_typeNode payload expressible))
  | .merge left right, expressible => by
      simp only [Coeffect.expressible, Bool.and_eq_true] at expressible
      exact decodeCoeffect_eq_ok_iff.mpr (.merge (hasForm_formNode "merge" _) (hasItems_listNode _)
        (decodeCoeffect_coeffectNode left expressible.1)
        (decodeCoeffect_coeffectNode right expressible.2))
  | .split left right, expressible => by
      simp only [Coeffect.expressible, Bool.and_eq_true] at expressible
      exact decodeCoeffect_eq_ok_iff.mpr (.split (hasForm_formNode "split" _) (hasItems_listNode _)
        (decodeCoeffect_coeffectNode left expressible.1)
        (decodeCoeffect_coeffectNode right expressible.2))
  | .seq left right, expressible => by
      simp only [Coeffect.expressible, Bool.and_eq_true] at expressible
      exact decodeCoeffect_eq_ok_iff.mpr (.seq (hasForm_formNode "seq" _) (hasItems_listNode _)
        (decodeCoeffect_coeffectNode left expressible.1)
        (decodeCoeffect_coeffectNode right expressible.2))

end

/-! ### Writing what is read -/

mutual

theorem expressible_of_decodeType : (type : Ty) → {node : Node} → decodeType node = .ok type →
    type.expressible = true
  | .absent, _, decoded => by cases decodeType_eq_ok_iff.mp decoded
  | .prim _, _, decoded => by
      cases decodeType_eq_ok_iff.mp decoded with
      | prim _ filled => simpa [Ty.expressible] using filled
  | .var _, _, decoded => by
      cases decodeType_eq_ok_iff.mp decoded with
      | var _ _ filled => simpa [Ty.expressible] using filled
  | .tuple elements, _, decoded => by
      cases decodeType_eq_ok_iff.mp decoded with
      | tuple _ _ each =>
          rw [Ty.expressible]
          exact elementsExpressible_of_decodeType elements each
  | .arrow declaration call argument result, _, decoded => by
      cases decodeType_eq_ok_iff.mp decoded with
      | arrow _ _ _ _ _ readArgument readResult readDeclaration readCall =>
          simp only [Ty.expressible, Bool.and_eq_true]
          exact ⟨⟨expressible_of_decodeCoeffect declaration readDeclaration,
            expressible_of_decodeCoeffect call readCall⟩,
            expressible_of_decodeType argument readArgument,
            expressible_of_decodeType result readResult⟩
  | .comonad requirement inner, _, decoded => by
      cases decodeType_eq_ok_iff.mp decoded with
      | comonad _ _ _ readRequirement readInner =>
          simp only [Ty.expressible, Bool.and_eq_true]
          exact ⟨expressible_of_decodeCoeffect requirement readRequirement,
            expressible_of_decodeType inner readInner⟩

theorem elementsExpressible_of_decodeType : (elements : List Ty) → {items : List Node} →
    List.Forall₂ (fun item element => decodeType item = .ok element) items elements →
    Ty.elementsExpressible elements = true
  | [], _, _ => rfl
  | first :: rest, _, each => by
      cases each with
      | cons readFirst readRest =>
          simp only [Ty.elementsExpressible, Bool.and_eq_true]
          exact ⟨expressible_of_decodeType first readFirst,
            elementsExpressible_of_decodeType rest readRest⟩

theorem expressible_of_decodeCoeffect : (coeffect : Coeffect) → {node : Node} →
    decodeCoeffect node = .ok coeffect → coeffect.expressible = true
  | .absent, _, decoded => by cases decodeCoeffect_eq_ok_iff.mp decoded
  | .use, _, _ | .ignore, _, _ | .unconstrained, _, _ | .past _, _, _ => rfl
  | .var _, _, decoded => by
      cases decodeCoeffect_eq_ok_iff.mp decoded with
      | var _ _ filled => simpa [Coeffect.expressible] using filled
  | .param _ payload, _, decoded => by
      cases decodeCoeffect_eq_ok_iff.mp decoded with
      | named => rfl
      | typed _ _ _ readPayload =>
          have written := expressible_of_decodeType payload readPayload
          have given : payload ≠ .absent := by
            rintro rfl
            cases written
          rwa [Coeffect.expressible_param _ given]
  | .merge left right, _, decoded => by
      cases decodeCoeffect_eq_ok_iff.mp decoded with
      | merge _ _ readLeft readRight =>
          simp only [Coeffect.expressible, Bool.and_eq_true]
          exact ⟨expressible_of_decodeCoeffect left readLeft,
            expressible_of_decodeCoeffect right readRight⟩
  | .split left right, _, decoded => by
      cases decodeCoeffect_eq_ok_iff.mp decoded with
      | split _ _ readLeft readRight =>
          simp only [Coeffect.expressible, Bool.and_eq_true]
          exact ⟨expressible_of_decodeCoeffect left readLeft,
            expressible_of_decodeCoeffect right readRight⟩
  | .seq left right, _, decoded => by
      cases decodeCoeffect_eq_ok_iff.mp decoded with
      | seq _ _ readLeft readRight =>
          simp only [Coeffect.expressible, Bool.and_eq_true]
          exact ⟨expressible_of_decodeCoeffect left readLeft,
            expressible_of_decodeCoeffect right readRight⟩

end

/-- Decoding gives a term that can be written back from the node it is written as, however often that
node is revised. What it gives can always be written. -/
theorem decoding_undoes_node_form :
    (∀ (type : Ty) (node : Node), type.expressible = true →
      Relation.ReflTransGen (Revised []) (typeNode type) node → decodeType node = .ok type) ∧
    (∀ (coeffect : Coeffect) (node : Node), coeffect.expressible = true →
      Relation.ReflTransGen (Revised []) (coeffectNode coeffect) node →
      decodeCoeffect node = .ok coeffect) ∧
    (∀ (node : Node) (type : Ty), decodeType node = .ok type → type.expressible = true) ∧
    (∀ (node : Node) (coeffect : Coeffect), decodeCoeffect node = .ok coeffect →
      coeffect.expressible = true) := by
  refine ⟨fun type node expressible revisions => ?_, fun coeffect node expressible revisions => ?_,
    fun _ type decoded => expressible_of_decodeType type decoded,
    fun _ coeffect decoded => expressible_of_decodeCoeffect coeffect decoded⟩
  · exact decodeType_of_revisions revisions (decodeType_typeNode type expressible)
  · exact decodeCoeffect_of_revisions revisions (decodeCoeffect_coeffectNode coeffect expressible)

/-- A function type whose fields stand in another order, with another key among them, the argument
repeated and aliases for the result; the node itself stands behind an alias. -/
theorem decoding_undoes_node_form_of_function :
    let call : Coeffect := .seq (.param "clock" (.tuple [.prim "Int", .var "a"])) (.var "r")
    let result : Ty := .comonad (.merge .use (.param "" .absent)) (.prim "Bool")
    let type : Ty := .arrow (.past 18446744073709551615) call (.tuple [.prim "Int"]) result
    let node : Node := .alias "whole" (formNode "func" (fieldsNode [
      ("result", .alias "again" (.alias "result" (typeNode result))), ("note", listNode []),
      ("arg", typeNode (.tuple [.prim "Int"])),
      ("coeffects", listNode [coeffectNode (.past 18446744073709551615), coeffectNode call]),
      ("arg", textNode "Other")]))
    (type.expressible = true ∧ Relation.ReflTransGen (Revised []) (typeNode type) node ∧
      decodeType node = .ok type) ∧
    call.expressible = true ∧ decodeCoeffect (.alias "call" (coeffectNode call)) = .ok call := by
  intro call result type node
  have inside : ∀ argument result coeffects other : Node,
      Relation.ReflTransGen (Revised (fieldsOf "func"))
        (fieldsNode [("arg", argument), ("result", result), ("coeffects", coeffects)])
        (fieldsNode [("result", .alias "again" (.alias "result" result)), ("note", listNode []),
          ("arg", argument), ("coeffects", coeffects), ("arg", other)]) := by
    intro argument result coeffects other
    have swapped := @Rearranged.swapped (fieldsOf "func") [] [(textNode "coeffects", coeffects)]
      (textNode "arg", argument) (textNode "result", result) (show "arg" ≠ "result" by decide)
    have added := @Rearranged.added (fieldsOf "func") [(textNode "result", result)]
      [(textNode "arg", argument), (textNode "coeffects", coeffects)]
      (textNode "note", listNode []) (by decide)
    have repeated := @Rearranged.repeated (fieldsOf "func")
      [(textNode "result", result), (textNode "note", listNode []), (textNode "arg", argument),
        (textNode "coeffects", coeffects)] [] (textNode "arg", other) (textNode "arg", argument)
      (by simp) rfl
    have aliased := fun anchor value => @Revised.value (fieldsOf "func") 1 []
      [(textNode "note", listNode []), (textNode "arg", argument),
        (textNode "coeffects", coeffects), (textNode "arg", other)]
      (textNode "result") value (.alias anchor value) (.aliased anchor value)
    exact .tail (.tail (.tail (.tail (.single (.entries (by decide) swapped))
      (.entries (by decide) added)) (.entries (by decide) repeated)) (aliased "result" result))
      (aliased "again" (.alias "result" result))
  have enclosed : ∀ value value', Revised (fieldsOf "func") value value' →
      Revised [] (formNode "func" value) (formNode "func" value') :=
    fun value value' => @Revised.value [] 1 [] [] (textNode "func") value value'
  have revisions : Relation.ReflTransGen (Revised []) (typeNode type) node :=
    .tail (Relation.ReflTransGen.lift (formNode "func") enclosed _ _ (inside _ _ _ _))
      (.aliased "whole" _)
  have decoded := decoding_undoes_node_form.1 type node (by decide) revisions
  have decodedCall := decoding_undoes_node_form.2.1 call (.alias "call" (coeffectNode call))
    (by decide) (.single (.aliased "call" _))
  exact ⟨⟨decoding_undoes_node_form.2.2.1 node type decoded, revisions, decoded⟩,
    decoding_undoes_node_form.2.2.2 _ call decodedCall, decodedCall⟩

end Problem

end CoeffectSolver
