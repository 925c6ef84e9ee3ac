import CoeffectSolver.Term.Constraint
import CoeffectSolver.Yaml.Node

/-!
Types and coeffects as YAML nodes.

A primitive type is a scalar with its name, and the coeffects without parts are scalars too. Every
other term is a mapping with a single key that names its form. Aliases may stand for any value.
-/

namespace CoeffectSolver.Problem

open Yaml (Node)

/-- Why a node is not a term. -/
inductive TermCause where
  | singleKeyExpected
  | mappingExpected (key : String)
  | keyMissing (key : String)
  | pairExpected
  | emptyType
  | typeVariableExpected
  | typesExpected
  | unknownTypeForm (form : String)
  | unknownCoeffect (text : String)
  | coeffectVariableExpected
  | stepsExpected
  | unknownCoeffectForm (form : String)
  deriving DecidableEq, Repr

/-- Why, and on which line, a node is not a term. -/
structure TermFault where
  line : Nat
  cause : TermCause
  deriving DecidableEq, Repr

/-- The wording of a cause. -/
def TermCause.message : TermCause → String
  | .singleKeyExpected => "expected a mapping with a single key"
  | .mappingExpected key => "expected a mapping with key '" ++ key ++ "'"
  | .keyMissing key => "missing key '" ++ key ++ "'"
  | .pairExpected => "expected a list of two elements"
  | .emptyType => "empty type"
  | .typeVariableExpected => "expected a type variable name"
  | .typesExpected => "expected a list of types"
  | .unknownTypeForm form => "unknown type kind '" ++ form ++ "'"
  | .unknownCoeffect text => "unknown coeffect '" ++ text ++ "'"
  | .coeffectVariableExpected => "expected a coeffect variable name"
  | .stepsExpected => "expected a natural number of past steps"
  | .unknownCoeffectForm form => "unknown coeffect kind '" ++ form ++ "'"

/-- The wording of a fault. -/
def TermFault.message (fault : TermFault) : String :=
  "line " ++ toString fault.line ++ ": " ++ fault.cause.message

/-- The fault that a node has for some cause. -/
def faultAt {α : Type} (node : Node) (cause : TermCause) : Except TermFault α :=
  .error { line := node.line, cause }

/-- A node inside another one. -/
abbrev Inside (node : Node) := { inner : Node // sizeOf inner < sizeOf node }

/-- The item of a sequence, with aliases followed. -/
def itemInside {line : Nat} {items : List Node} (item : Node) (member : item ∈ items) :
    Inside (.sequence line items) :=
  ⟨item.resolve, Nat.lt_of_le_of_lt item.sizeOf_resolve_le (Node.sizeOf_item_lt member)⟩

/-- The value of an entry of a mapping, with aliases followed. -/
def valueInside {line : Nat} {entries : List (Node × Node)} (entry : Node × Node)
    (member : entry ∈ entries) : Inside (.mapping line entries) :=
  ⟨entry.2.resolve, Nat.lt_of_le_of_lt entry.2.sizeOf_resolve_le (Node.sizeOf_value_lt member)⟩

/-- The key and the value of a mapping with exactly one entry. -/
def singleEntry : (node : Node) → Except TermFault (String × Inside node)
  | .mapping _ [entry] => .ok (entry.1.text, valueInside entry List.mem_cons_self)
  | node => faultAt node .singleKeyExpected

/-- The first entry with a key. -/
def findEntry (key : String) (entries : List (Node × Node)) :
    Option { entry : Node × Node // entry ∈ entries } :=
  match found : entries.find? (fun entry => entry.1.text == key) with
  | some entry => some ⟨entry, List.mem_of_find?_eq_some found⟩
  | none => none

/-- The value of a key in a mapping. -/
def field (key : String) : (node : Node) → Except TermFault (Inside node)
  | .mapping line entries =>
      match findEntry key entries with
      | some entry => .ok (valueInside entry.1 entry.2)
      | none => faultAt (.mapping line entries) (.keyMissing key)
  | node => faultAt node (.mappingExpected key)

/-- The two items of a sequence of two items. -/
def pair : (node : Node) → Except TermFault (Inside node × Inside node)
  | .sequence _ [first, second] =>
      .ok (itemInside first List.mem_cons_self,
        itemInside second (List.mem_cons_of_mem _ List.mem_cons_self))
  | node => faultAt node .pairExpected

/-- The items of a sequence. -/
def items : (node : Node) → Except TermFault (List (Inside node))
  | .sequence _ items => .ok (items.attach.map (fun item => itemInside item.1 item.2))
  | node => faultAt node .typesExpected

/-- The text of a scalar. -/
def scalarText? : Node → Option String
  | .scalar _ text _ => some text
  | _ => none

/-- The text of a scalar that is not empty. -/
def nonemptyText? (node : Node) : Option String :=
  (scalarText? node).filter (fun text => !text.isEmpty)

/-- A number of steps: decimal digits only, and below the size of a word. -/
def steps? : Node → Option UInt64
  | .scalar _ text _ =>
      let digits := text.toList
      if digits.isEmpty || !digits.all Char.isDigit then none
      else
        let value := digits.foldl (fun value digit => 10 * value + (digit.toNat - 48)) 0
        if value < UInt64.size then some (UInt64.ofNat value) else none
  | _ => none

mutual

/-- Reads a type from a node that is not an alias. -/
def typeOf (node : Node) : Except TermFault Ty :=
  match node with
  | .scalar line text plain =>
      if text.isEmpty then faultAt (.scalar line text plain) .emptyType else .ok (.prim text)
  | node => do
      let (form, ⟨value, _⟩) ← singleEntry node
      match form with
      | "var" =>
          match nonemptyText? value with
          | some name => pure (.var name)
          | none => faultAt value .typeVariableExpected
      | "tuple" =>
          let elements ← items value
          let elements ← elements.mapM fun ⟨element, _⟩ => typeOf element
          pure (.tuple elements)
      | "func" =>
          let ⟨argumentNode, _⟩ ← field "arg" value
          let ⟨resultNode, _⟩ ← field "result" value
          let ⟨coeffectsNode, _⟩ ← field "coeffects" value
          let argument ← typeOf argumentNode
          let result ← typeOf resultNode
          let (⟨declarationNode, _⟩, ⟨callNode, _⟩) ← pair coeffectsNode
          let declaration ← coeffectOf declarationNode
          let call ← coeffectOf callNode
          pure (.arrow declaration call argument result)
      | "comonad" =>
          let ⟨coeffectNode, _⟩ ← field "coeffect" value
          let ⟨innerNode, _⟩ ← field "inner" value
          let requirement ← coeffectOf coeffectNode
          let inner ← typeOf innerNode
          pure (.comonad requirement inner)
      | other => faultAt node (.unknownTypeForm other)
  termination_by sizeOf node
  decreasing_by all_goals omega

/-- Reads a coeffect from a node that is not an alias. -/
def coeffectOf (node : Node) : Except TermFault Coeffect :=
  match node with
  | .scalar line text plain =>
      match text with
      | "use" => .ok .use
      | "ignore" => .ok .ignore
      | "none" => .ok .unconstrained
      | other => faultAt (.scalar line text plain) (.unknownCoeffect other)
  | node => do
      let (form, ⟨value, _⟩) ← singleEntry node
      match form with
      | "var" =>
          match nonemptyText? value with
          | some name => pure (.var name)
          | none => faultAt value .coeffectVariableExpected
      | "past" =>
          match steps? value with
          | some steps => pure (.past steps)
          | none => faultAt value .stepsExpected
      | "param" =>
          match scalarText? value with
          | some name => pure (.param name .absent)
          | none =>
              let ⟨nameNode, _⟩ ← field "name" value
              let ⟨typeNode, _⟩ ← field "type" value
              let payload ← typeOf typeNode
              pure (.param nameNode.text payload)
      | "merge" =>
          let (⟨leftNode, _⟩, ⟨rightNode, _⟩) ← pair value
          let left ← coeffectOf leftNode
          let right ← coeffectOf rightNode
          pure (.merge left right)
      | "split" =>
          let (⟨leftNode, _⟩, ⟨rightNode, _⟩) ← pair value
          let left ← coeffectOf leftNode
          let right ← coeffectOf rightNode
          pure (.split left right)
      | "seq" =>
          let (⟨leftNode, _⟩, ⟨rightNode, _⟩) ← pair value
          let left ← coeffectOf leftNode
          let right ← coeffectOf rightNode
          pure (.seq left right)
      | other => faultAt node (.unknownCoeffectForm other)
  termination_by sizeOf node
  decreasing_by all_goals omega

end

/-- Reads a type from a node, which may be an alias. -/
def decodeType (node : Node) : Except TermFault Ty := typeOf node.resolve

/-- Reads a coeffect from a node, which may be an alias. -/
def decodeCoeffect (node : Node) : Except TermFault Coeffect := coeffectOf node.resolve

/-- Reads a constraint between types: a sequence of its two sides. -/
def decodeConstraint (node : Node) : Except TermFault TypeConstraint := do
  let (left, right) ← pair node.resolve
  let left ← decodeType left.1
  let right ← decodeType right.1
  pure { left, right }

end CoeffectSolver.Problem
