/-!
The tree of a YAML document.

An alias keeps the name of the anchor it refers to beside the node that the anchor stands at.
-/

namespace CoeffectSolver.Yaml

/-- A node of a document, with the line that it starts on. -/
inductive Node where
  /-- A text; `plain` says that it stands without quotes. -/
  | scalar (line : Nat) (text : String) (plain : Bool)
  | sequence (line : Nat) (items : List Node)
  | mapping (line : Nat) (entries : List (Node × Node))
  | alias (anchor : String) (target : Node)

instance : Inhabited Node := ⟨.scalar 1 "" true⟩

namespace Node

/-- The node that a chain of aliases leads to. -/
def resolve : Node → Node
  | .alias _ target => target.resolve
  | .scalar line text plain => .scalar line text plain
  | .sequence line items => .sequence line items
  | .mapping line entries => .mapping line entries

/-- The line of the node that a chain of aliases leads to. -/
def line : Node → Nat
  | .scalar line _ _ => line
  | .sequence line _ => line
  | .mapping line _ => line
  | .alias _ target => target.line

/-- The text of a node as a key: that of a scalar, the anchor of an alias, and nothing for others.
-/
def text : Node → String
  | .scalar _ text _ => text
  | .alias anchor _ => anchor
  | .sequence _ _ => ""
  | .mapping _ _ => ""

/-- Whether a text without quotes means that there is no value. -/
def isNullText (text : String) : Bool :=
  text == "" || text == "~" || text == "null" || text == "Null" || text == "NULL"

/-- Whether a node means that there is no value. -/
def isNull : Node → Bool
  | .scalar _ text plain => plain && isNullText text
  | .sequence _ _ => false
  | .mapping _ _ => false
  | .alias _ target => target.isNull

/-- Following aliases does not lead to a larger node. -/
theorem sizeOf_resolve_le (node : Node) : sizeOf node.resolve ≤ sizeOf node := by
  induction node using resolve.induct with
  | case1 anchor target ih =>
      rw [resolve]
      have larger : sizeOf (Node.alias anchor target) = 1 + sizeOf anchor + sizeOf target := rfl
      omega
  | case2 => exact Nat.le_refl _
  | case3 => exact Nat.le_refl _
  | case4 => exact Nat.le_refl _

/-- An item of a sequence is smaller than the sequence. -/
theorem sizeOf_item_lt {line : Nat} {items : List Node} {item : Node} (member : item ∈ items) :
    sizeOf item < sizeOf (Node.sequence line items) := by
  have below := List.sizeOf_lt_of_mem member
  have larger : sizeOf (Node.sequence line items) = 1 + sizeOf line + sizeOf items :=
    Node.sequence.sizeOf_spec line items
  omega

/-- A value of a mapping is smaller than the mapping. -/
theorem sizeOf_value_lt {line : Nat} {entries : List (Node × Node)} {entry : Node × Node}
    (member : entry ∈ entries) : sizeOf entry.2 < sizeOf (Node.mapping line entries) := by
  have below := List.sizeOf_lt_of_mem member
  have parts : sizeOf entry = 1 + sizeOf entry.1 + sizeOf entry.2 := rfl
  have larger : sizeOf (Node.mapping line entries) = 1 + sizeOf line + sizeOf entries :=
    Node.mapping.sizeOf_spec line entries
  omega

end Node
end CoeffectSolver.Yaml
