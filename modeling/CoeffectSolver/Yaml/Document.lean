import CoeffectSolver.Yaml.Lexer
import CoeffectSolver.Yaml.Node

/-!
The first document of a YAML text.

Only the first document is read. A fault in what follows it is noticed only as far as the lexer has
to look ahead.
-/

namespace CoeffectSolver.Yaml

/-- The progress of reading a document. -/
structure Reader where
  lexer : Lexer
  /-- The nodes that anchors stand at, latest first. -/
  anchors : List (String × Node)

/-- A computation that reads on, or fails. -/
abbrev Reading := StateT Reader Option

namespace Reading

/-- The text is malformed. -/
def fail {α : Type} : Reading α := fun _ => none

/-- The next token. -/
def peek : Reading Token := fun reader => do
  let (token, lexer) ← reader.lexer.peek
  pure (token, { reader with lexer })

/-- Passes over the next token. -/
def advance : Reading Unit :=
  modify fun reader => { reader with lexer := reader.lexer.advance }

/-- The slot in which the next token waits. -/
def slot : Reading Nat := fun reader => some (reader.lexer.queue.slot, reader)

/-- The line of the token in the slot where a token was taken from: that of the token itself, unless
another one has moved there since. -/
def lineInSlot (slot : Nat) (token : Token) : Reading Nat := fun reader =>
  some (((reader.lexer.queue.inSlot? slot).getD token).line, reader)

/-- The node that an anchor stands at. -/
def anchored (name : String) : Reading Node := fun reader => do
  let anchor ← reader.anchors.find? (fun anchor => anchor.1 == name)
  pure (anchor.2, reader)

/-- Lets a name stand for a node from here on. -/
def define (name : Option String) (node : Node) : Reading Unit :=
  match name with
  | none => pure ()
  | some name => modify fun reader => { reader with anchors := (name, node) :: reader.anchors }

/-- Reads a collection with an anchor. Inside the collection the name stands for an empty one of its
kind; afterwards it stands for the collection, unless it was given to something inside. -/
def collection (name : Option String) (empty : Node) (read : Reading Node) : Reading Node := do
  match name with
  | none => read
  | some anchor =>
      let known := (← get).anchors.length
      define name empty
      let node ← read
      modify fun reader =>
        { reader with
          anchors := reader.anchors.set (reader.anchors.length - 1 - known) (anchor, node) }
      pure node

/-- A missing value. -/
def emptyScalar (line : Nat) : Node := .scalar line "" true

mutual

/-- Reads a node. Block collections are read only where `block` holds, and sequences whose dashes
are not indented only where `indentless` holds. -/
def node (block indentless : Bool) : (fuel : Nat) → Reading Node
  | 0 => fail
  | fuel + 1 => do
      let token ← peek
      match token.kind with
      | .alias name =>
          let target ← anchored name
          advance
          pure (.alias name target)
      | .anchor name =>
          advance
          content block indentless (some name) token.line fuel
      | _ => content block indentless none token.line fuel

/-- Reads what an anchor may stand in front of. -/
def content (block indentless : Bool) (anchor : Option String) (line : Nat) :
    (fuel : Nat) → Reading Node
  | 0 => fail
  | fuel + 1 => do
      let token ← peek
      let missing : Reading Node := do
        if anchor.isNone then fail
        define anchor (emptyScalar line)
        pure (emptyScalar line)
      match token.kind with
      | .scalar text plain =>
          advance
          define anchor (.scalar line text plain)
          pure (.scalar line text plain)
      | .flowSequenceStart =>
          advance
          collection anchor (.sequence line []) (.sequence line <$> flowItems true fuel)
      | .flowMappingStart =>
          advance
          collection anchor (.mapping line []) (.mapping line <$> flowEntries true fuel)
      | .blockEntry =>
          if indentless then
            collection anchor (.sequence line []) (.sequence line <$> indentlessItems fuel)
          else missing
      | .blockSequenceStart =>
          if block then
            advance
            collection anchor (.sequence line []) (.sequence line <$> blockItems fuel)
          else missing
      | .blockMappingStart =>
          if block then
            advance
            collection anchor (.mapping line []) (.mapping line <$> blockEntries fuel)
          else missing
      | _ => missing

/-- Reads a node unless one of some tokens comes next, in which case the value is missing. -/
def nodeUnless (stops : List TokenKind) (missingLine : Nat) (block indentless : Bool) :
    (fuel : Nat) → Reading Node
  | 0 => fail
  | fuel + 1 => do
      let token ← peek
      if stops.contains token.kind then pure (emptyScalar missingLine)
      else node block indentless fuel

/-- Reads the items of a block sequence and its end. -/
def blockItems : (fuel : Nat) → Reading (List Node)
  | 0 => fail
  | fuel + 1 => do
      let token ← peek
      match token.kind with
      | .blockEntry =>
          advance
          let item ← nodeUnless [.blockEntry, .blockEnd] token.line true false fuel
          let items ← blockItems fuel
          pure (item :: items)
      | .blockEnd =>
          advance
          pure []
      | _ => fail

/-- Reads the items of a sequence that is not indented further than the mapping around it. -/
def indentlessItems : (fuel : Nat) → Reading (List Node)
  | 0 => fail
  | fuel + 1 => do
      let token ← peek
      match token.kind with
      | .blockEntry =>
          advance
          let item ←
            nodeUnless [.blockEntry, .key, .value, .blockEnd] token.line true false fuel
          let items ← indentlessItems fuel
          pure (item :: items)
      | _ => pure []

/-- Reads the entries of a block mapping and its end. -/
def blockEntries : (fuel : Nat) → Reading (List (Node × Node))
  | 0 => fail
  | fuel + 1 => do
      let token ← peek
      match token.kind with
      | .key =>
          advance
          let key ← nodeUnless [.key, .value, .blockEnd] token.line true true fuel
          let next ← peek
          let value ←
            if next.kind = .value then do
              advance
              nodeUnless [.key, .value, .blockEnd] next.line true true fuel
            else pure (emptyScalar next.line)
          let entries ← blockEntries fuel
          pure ((key, value) :: entries)
      | .blockEnd =>
          advance
          pure []
      | _ => fail

/-- Reads the items of a sequence in brackets and the closing bracket. -/
def flowItems (first : Bool) : (fuel : Nat) → Reading (List Node)
  | 0 => fail
  | fuel + 1 => do
      let next ← peek
      if next.kind = .flowSequenceEnd then
        advance
        pure []
      else
        if !first then
          if next.kind ≠ .flowEntry then fail
          advance
        let token ← peek
        match token.kind with
        | .flowSequenceEnd =>
            advance
            pure []
        | .key =>
            advance
            let entry ← flowPair fuel
            let items ← flowItems false fuel
            pure (.mapping token.line [entry] :: items)
        | _ =>
            let item ← node false false fuel
            let items ← flowItems false fuel
            pure (item :: items)

/-- Reads a key and a value that stand as an item of a sequence in brackets. -/
def flowPair : (fuel : Nat) → Reading (Node × Node)
  | 0 => fail
  | fuel + 1 => do
      let token ← peek
      let key ←
        if [TokenKind.value, .flowEntry, .flowSequenceEnd].contains token.kind then do
          advance
          pure (emptyScalar token.line)
        else node false false fuel
      let next ← peek
      if next.kind = .value then
        let place ← slot
        advance
        let following ← peek
        if [TokenKind.flowEntry, .flowSequenceEnd].contains following.kind then
          let line ← lineInSlot place next
          pure (key, emptyScalar line)
        else
          let value ← node false false fuel
          pure (key, value)
      else pure (key, emptyScalar next.line)

/-- Reads the entries of a mapping in braces and the closing brace. -/
def flowEntries (first : Bool) : (fuel : Nat) → Reading (List (Node × Node))
  | 0 => fail
  | fuel + 1 => do
      let next ← peek
      if next.kind = .flowMappingEnd then
        advance
        pure []
      else
        if !first then
          if next.kind ≠ .flowEntry then fail
          advance
        let token ← peek
        match token.kind with
        | .flowMappingEnd =>
            advance
            pure []
        | .key =>
            advance
            let following ← peek
            let key ←
              nodeUnless [.value, .flowEntry, .flowMappingEnd] following.line false false fuel
            let next ← peek
            let value ←
              if next.kind = .value then do
                advance
                let following ← peek
                nodeUnless [.flowEntry, .flowMappingEnd] following.line false false fuel
              else pure (emptyScalar next.line)
            let entries ← flowEntries false fuel
            pure ((key, value) :: entries)
        | _ =>
            let key ← node false false fuel
            let next ← peek
            let entries ← flowEntries false fuel
            pure ((key, emptyScalar next.line) :: entries)

end

/-- Reads the content of the first document and looks at what follows it; a text may have none. -/
def document (fuel : Nat) : Reading (Option Node) := do
  let _ ← peek
  advance
  let token ← peek
  match token.kind with
  | .streamEnd => pure none
  | .documentStart =>
      advance
      let next ← peek
      let root ←
        if [TokenKind.documentStart, .documentEnd, .streamEnd].contains next.kind then
          pure (emptyScalar next.line)
        else node true false fuel
      let _ ← peek
      pure (some root)
  | _ =>
      let root ← node true false fuel
      let _ ← peek
      pure (some root)

end Reading

/-- What a YAML text holds. -/
inductive Parsed where
  /-- The text is not YAML. -/
  | malformed
  /-- There is no document. -/
  | empty
  /-- The root of the first document. -/
  | root (node : Node)

/-- Reads the first document of a text. A character brings at most a few tokens, and reading a node
goes through at most a few steps for each of them. -/
def parse (text : String) : Parsed :=
  let lexer := Lexer.start (Script.ofText text)
  match Reading.document (16 * lexer.size + 16) { lexer, anchors := [] } with
  | none => .malformed
  | some (none, _) => .empty
  | some (some node, _) => .root node

end CoeffectSolver.Yaml
