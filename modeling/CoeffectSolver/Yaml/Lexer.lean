import CoeffectSolver.Yaml.Scalar
import CoeffectSolver.Yaml.Separation
import CoeffectSolver.Yaml.Token

/-!
Splitting a YAML text into tokens.

Indentation is turned into tokens that open and close block collections. Whether a scalar, alias or
bracketed collection is the key of a mapping shows only when a colon follows it, on the same line
and not too far away; the tokens that announce the key are then put in front of it. Tokens are read
when they are asked for: `settle` reads on until a few tokens wait and the first of them cannot
become a key any more, so that a fault further on in the text goes unnoticed.
-/

namespace CoeffectSolver.Yaml

/-- The start of what may turn out to be a key. -/
structure KeyCandidate where
  /-- Whether it may still become a key. -/
  possible : Bool
  /-- Whether nothing but a key may stand here. -/
  required : Bool
  /-- The number of the token that starts the candidate. -/
  token : Nat
  /-- The place at which it starts. -/
  line : Nat
  column : Nat
  index : Nat

namespace KeyCandidate

/-- The candidate of a bracket in which none was met. It has the number of the bracket's token. -/
def absent (token : Nat) : KeyCandidate where
  possible := false
  required := false
  token
  line := 0
  column := 0
  index := 0

/-- The number of characters after the start of a key within which its colon has to stand. -/
def reach : Nat := 1024

/-- Whether a place is too far away for a colon of the candidate. -/
def outOfReach (candidate : KeyCandidate) (place : Glyph) : Bool :=
  decide (candidate.line < place.line) || decide (candidate.index + reach < place.index)

end KeyCandidate

/-- The progress of splitting a text into tokens. -/
structure Lexer where
  rest : List Glyph
  queue : TokenQueue
  /-- The indentation of the innermost block collection, or -1 outside any. -/
  indentation : Int
  /-- The indentations around it, innermost first, and their number. -/
  outerIndentations : List Int
  depth : Nat
  /-- Whether a key may start here. -/
  keyAllowed : Bool
  /-- The candidates outside brackets and inside each bracket that is open, outermost first. -/
  candidates : Array KeyCandidate
  /-- The tokens that wait for their candidates: the number of each, and how many brackets its
  candidate stands in. -/
  waiting : List (Nat × Nat)
  /-- The number of characters of the text. -/
  size : Nat
  /-- The number of characters at the front among which lines are clipped. Once a token starts too
  close behind them, no more are. -/
  clipped : Nat

namespace Lexer

/-- The state before the first token of a text. -/
def start (script : Script) : Lexer where
  rest := script.glyphs
  queue := TokenQueue.empty.push { kind := .streamStart, line := 1 }
  indentation := -1
  outerIndentations := []
  depth := 0
  keyAllowed := true
  candidates := #[.absent 0]
  waiting := []
  size := script.glyphs.length
  clipped := script.clipped

/-- Whether the current place is inside brackets. -/
def inFlow (lexer : Lexer) : Bool := decide (1 < lexer.candidates.size)

/-- Appends a token. -/
def emit (lexer : Lexer) (kind : TokenKind) (line : Nat) : Lexer :=
  { lexer with queue := lexer.queue.push { kind, line } }

/-- How deep brackets, and block collections, may be nested. -/
def depthLimit : Nat := 10000

/-- The block collections that end at a column: how many, and the indentations that remain. -/
def closedAt (column : Int) (indentation : Int) : List Int → Nat × Int × List Int
  | [] => if column < indentation then (1, -1, []) else (0, indentation, [])
  | outer :: further =>
      if column < indentation then
        let (count, remaining) := closedAt column outer further
        (count + 1, remaining)
      else (0, indentation, outer :: further)

/-- Closes the block collections that are indented further than a column. -/
def closeBlocks (lexer : Lexer) (column : Int) (line : Nat) : Lexer :=
  if lexer.inFlow then lexer
  else
    let (count, indentation, outerIndentations) :=
      closedAt column lexer.indentation lexer.outerIndentations
    { lexer with
      indentation, outerIndentations
      depth := lexer.depth - count
      queue := count.repeat (fun queue => queue.push { kind := .blockEnd, line }) lexer.queue }

/-- Makes a column the indentation of a new block collection, unless it is indented that far. The
token that opens the collection goes in front of the token with a number. -/
def openBlock (lexer : Lexer) (line column : Nat) (number : Nat) (kind : TokenKind) :
    Option Lexer :=
  if lexer.inFlow || decide ((column : Int) ≤ lexer.indentation) then some lexer
  else if depthLimit ≤ lexer.depth then none
  else
    some { lexer with
      queue := lexer.queue.insert number { kind, line }
      indentation := column
      outerIndentations := lexer.indentation :: lexer.outerIndentations
      depth := lexer.depth + 1 }

/-- Lets a token no longer wait for its candidate. -/
def release (lexer : Lexer) (number : Nat) : Lexer :=
  { lexer with waiting := lexer.waiting.filter (fun entry => entry.1 != number) }

/-- Makes a candidate impossible. -/
def ruleOut (lexer : Lexer) (brackets : Nat) : Lexer :=
  { lexer with
    candidates := lexer.candidates.modify brackets
      (fun candidate => { candidate with possible := false }) }

/-- Gives up the candidate inside the innermost bracket, which fails if nothing but a key may stand
there. -/
def dropCandidate (lexer : Lexer) : Option Lexer :=
  match lexer.candidates.back? with
  | none => some lexer
  | some candidate =>
      if !candidate.possible then some lexer
      else if candidate.required then none
      else some ((lexer.ruleOut (lexer.candidates.size - 1)).release candidate.token)

/-- Makes the next token a candidate for a key, if one may start here. -/
def saveCandidate (lexer : Lexer) (glyph : Glyph) : Option Lexer :=
  if lexer.keyAllowed then do
    let lexer ← lexer.dropCandidate
    let brackets := lexer.candidates.size - 1
    let number := lexer.queue.nextNumber
    let candidate : KeyCandidate := {
      possible := true
      required := !lexer.inFlow && lexer.indentation == (glyph.column : Int)
      token := number
      line := glyph.line
      column := glyph.column
      index := glyph.index }
    let unsettled := lexer.waiting.filter
      (fun entry => decide (lexer.queue.taken ≤ entry.1) && entry.1 != number)
    pure { lexer with
      candidates := lexer.candidates.modify brackets (fun _ => candidate)
      waiting := (number, brackets) :: unsettled }
  else some lexer

/-- Whether the candidate inside a number of brackets can still become a key at the current place.
One that is out of reach cannot, which fails if nothing but a key may stand there. -/
def candidateHolds (lexer : Lexer) (brackets : Nat) : Option (Bool × Lexer) :=
  match lexer.candidates[brackets]?, lexer.rest.head? with
  | some candidate, some place =>
      if !candidate.possible then some (false, lexer)
      else if candidate.outOfReach place then
        if candidate.required then none else some (false, lexer.ruleOut brackets)
      else some (true, lexer)
  | _, _ => some (false, lexer)

/-- A document boundary. -/
def boundary (lexer : Lexer) (glyph : Glyph) (kind : TokenKind) : Option Lexer := do
  let lexer ← (lexer.closeBlocks (-1) glyph.line).dropCandidate
  pure ({ lexer with keyAllowed := false, rest := lexer.rest.drop 3 }.emit kind glyph.line)

/-- The end of the text, which is at the start of a line of its own. -/
def endOfStream (lexer : Lexer) (glyph : Glyph) : Option Lexer := do
  let line := if glyph.column = 0 then glyph.line else glyph.line + 1
  let lexer ← (lexer.closeBlocks (-1) line).dropCandidate
  pure ({ lexer with keyAllowed := false, rest := [{ glyph with line, column := 0 }] }.emit
    .streamEnd line)

/-- An opening bracket. -/
def openBracket (lexer : Lexer) (glyph : Glyph) (rest : List Glyph) (kind : TokenKind) :
    Option Lexer := do
  let lexer ← lexer.saveCandidate glyph
  if depthLimit < lexer.candidates.size then none
  pure ({ lexer with
    candidates := lexer.candidates.push (.absent lexer.queue.nextNumber)
    keyAllowed := true, rest }.emit kind glyph.line)

/-- A closing bracket. The token of the last candidate inside no longer waits; if there was none
inside, that is the opening bracket itself. -/
def closeBracket (lexer : Lexer) (glyph : Glyph) (rest : List Glyph) (kind : TokenKind) :
    Option Lexer := do
  let lexer ← lexer.dropCandidate
  let lexer :=
    match lexer.candidates.back? with
    | some candidate =>
        if lexer.inFlow then
          { lexer.release candidate.token with candidates := lexer.candidates.pop }
        else lexer
    | none => lexer
  pure ({ lexer with keyAllowed := false, rest }.emit kind glyph.line)

/-- A comma inside brackets. -/
def comma (lexer : Lexer) (glyph : Glyph) (rest : List Glyph) : Option Lexer := do
  let lexer ← lexer.dropCandidate
  pure ({ lexer with keyAllowed := true, rest }.emit .flowEntry glyph.line)

/-- A dash that starts an item of a block sequence. -/
def dash (lexer : Lexer) (glyph : Glyph) (rest : List Glyph) : Option Lexer := do
  if !lexer.inFlow && !lexer.keyAllowed then none
  let lexer ←
    lexer.openBlock glyph.line glyph.column lexer.queue.nextNumber .blockSequenceStart
  let lexer ← lexer.dropCandidate
  pure ({ lexer with keyAllowed := true, rest }.emit .blockEntry glyph.line)

/-- A question mark that announces a key. -/
def questionMark (lexer : Lexer) (glyph : Glyph) (rest : List Glyph) : Option Lexer := do
  if !lexer.inFlow && !lexer.keyAllowed then none
  let lexer ←
    lexer.openBlock glyph.line glyph.column lexer.queue.nextNumber .blockMappingStart
  let lexer ← lexer.dropCandidate
  pure ({ lexer with keyAllowed := !lexer.inFlow, rest }.emit .key glyph.line)

/-- A colon behind a candidate, which becomes a key. -/
def colonOfKey (lexer : Lexer) (candidate : KeyCandidate) (glyph : Glyph) (rest : List Glyph) :
    Option Lexer := do
  let announced :=
    { lexer with
      queue := lexer.queue.insert candidate.token { kind := .key, line := candidate.line } }
  let lexer ←
    announced.openBlock candidate.line candidate.column candidate.token .blockMappingStart
  let lexer := (lexer.ruleOut (lexer.candidates.size - 1)).release candidate.token
  pure ({ lexer with keyAllowed := false, rest }.emit .value glyph.line)

/-- A colon between a key and its value. -/
def colon (lexer : Lexer) (glyph : Glyph) (rest : List Glyph) : Option Lexer := do
  let (holds, lexer) ← lexer.candidateHolds (lexer.candidates.size - 1)
  match lexer.candidates.back? with
  | some candidate =>
      if holds then lexer.colonOfKey candidate glyph rest
      else
        if !lexer.inFlow && !lexer.keyAllowed then none
        let lexer ←
          lexer.openBlock glyph.line glyph.column lexer.queue.nextNumber .blockMappingStart
        pure ({ lexer with keyAllowed := !lexer.inFlow, rest }.emit .value glyph.line)
  | none => none

/-- An anchor or an alias. -/
def named (lexer : Lexer) (glyph : Glyph) (rest : List Glyph) (kind : String → TokenKind) :
    Option Lexer := do
  let lexer ← lexer.saveCandidate glyph
  let (name, rest) ← readAnchor [] rest
  pure ({ lexer with keyAllowed := false, rest }.emit (kind name) glyph.line)

/-- A scalar between quotes. -/
def quotedScalar (lexer : Lexer) (glyph : Glyph) (rest : List Glyph) (double : Bool) :
    Option Lexer := do
  let lexer ← lexer.saveCandidate glyph
  if !reaches 4 rest then none
  let read ← readQuoted double .ordinary Gap.none [] rest
  pure ({ lexer with keyAllowed := false, rest := read.rest }.emit
    (.scalar read.text false) glyph.line)

/-- A plain scalar. After one that was followed by a line break a key may start. -/
def plainScalar (lexer : Lexer) (glyph : Glyph) : Option Lexer := do
  let lexer ← lexer.saveCandidate glyph
  let read ← readPlain lexer.inFlow (lexer.indentation + 1).toNat true false Gap.none [] lexer.rest
  pure ({ lexer with keyAllowed := read.crossedLines, rest := read.rest }.emit
    (.scalar read.text true) glyph.line)

/-- The characters that start no plain scalar. -/
def isIndicator (character : Char) : Bool :=
  ['-', '?', ':', ',', '[', ']', '\x7b', '\x7d', '#', '&', '*', '!', '|', '>', '\'', '"', '%', '@',
    '\x60'].contains character

/-- Whether a plain scalar may start with a character. -/
def startsPlain (inFlow : Bool) (character : Char) (rest : List Glyph) : Bool :=
  (!isSeparator character && !isIndicator character) ||
    (character == '-' && !(rest.head?.any (fun next => isBlank next.char))) ||
    (!inFlow && (character == '?' || character == ':') && !separatorNext rest)

/-- Passes over a comment behind a token on its line. -/
def passComment (lexer : Lexer) : Option Lexer := do
  let rest ← skipTrailingComment lexer.rest 0 lexer.rest
  pure { lexer with rest }

/-- Reads a token that starts with a character, and the tokens that it brings along. No comment is
looked for behind a dash, nor behind a plain scalar that was followed by a line break. -/
def fetchToken (lexer : Lexer) (glyph : Glyph) (after : List Glyph) : Option Lexer :=
  let inFlow := lexer.inFlow
  if glyph.char == '[' then lexer.openBracket glyph after .flowSequenceStart >>= passComment
  else if glyph.char == '\x7b' then lexer.openBracket glyph after .flowMappingStart >>= passComment
  else if glyph.char == ']' then lexer.closeBracket glyph after .flowSequenceEnd >>= passComment
  else if glyph.char == '\x7d' then lexer.closeBracket glyph after .flowMappingEnd >>= passComment
  else if glyph.char == ',' then lexer.comma glyph after >>= passComment
  else if glyph.char == '-' && separatorNext after then lexer.dash glyph after
  else if glyph.char == '?' && (inFlow || separatorNext after) then
    lexer.questionMark glyph after >>= passComment
  else if glyph.char == ':' && (inFlow || separatorNext after) then
    lexer.colon glyph after >>= passComment
  else if glyph.char == '*' then lexer.named glyph after .alias >>= passComment
  else if glyph.char == '&' then lexer.named glyph after .anchor >>= passComment
  else if glyph.char == '\'' then lexer.quotedScalar glyph after false >>= passComment
  else if glyph.char == '"' then lexer.quotedScalar glyph after true >>= passComment
  else if startsPlain inFlow glyph.char after then do
    let lexer ← lexer.plainScalar glyph
    if lexer.keyAllowed then pure lexer else lexer.passComment
  else none

/-- Reads the next token, and the tokens that it brings along. -/
def fetch (lexer : Lexer) : Option Lexer := do
  let (rest, keyAllowed) ←
    skipSeparators lexer.clipped lexer.inFlow (lexer.size + 1) lexer.keyAllowed lexer.rest
  match rest with
  | [] => none
  | glyph :: after =>
      let left := (lexer.rest.head?.map Glyph.line).getD glyph.line
      let clipped := if glyph.index + 4 ≤ lexer.clipped then lexer.clipped else 0
      let lexer := { lexer with rest, keyAllowed, clipped }.closeBlocks glyph.column left
      if !reaches 4 rest then none
      else if glyph.char == endCharacter then lexer.endOfStream glyph
      else if marksDocument '-' rest then lexer.boundary glyph .documentStart
      else if marksDocument '.' rest then lexer.boundary glyph .documentEnd
      else lexer.fetchToken glyph after

/-- How many tokens have to wait before one can be taken. -/
def lookahead : Nat := 3

/-- Whether the first token that waits can be taken: enough tokens wait, and it is not the start of
a candidate that can still become a key. -/
def isSettled (lexer : Lexer) : Option (Bool × Lexer) :=
  if lexer.queue.tokens.size < lookahead then some (false, lexer)
  else
    match lexer.waiting.lookup lexer.queue.taken with
    | none => some (true, lexer)
    | some brackets => do
        let (holds, lexer) ← lexer.candidateHolds brackets
        pure (!holds, lexer)

/-- Reads tokens until the first one that waits can be taken. Every token takes at least one
character, except that the end of the text may be read as often as needed. -/
def settle : (steps : Nat) → Lexer → Option Lexer
  | 0, _ => none
  | steps + 1, lexer => do
      let (settled, lexer) ← lexer.isSettled
      if settled then pure lexer
      else
        let lexer ← lexer.fetch
        settle steps lexer

/-- The first token that waits, once it can be taken. -/
def peek (lexer : Lexer) : Option (Token × Lexer) := do
  let lexer ← lexer.settle (lexer.size + lookahead + 1)
  let token ← lexer.queue.tokens[0]?
  pure (token, lexer)

/-- Takes the first token that waits. -/
def advance (lexer : Lexer) : Lexer := { lexer with queue := lexer.queue.tail }

end Lexer
end CoeffectSolver.Yaml
