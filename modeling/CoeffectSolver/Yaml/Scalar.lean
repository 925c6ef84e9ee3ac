import CoeffectSolver.Yaml.Glyph

/-!
Scalars: plain ones and those between quotes.

A single line break inside a scalar is folded into a space and further ones are kept. Scalars are
read one character at a time; what was read but not yet taken over is kept as a gap. Whether more
can be read is made sure of a few characters ahead: one behind the next within a word, and three
behind the first of a word, where a document boundary may stand.
-/

namespace CoeffectSolver.Yaml

/-- Separators that were read but not yet taken over into a scalar. -/
inductive Gap where
  /-- Blanks within a line, last one first. -/
  | blanks (characters : List Char)
  /-- A line break, if one is to be folded, and the breaks after it, last one first. -/
  | breaks (first : Option Char) (further : List Char)
  deriving DecidableEq, Repr

namespace Gap

/-- The gap between two adjacent characters. -/
def none : Gap := .blanks []

/-- Whether a gap reaches across lines. -/
def crossesLines : Gap → Bool
  | .blanks _ => false
  | .breaks _ _ => true

/-- Whether a gap has any width. -/
def isNone : Gap → Bool
  | .blanks characters => characters.isEmpty
  | .breaks _ _ => false

/-- Adds a separator to a gap. Blanks around line breaks are dropped. -/
def add (character : Char) : Gap → Gap
  | .blanks characters =>
      if isBreak character then .breaks (some (keptBreak character)) []
      else .blanks (character :: characters)
  | .breaks first further =>
      if isBreak character then .breaks first (keptBreak character :: further)
      else .breaks first further

/-- What a gap contributes to a scalar, last character first. -/
def folded : Gap → List Char
  | .blanks characters => characters
  | .breaks (some '\n') [] => [' ']
  | .breaks (some '\n') further => further
  | .breaks (some first) further => further ++ [first]
  | .breaks Option.none further => further

end Gap

/-- A scalar that was read, and what follows it. -/
structure ScalarRead where
  text : String
  /-- Whether the separators after a plain scalar reached across lines. -/
  crossedLines : Bool
  rest : List Glyph

/-- The scalar of which a text was read, last character first, before a gap. -/
def ScalarRead.ofReversed (text : List Char) (gap : Gap) (rest : List Glyph) : ScalarRead where
  text := String.ofList text.reverse
  crossedLines := gap.crossesLines
  rest

/-- The characters that end a plain scalar inside brackets. -/
def endsPlainInFlow (character : Char) : Bool :=
  character == ',' || character == '?' || character == '[' || character == ']' ||
    character == '\x7b' || character == '\x7d'

/-- Reads a plain scalar. `fresh` says that separators, or nothing at all, come before the next
character; `started` that some character was read. In a block, lines that go on with the scalar have
to reach the given indentation, and no tab may stand before it. -/
def readPlain (inFlow : Bool) (indentation : Nat) (fresh started : Bool) (gap : Gap)
    (text : List Char) : List Glyph → Option ScalarRead
  | [] => none
  | glyph :: rest =>
      if isBlank glyph.char || isBreak glyph.char then
        if gap.crossesLines && glyph.char == '\t' && decide (glyph.column < indentation) then none
        else readPlain inFlow indentation true started (gap.add glyph.char) text rest
      else if fresh && started && !inFlow && decide (glyph.column < indentation) then
        some (.ofReversed text gap (glyph :: rest))
      else if fresh && !reaches 4 (glyph :: rest) then none
      else if (fresh && (atDocumentBoundary (glyph :: rest) || glyph.char == '#')) ||
          glyph.char == endCharacter || (glyph.char == ':' && separatorNext rest) ||
          (inFlow && endsPlainInFlow glyph.char) then
        some (.ofReversed text gap (glyph :: rest))
      else if !reaches 2 rest then none
      else
        readPlain inFlow indentation false true Gap.none (glyph.char :: (gap.folded ++ text)) rest

/-- The value of a hexadecimal digit. -/
def hexValue? (character : Char) : Option Nat :=
  let code := character.toNat
  if 48 ≤ code ∧ code ≤ 57 then some (code - 48)
  else if 97 ≤ code ∧ code ≤ 102 then some (code - 87)
  else if 65 ≤ code ∧ code ≤ 70 then some (code - 55)
  else none

/-- What the character after a backslash stands for. -/
inductive Escape where
  | character (code : Nat)
  | digits (count : Nat)

/-- The escapes of a scalar between double quotes. -/
def escape? (character : Char) : Option Escape :=
  match character with
  | '0' => some (.character 0)
  | 'a' => some (.character 7)
  | 'b' => some (.character 8)
  | 't' => some (.character 9)
  | '\t' => some (.character 9)
  | 'n' => some (.character 10)
  | 'v' => some (.character 11)
  | 'f' => some (.character 12)
  | 'r' => some (.character 13)
  | 'e' => some (.character 27)
  | ' ' => some (.character 32)
  | '"' => some (.character 34)
  | '\'' => some (.character 39)
  | '\\' => some (.character 92)
  | 'N' => some (.character 0x85)
  | '_' => some (.character 0xa0)
  | 'L' => some (.character 0x2028)
  | 'P' => some (.character 0x2029)
  | 'x' => some (.digits 2)
  | 'u' => some (.digits 4)
  | 'U' => some (.digits 8)
  | _ => none

/-- How far a scalar between quotes has been read. -/
inductive QuotedMode where
  | ordinary
  /-- A quote was read that may be the first of two. -/
  | afterQuote
  /-- A backslash was read. -/
  | afterBackslash
  /-- Some digits of a character code are left to read. -/
  | inCode (digits : Nat) (value : Nat)

/-- The character with a code, which may not be half of a pair. -/
def characterOfCode? (code : Nat) : Option Char :=
  if code.isValidChar then some (Char.ofNat code) else none

/-- Reads the rest of a scalar between quotes. -/
def readQuoted (double : Bool) (mode : QuotedMode) (gap : Gap) (text : List Char) :
    List Glyph → Option ScalarRead
  | [] => none
  | glyph :: rest =>
      match mode with
      | .afterQuote =>
          if glyph.char == '\'' then
            if !reaches 2 rest then none
            else readQuoted double .ordinary Gap.none ('\'' :: text) rest
          else
            some (.ofReversed text Gap.none (glyph :: rest))
      | .afterBackslash =>
          if isBreak glyph.char then readQuoted double .ordinary (.breaks none []) text rest
          else
            match escape? glyph.char with
            | some (.character code) =>
                if reaches 2 rest then
                  readQuoted double .ordinary Gap.none (Char.ofNat code :: text) rest
                else none
            | some (.digits count) =>
                if reaches count rest then readQuoted double (.inCode count 0) Gap.none text rest
                else none
            | none => none
      | .inCode digits value =>
          match hexValue? glyph.char with
          | none => none
          | some digit =>
              let value := value * 16 + digit
              if digits ≤ 1 then
                match characterOfCode? value with
                | some character =>
                    if reaches 2 rest then
                      readQuoted double .ordinary Gap.none (character :: text) rest
                    else none
                | none => none
              else readQuoted double (.inCode (digits - 1) value) Gap.none text rest
      | .ordinary =>
          if isBlank glyph.char || isBreak glyph.char then
            readQuoted double .ordinary (gap.add glyph.char) text rest
          else if !gap.isNone && !reaches 4 (glyph :: rest) then none
          else if atDocumentBoundary (glyph :: rest) || glyph.char == endCharacter then none
          else
            let text := gap.folded ++ text
            if double then
              if glyph.char == '"' then
                some (.ofReversed text Gap.none rest)
              else if glyph.char == '\\' then readQuoted double .afterBackslash Gap.none text rest
              else if !reaches 2 rest then none
              else readQuoted double .ordinary Gap.none (glyph.char :: text) rest
            else if glyph.char == '\'' then readQuoted double .afterQuote Gap.none text rest
            else if !reaches 2 rest then none
            else readQuoted double .ordinary Gap.none (glyph.char :: text) rest

/-- Whether a character may occur in the name of an anchor. -/
def isAnchorCharacter (character : Char) : Bool :=
  character.isAlphanum || character == '_' || character == '-'

/-- Whether a character may follow the name of an anchor. -/
def endsAnchor (character : Char) : Bool :=
  isSeparator character || character == '?' || character == ':' || character == ',' ||
    character == ']' || character == '\x7d' || character == '%' || character == '@' ||
    character.toNat == 96

/-- Reads the name of an anchor. -/
def readAnchor (name : List Char) : List Glyph → Option (String × List Glyph)
  | [] => none
  | glyph :: rest =>
      if isAnchorCharacter glyph.char then readAnchor (glyph.char :: name) rest
      else if !name.isEmpty && endsAnchor glyph.char then
        some (String.ofList name.reverse, glyph :: rest)
      else none

end CoeffectSolver.Yaml
