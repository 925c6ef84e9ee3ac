/-!
Characters of a YAML text with their places.

A text is read in blocks. A block with a character that no text may contain cannot be read at all,
so that a list of placed characters either ends with the mark of the end of the text or stops short
in front of such a block. `reaches` tells the two apart: whoever looks at a character that stands
behind the last one that can be read, fails.
-/

namespace CoeffectSolver.Yaml

/-- Whether a character ends a line. -/
def isBreak (character : Char) : Bool :=
  character == '\n' || character == '\r' || character.toNat == 0x85 ||
    character.toNat == 0x2028 || character.toNat == 0x2029

/-- Whether a character separates words within a line. -/
def isBlank (character : Char) : Bool := character == ' ' || character == '\t'

/-- The character that marks the end of a text. -/
def endCharacter : Char := '\x00'

/-- Whether a line or the text ends at a character. -/
def endsLine (character : Char) : Bool := isBreak character || character == endCharacter

/-- Whether a character is blank, a line break or the end of the text. -/
def isSeparator (character : Char) : Bool := isBlank character || endsLine character

/-- The mark that may stand in front of a text. -/
def byteOrderMark : Char := '\ufeff'

/-- Whether a character may occur in a text. -/
def isAllowed (character : Char) : Bool :=
  let code := character.toNat
  character == '\t' || character == '\n' || character == '\r' ||
    decide (0x20 ≤ code ∧ code ≤ 0x7e) || code == 0x85 ||
    decide (0xa0 ≤ code ∧ code ≤ 0xfffd) || decide (0x10000 ≤ code)

/-- A character and its place. Lines are counted from one, columns and indices from zero. A line
feed after a carriage return counts towards the index and belongs to the same line break. -/
structure Glyph where
  char : Char
  line : Nat
  column : Nat
  index : Nat
  /-- Whether this is a carriage return with a line feed. -/
  double : Bool
  deriving DecidableEq, Repr

/-- What a line break is kept as when lines are folded. -/
def keptBreak (character : Char) : Char :=
  if character.toNat == 0x2028 || character.toNat == 0x2029 then character else '\n'

namespace Glyph

/-- Whether a line break takes one byte for each of its characters. -/
def isNarrowBreak (glyph : Glyph) : Bool := glyph.char == '\n' || glyph.char == '\r'

/-- The number of characters of a glyph. -/
def width (glyph : Glyph) : Nat := if glyph.double then 2 else 1

end Glyph

/-- Gives places to the characters of a text that can be read, and marks the end of the text if it
is reached. -/
def placeGlyphs (whole : Bool) : (line column index : Nat) → List Char → List Glyph
  | line, column, index, [] =>
      if whole then [{ char := endCharacter, line, column, index, double := false }] else []
  | line, column, index, '\r' :: '\n' :: rest =>
      { char := '\n', line, column, index, double := true } ::
        placeGlyphs whole (line + 1) 0 (index + 2) rest
  | line, column, index, character :: rest =>
      { char := character, line, column, index, double := false } ::
        if isBreak character then placeGlyphs whole (line + 1) 0 (index + 1) rest
        else placeGlyphs whole line (column + 1) (index + 1) rest

/-- The number of bytes that are read at a time. -/
def blockSize : Nat := 512

/-- The characters of a text up to the first block that cannot be read, and whether there is none
such. A block holds as many whole characters as fit into it; `used` bytes of the current one are
taken by the characters in `block`, and `earlier` holds those of the blocks before it, both last
character first. -/
def readable (used : Nat) (block earlier : List Char) : List Char → List Char × Bool
  | [] => ((block ++ earlier).reverse, true)
  | character :: rest =>
      let fits := decide (used + character.utf8Size ≤ blockSize)
      let earlier := if fits then earlier else block ++ earlier
      let block := if fits then block else []
      let used := if fits then used + character.utf8Size else character.utf8Size
      if isAllowed character then readable used (character :: block) earlier rest
      else (earlier.reverse, false)

/-- The number of characters in the first block of a text. -/
def firstBlock (used : Nat) : List Char → Nat
  | [] => 0
  | character :: rest =>
      if used + character.utf8Size ≤ blockSize then firstBlock (used + character.utf8Size) rest + 1
      else 0

/-- Whether characters can be read up to a number of them, or the text ends before. -/
def reaches : (count : Nat) → List Glyph → Bool
  | 0, _ => true
  | _ + 1, [] => false
  | count + 1, glyph :: rest => glyph.char == endCharacter || reaches count rest

/-- Whether the next character is a separator. -/
def separatorNext : List Glyph → Bool
  | [] => true
  | glyph :: _ => isSeparator glyph.char

/-- Whether a line starts with a character three times, followed by a separator. -/
def marksDocument (character : Char) : List Glyph → Bool
  | first :: second :: third :: rest =>
      first.column == 0 && first.char == character && second.char == character &&
        third.char == character && separatorNext rest
  | _ => false

/-- Whether a document boundary stands here. -/
def atDocumentBoundary (glyphs : List Glyph) : Bool :=
  marksDocument '-' glyphs || marksDocument '.' glyphs

/-- A text whose characters have places. -/
structure Script where
  glyphs : List Glyph
  /-- The number of characters at the front among which a line loses its first character. That
  happens in the first block of a text that has a byte order mark after the one it may start
  with. -/
  clipped : Nat

/-- Gives places to the characters of a text. A text without any is taken for an empty line, and a
byte order mark in front is passed over. -/
def Script.ofText (text : String) : Script :=
  let characters := if text.isEmpty then ['\n'] else text.toList
  let marked := characters.head? == some byteOrderMark
  let used := if marked then byteOrderMark.utf8Size else 0
  let characters := if marked then characters.tail else characters
  let (known, whole) := readable used [] [] characters
  { glyphs := placeGlyphs whole 1 0 0 known
    clipped := if characters.head? == some byteOrderMark then firstBlock used characters else 0 }

end CoeffectSolver.Yaml
