import CoeffectSolver.Yaml.Glyph

/-!
What stands between tokens: blanks, line breaks and comments.

A comment that stands behind a token on its line ends with the line. From any other comment, the
next one is looked for across blank lines, but only so far; all that lies between the two is then
passed over, tabs included, which are not separators everywhere else.
-/

namespace CoeffectSolver.Yaml

/-- How far from where it stands a comment is looked for. -/
def commentReach : Nat := 512

/-- Passes over the rest of a line. -/
def skipLine : List Glyph → Option (List Glyph)
  | [] => none
  | glyph :: rest => if endsLine glyph.char then some (glyph :: rest) else skipLine rest

/-- Passes over blanks and a comment behind them, within the line. Without a comment nothing is
passed over, and all is left at `start`. -/
def skipTrailingComment (start : List Glyph) (offset : Nat) : List Glyph → Option (List Glyph)
  | [] => if commentReach ≤ offset then some start else none
  | glyph :: rest =>
      if commentReach ≤ offset then some start
      else if isBlank glyph.char then skipTrailingComment start (offset + 1) rest
      else if glyph.char == '#' then skipLine rest
      else some start

/-- How far comments on their own have been read. -/
inductive CommentMode where
  /-- Inside a comment. -/
  | inside
  /-- On the way from the end of a comment, at `start`, to the next one. -/
  | after (offset : Nat) (start : List Glyph)

/-- Passes over comments, up to the end of the line of the last one. A line break of more than one
byte hides what follows it. -/
def skipComments (mode : CommentMode) : List Glyph → Option (List Glyph)
  | [] =>
      match mode with
      | .inside => none
      | .after offset start => if commentReach ≤ offset then some start else none
  | glyph :: rest =>
      match mode with
      | .inside =>
          if glyph.isNarrowBreak then skipComments (.after glyph.width (glyph :: rest)) rest
          else if isBreak glyph.char then
            if reaches 1 rest then some (glyph :: rest) else none
          else if glyph.char == endCharacter then some (glyph :: rest)
          else skipComments .inside rest
      | .after offset start =>
          if commentReach ≤ offset then some start
          else if isBlank glyph.char then skipComments (.after (offset + 1) start) rest
          else if glyph.isNarrowBreak then skipComments (.after (offset + glyph.width) start) rest
          else if isBreak glyph.char && decide (offset + 1 < commentReach) then
            if reaches 1 rest then some start else none
          else if glyph.char == '#' then skipComments .inside rest
          else some start

/-- Passes over spaces, and tabs where they are separators. -/
def skipBlanks (tabs : Bool) : List Glyph → Option (List Glyph)
  | [] => none
  | glyph :: rest =>
      if glyph.char == ' ' || (tabs && glyph.char == '\t') then skipBlanks tabs rest
      else some (glyph :: rest)

/-- The place of a glyph after the line break at the end of a line was lost. -/
def Glyph.joined (line : Nat) (glyph : Glyph) : Glyph :=
  if glyph.line = line + 1 then { glyph with line, column := glyph.column + 1 }
  else { glyph with line := glyph.line - 1 }

/-- Passes over the first character of a line among the first `clipped` characters. If that is a
line break, the next line is joined to this one. -/
def clipLine (clipped : Nat) : List Glyph → List Glyph
  | [] => []
  | glyph :: rest =>
      if glyph.column == 0 && decide (glyph.index < clipped) then
        if glyph.double then { glyph with column := 1, index := glyph.index + 1 } :: rest
        else if isBreak glyph.char then rest.map (Glyph.joined glyph.line)
        else rest
      else glyph :: rest

/-- Passes over all separators in front of a token, and tells whether a key may start there. Outside
brackets a key may start on a new line, and where a key may start a tab is no separator. Every line
takes one step. -/
def skipSeparators (clipped : Nat) (inFlow : Bool) :
    (steps : Nat) → (keyAllowed : Bool) → List Glyph → Option (List Glyph × Bool)
  | 0, _, _ => none
  | steps + 1, keyAllowed, glyphs => do
      let glyphs ← skipBlanks (inFlow || !keyAllowed) (clipLine clipped glyphs)
      let glyphs ←
        match glyphs with
        | [] => none
        | glyph :: rest =>
            if glyph.char == '#' then skipComments .inside rest else some (glyph :: rest)
      match glyphs with
      | [] => none
      | glyph :: rest =>
          if isBreak glyph.char then
            if reaches 1 rest then skipSeparators clipped inFlow steps (keyAllowed || !inFlow) rest
            else none
          else some (glyph :: rest, keyAllowed)

end CoeffectSolver.Yaml
