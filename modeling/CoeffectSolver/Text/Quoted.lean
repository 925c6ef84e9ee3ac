import CoeffectSolver.Text.Printable

/-!
Texts between double quotes.

Quotes and backslashes are escaped, as are all characters that are not printable: the common control
characters by a letter, other characters by their code in hexadecimal digits.
-/

namespace CoeffectSolver.Text

/-- The hexadecimal digit of a number below sixteen. -/
def hexDigit (value : Nat) : Char :=
  if value < 10 then Char.ofNat (48 + value) else Char.ofNat (87 + value)

/-- A number as a fixed count of hexadecimal digits, highest digit first. -/
def hexadecimal : (digits : Nat) → (value : Nat) → List Char
  | 0, _ => []
  | digits + 1, value => hexadecimal digits (value / 16) ++ [hexDigit (value % 16)]

/-- How a character that is not printable is written. -/
def escapeControl (character : Char) : List Char :=
  match character.toNat with
  | 7 => ['\\', 'a']
  | 8 => ['\\', 'b']
  | 9 => ['\\', 't']
  | 10 => ['\\', 'n']
  | 11 => ['\\', 'v']
  | 12 => ['\\', 'f']
  | 13 => ['\\', 'r']
  | code =>
      if code < 0x20 ∨ code = 0x7f then ['\\', 'x'] ++ hexadecimal 2 code
      else if code < 0x10000 then ['\\', 'u'] ++ hexadecimal 4 code
      else ['\\', 'U'] ++ hexadecimal 8 code

/-- How a character is written inside a quoted text. -/
def escapeCharacter (character : Char) : List Char :=
  if character = '"' ∨ character = '\\' then ['\\', character]
  else if isPrintable character then [character]
  else escapeControl character

/-- A text between double quotes. -/
def quoted (text : String) : String :=
  "\"" ++ String.ofList (text.toList.flatMap escapeCharacter) ++ "\""

/-- A list of texts, each between double quotes, inside square brackets. -/
def quotedList (texts : List String) : String :=
  "[" ++ String.intercalate " " (texts.map quoted) ++ "]"

end CoeffectSolver.Text
