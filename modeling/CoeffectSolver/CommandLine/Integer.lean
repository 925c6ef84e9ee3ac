/-!
Integers as they are written on a command line.

An integer has an optional sign and may be given in another base by a leading `0b`, `0o`, `0x` or a
plain `0` for octal digits. Underscores may stand between digits and after the base.
-/

namespace CoeffectSolver.CommandLine

/-- Why a text is not an integer of a word's size. -/
inductive IntegerFault where
  | malformed
  | outOfRange
  deriving DecidableEq, Repr

/-- The wording of a fault. -/
def IntegerFault.message : IntegerFault → String
  | .malformed => "invalid syntax"
  | .outOfRange => "value out of range"

/-- The number of values of a word, which no magnitude may reach. -/
def magnitudeLimit : Nat := 18446744073709551616

/-- The magnitude that only a negative integer may reach, and none may exceed. -/
def signLimit : Nat := 9223372036854775808

/-- The value of a letter or decimal digit as a digit. -/
def digitValue? (character : Char) : Option Nat :=
  let code := character.toNat
  if 48 ≤ code ∧ code ≤ 57 then some (code - 48)
  else if 97 ≤ code ∧ code ≤ 122 then some (code - 87)
  else if 65 ≤ code ∧ code ≤ 90 then some (code - 55)
  else none

/-- Splits the base off the digits of a number. -/
def splitBase : List Char → Nat × List Char
  | '0' :: 'b' :: digit :: rest => (2, digit :: rest)
  | '0' :: 'B' :: digit :: rest => (2, digit :: rest)
  | '0' :: 'o' :: digit :: rest => (8, digit :: rest)
  | '0' :: 'O' :: digit :: rest => (8, digit :: rest)
  | '0' :: 'x' :: digit :: rest => (16, digit :: rest)
  | '0' :: 'X' :: digit :: rest => (16, digit :: rest)
  | '0' :: rest => (8, rest)
  | digits => (10, digits)

/-- Reads digits of a base, passing over underscores. The first fault met decides. -/
def readDigits (base : Nat) (value : Nat) : List Char → Except IntegerFault Nat
  | [] => .ok value
  | '_' :: rest => readDigits base value rest
  | character :: rest =>
      match digitValue? character with
      | none => .error .malformed
      | some digit =>
          if base ≤ digit then .error .malformed
          else if magnitudeLimit ≤ value * base + digit then .error .outOfRange
          else readDigits base (value * base + digit) rest

/-- What the character before an underscore was. -/
inductive Previous where
  | digit
  | underscore
  | other
  deriving DecidableEq

/-- Whether every underscore stands between two digits. -/
def underscoresBetween (hexadecimal : Bool) (previous : Previous) : List Char → Bool
  | [] => previous != .underscore
  | character :: rest =>
      if character.isDigit || hexadecimal && (digitValue? character).any (fun digit => digit < 16)
      then underscoresBetween hexadecimal .digit rest
      else if character == '_' then
        previous == .digit && underscoresBetween hexadecimal .underscore rest
      else previous != .underscore && underscoresBetween hexadecimal .other rest

/-- Whether the underscores of an unsigned number stand where they may. -/
def underscoresPlaced : List Char → Bool
  | '0' :: marker :: rest =>
      if marker == 'b' || marker == 'B' || marker == 'o' || marker == 'O' then
        underscoresBetween false .digit rest
      else if marker == 'x' || marker == 'X' then underscoresBetween true .digit rest
      else underscoresBetween false .other ('0' :: marker :: rest)
  | digits => underscoresBetween false .other digits

/-- Reads a number without a sign. -/
def readMagnitude (characters : List Char) : Except IntegerFault Nat :=
  if characters.isEmpty then .error .malformed
  else
    let (base, digits) := splitBase characters
    match readDigits base 0 digits with
    | .error fault => .error fault
    | .ok value =>
        if digits.contains '_' && !underscoresPlaced characters then .error .malformed
        else .ok value

/-- Reads an integer that fits into a signed word. -/
def readInteger (text : String) : Except IntegerFault Int := do
  let (negative, characters) :=
    match text.toList with
    | '+' :: rest => (false, rest)
    | '-' :: rest => (true, rest)
    | characters => (false, characters)
  let magnitude ← readMagnitude characters
  if negative then
    if signLimit < magnitude then throw .outOfRange
    pure (-(magnitude : Int))
  else
    if signLimit ≤ magnitude then throw .outOfRange
    pure magnitude

end CoeffectSolver.CommandLine
