/-!
The sequence of canonical variable names: the letters of the alphabet, then `a0`, `a1` and so on.
-/

namespace CoeffectSolver

/-- The letters that serve as the first canonical names. -/
def canonicalLetters : List String :=
  ["a", "b", "c", "d", "e", "f", "g", "h", "i", "j", "k", "l", "m",
    "n", "o", "p", "q", "r", "s", "t", "u", "v", "w", "x", "y", "z"]

/-- The canonical name at a position: a letter, or after the letters the letter a with a number. -/
def canonicalName (position : Nat) : String :=
  match canonicalLetters[position]? with
  | some letter => letter
  | none => "a" ++ toString (position - canonicalLetters.length)

end CoeffectSolver
