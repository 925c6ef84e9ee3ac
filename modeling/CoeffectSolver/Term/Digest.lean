import CoeffectSolver.Term.Basic

/-!
Sixty-four-bit digests of terms.

A digest absorbs the bytes of a tag and then the digests of the immediate subterms, lowest byte
first; each byte is combined by exclusive or and the sum is then multiplied by a fixed prime. A
missing coeffect below a term counts as zero, and a missing payload is left out. No other type may be
missing below a term: such a term is malformed and has no digest, and the zero that stands for the
gap in it is a placeholder.
-/

namespace CoeffectSolver

namespace Digest

/-- The state before any byte was absorbed. -/
def start : UInt64 := 14695981039346656037

/-- The factor that spreads each byte over the state. -/
def prime : UInt64 := 1099511628211

/-- Absorbs one byte. -/
def absorb (state : UInt64) (byte : UInt8) : UInt64 := (state ^^^ byte.toUInt64) * prime

/-- Absorbs the eight bytes of a word, lowest byte first. -/
def absorbWord (state word : UInt64) : UInt64 :=
  ([0, 8, 16, 24, 32, 40, 48, 56] : List UInt64).foldl
    (fun state offset => absorb state (word >>> offset).toUInt8) state

/-- The digest of a tag followed by the digests of the subterms. -/
def ofParts (tag : String) (parts : List UInt64) : UInt64 :=
  parts.foldl absorbWord (tag.toUTF8.data.foldl absorb start)

end Digest

mutual

/-- The digest of a type in which no type but payloads is missing. -/
def Ty.digest : Ty → UInt64
  | .absent => 0
  | .var name => Digest.ofParts ("TypeVar" ++ name) []
  | .prim name => Digest.ofParts ("Primitive" ++ name) []
  | .tuple elements => Digest.ofParts "Tuple" (Ty.digests elements)
  | .arrow declaration call argument result =>
      Digest.ofParts "FnType"
        [declaration.digest, call.digest, argument.digest, result.digest]
  | .comonad requirement inner => Digest.ofParts "Comonad" [requirement.digest, inner.digest]

/-- The digests of the elements of a tuple. -/
def Ty.digests : List Ty → List UInt64
  | [] => []
  | first :: rest => first.digest :: Ty.digests rest

/-- The digest of a coeffect. -/
def Coeffect.digest : Coeffect → UInt64
  | .absent => 0
  | .use => Digest.ofParts "Use" []
  | .ignore => Digest.ofParts "Ignore" []
  | .unconstrained => Digest.ofParts "NoCoeffect" []
  | .past steps => Digest.ofParts "Past" [steps]
  | .param name payload =>
      match payload with
      | .absent => Digest.ofParts ("ImplicitParam" ++ name) []
      | known => Digest.ofParts ("ImplicitParam" ++ name) [known.digest]
  | .var name => Digest.ofParts ("CoeffectVar" ++ name) []
  | .merge left right => Digest.ofParts "Merge" [left.digest, right.digest]
  | .split left right => Digest.ofParts "Split" [left.digest, right.digest]
  | .seq left right => Digest.ofParts "Seq" [left.digest, right.digest]

end

/-- The digest of a type that is there. -/
def Ty.digest? : Ty → Option UInt64
  | .absent => none
  | type => some type.digest

/-- The digest of a coeffect that is there. -/
def Coeffect.digest? : Coeffect → Option UInt64
  | .absent => none
  | coeffect => some coeffect.digest

end CoeffectSolver
