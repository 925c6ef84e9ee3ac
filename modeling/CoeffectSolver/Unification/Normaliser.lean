import CoeffectSolver.Fault.Basic
import CoeffectSolver.Names.Canonical
import CoeffectSolver.Unification.Substitution

/-!
Normal forms of types under a substitution.

Normalising replaces assigned variables, renames the variables that remain to canonical names in the
order in which they are first met, and evaluates every annotation. It works on any substitution: a
variable met again while its own assignment is being normalised is reported.
-/

namespace CoeffectSolver

namespace Normaliser

/-- The free variables met so far. The place of a variable determines its canonical name. -/
abbrev Naming := List String

/-- A computation that may meet new free variables or fail. -/
abbrev Step := StateT Naming (Except Fault)

/-- How annotations are evaluated. -/
abbrev Evaluator := Coeffect → Except Fault Coeffect

/-- The evaluator that leaves annotations as they are. -/
def identity : Evaluator := .ok

/-- The canonical name of a free variable, which takes the next place when it is met first. -/
def rename (name : String) : Step Ty := fun naming =>
  match naming.findIdx? (fun other => other == name) with
  | some place => .ok (.var (canonicalName place), naming)
  | none => .ok (.var (canonicalName naming.length), naming ++ [name])

mutual

/-- Visits a type: an evaluator replaces annotations, a computation replaces variables. Annotations
of an arrow come before its argument and result, the annotation of a comonadic type before its inner
type. -/
def visit (evaluate : Evaluator) (onVariable : String → Step Ty) : Ty → Step Ty
  | .absent => throw (.unexpected .absentType)
  | .var name => onVariable name
  | .prim name => pure (.prim name)
  | .tuple elements => do
      let elements ← visitElements evaluate onVariable elements
      pure (.tuple elements)
  | .arrow declaration call argument result => do
      let declaration ← evaluate declaration
      let call ← evaluate call
      let argument ← visit evaluate onVariable argument
      let result ← visit evaluate onVariable result
      pure (.arrow declaration call argument result)
  | .comonad requirement inner => do
      let requirement ← evaluate requirement
      let inner ← visit evaluate onVariable inner
      pure (.comonad requirement inner)

/-- Visits the elements of a tuple from left to right. -/
def visitElements (evaluate : Evaluator) (onVariable : String → Step Ty) :
    List Ty → Step (List Ty)
  | [] => pure []
  | first :: rest => do
      let first ← visit evaluate onVariable first
      let rest ← visitElements evaluate onVariable rest
      pure (first :: rest)

end

/-- Normalises a type while the assignments of the variables in `resolving` are being normalised. -/
def process (evaluate : Evaluator) (assigned : Substitution) :
    (hops : Nat) → (resolving : List String) → Ty → Step Ty
  | 0, _, type =>
      visit evaluate (fun name =>
        if assigned.contains name then throw (.unexpected (.cyclicAssignment name))
        else rename name) type
  | hops + 1, resolving, type =>
      visit evaluate (fun name =>
        match assigned.get? name with
        | some held =>
            if resolving.contains name then throw (.unexpected (.cyclicAssignment name))
            else process evaluate assigned hops (name :: resolving) held
        | none => rename name) type

end Normaliser

/-- The normal form of a type under a substitution. The hops that lead from variable to variable
without repetition are bounded by the size of the substitution. -/
def normalise (evaluate : Normaliser.Evaluator) (assigned : Substitution) (type : Ty) :
    Except Fault Ty :=
  match Normaliser.process evaluate assigned assigned.size [] type [] with
  | .ok (normal, _) => .ok normal
  | .error fault => .error fault

end CoeffectSolver
