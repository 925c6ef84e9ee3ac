import CoeffectSolver.Names.NameMap
import CoeffectSolver.Term.Equality

/-!
Substitutions of types for type variables.

A substitution is triangular: the types it assigns may mention assigned variables again. Following
an assigned variable to its type is a hop. Where no variable leads back to itself, a chain of hops
meets each assigned variable at most once, so the size of a substitution bounds the hops that are
needed. Annotations are left as they are.
-/

namespace CoeffectSolver

mutual

/-- Replaces the type variables outside annotations. -/
def Ty.replace (image : String → Ty) : Ty → Ty
  | .absent => .absent
  | .var name => image name
  | .prim name => .prim name
  | .tuple elements => .tuple (Ty.replaceElements image elements)
  | .arrow declaration call argument result =>
      .arrow declaration call (argument.replace image) (result.replace image)
  | .comonad requirement inner => .comonad requirement (inner.replace image)

/-- Replaces the type variables in each element of a tuple. -/
def Ty.replaceElements (image : String → Ty) : List Ty → List Ty
  | [] => []
  | first :: rest => first.replace image :: Ty.replaceElements image rest

end

mutual

/-- Whether a type variable outside annotations passes a test. -/
def Ty.anyVar (test : String → Bool) : Ty → Bool
  | .absent => false
  | .var name => test name
  | .prim _ => false
  | .tuple elements => Ty.anyVarElements test elements
  | .arrow _ _ argument result => argument.anyVar test || result.anyVar test
  | .comonad _ inner => inner.anyVar test

/-- Whether a type variable in some element of a tuple passes a test. -/
def Ty.anyVarElements (test : String → Bool) : List Ty → Bool
  | [] => false
  | first :: rest => first.anyVar test || Ty.anyVarElements test rest

end

/-- What each assigned type variable stands for. -/
abbrev Substitution := NameMap Ty

namespace Substitution

/-- Replaces assigned variables by their types, following at most a number of hops. -/
def resolve (assigned : Substitution) : (hops : Nat) → Ty → Ty
  | 0, type => type
  | hops + 1, type =>
      type.replace fun name =>
        match assigned.get? name with
        | some held => assigned.resolve hops held
        | none => .var name

/-- Replaces assigned variables by their types until none is left. -/
def apply (assigned : Substitution) (type : Ty) : Ty := assigned.resolve assigned.size type

/-- Whether a variable is met in a type, following at most a number of hops. -/
def meets (assigned : Substitution) (name : String) : (hops : Nat) → Ty → Bool
  | 0, type => type.anyVar (fun other => other == name)
  | hops + 1, type =>
      type.anyVar fun other =>
        other == name ||
          match assigned.get? other with
          | some held => assigned.meets name hops held
          | none => false

/-- Whether a variable occurs in a type once assigned variables are looked through. -/
def occursIn (assigned : Substitution) (name : String) (type : Ty) : Bool :=
  assigned.meets name assigned.size type

/-- The same substitution with every assigned type fully replaced. -/
def resolved (assigned : Substitution) : Substitution := assigned.mapValues assigned.apply

end Substitution
end CoeffectSolver
