import CoeffectSolver.Term.Digest

/-!
Equality of terms.

Two terms are compared by digest first, which settles most comparisons of different terms, and then
constructor by constructor. `Ty.same_iff_eq` and `Coeffect.same_iff_eq` say that the comparison by
constructors is equality of terms.
-/

namespace CoeffectSolver

mutual

/-- Whether two types have the same constructors and names throughout. -/
def Ty.same : Ty → Ty → Bool
  | .absent, .absent => true
  | .var first, .var second => first == second
  | .prim first, .prim second => first == second
  | .tuple first, .tuple second => Ty.sameElements first second
  | .arrow declaration call argument result, .arrow declaration' call' argument' result' =>
      declaration.same declaration' && call.same call' &&
        argument.same argument' && result.same result'
  | .comonad requirement inner, .comonad requirement' inner' =>
      requirement.same requirement' && inner.same inner'
  | _, _ => false

/-- Whether two lists of types have the same length and the same members at each place. -/
def Ty.sameElements : List Ty → List Ty → Bool
  | [], [] => true
  | first :: rest, first' :: rest' => first.same first' && Ty.sameElements rest rest'
  | _, _ => false

/-- Whether two coeffects have the same constructors, names and numbers throughout. -/
def Coeffect.same : Coeffect → Coeffect → Bool
  | .absent, .absent => true
  | .use, .use => true
  | .ignore, .ignore => true
  | .unconstrained, .unconstrained => true
  | .past steps, .past steps' => steps == steps'
  | .param name payload, .param name' payload' => name == name' && payload.same payload'
  | .var name, .var name' => name == name'
  | .merge left right, .merge left' right' => left.same left' && right.same right'
  | .split left right, .split left' right' => left.same left' && right.same right'
  | .seq left right, .seq left' right' => left.same left' && right.same right'
  | _, _ => false

end

mutual

theorem Ty.same_iff_eq : ∀ first second : Ty, first.same second = true ↔ first = second
  | .absent, second => by cases second <;> simp [Ty.same]
  | .var name, second => by cases second <;> simp [Ty.same]
  | .prim name, second => by cases second <;> simp [Ty.same]
  | .tuple elements, second => by
      cases second <;> simp [Ty.same]
      exact Ty.sameElements_iff_eq elements _
  | .arrow declaration call argument result, second => by
      cases second <;> simp [Ty.same]
      rw [Coeffect.same_iff_eq declaration, Coeffect.same_iff_eq call,
        Ty.same_iff_eq argument, Ty.same_iff_eq result]
      simp [and_assoc]
  | .comonad requirement inner, second => by
      cases second <;> simp [Ty.same]
      rw [Coeffect.same_iff_eq requirement, Ty.same_iff_eq inner]

theorem Ty.sameElements_iff_eq :
    ∀ first second : List Ty, Ty.sameElements first second = true ↔ first = second
  | [], second => by cases second <;> simp [Ty.sameElements]
  | head :: rest, second => by
      cases second <;> simp [Ty.sameElements]
      rw [Ty.same_iff_eq head, Ty.sameElements_iff_eq rest]

theorem Coeffect.same_iff_eq :
    ∀ first second : Coeffect, first.same second = true ↔ first = second
  | .absent, second => by cases second <;> simp [Coeffect.same]
  | .use, second => by cases second <;> simp [Coeffect.same]
  | .ignore, second => by cases second <;> simp [Coeffect.same]
  | .unconstrained, second => by cases second <;> simp [Coeffect.same]
  | .past steps, second => by cases second <;> simp [Coeffect.same]
  | .param name payload, second => by
      cases second <;> simp [Coeffect.same]
      rw [Ty.same_iff_eq payload]
      exact fun _ => Iff.rfl
  | .var name, second => by cases second <;> simp [Coeffect.same]
  | .merge left right, second => by
      cases second <;> simp [Coeffect.same]
      rw [Coeffect.same_iff_eq left, Coeffect.same_iff_eq right]
  | .split left right, second => by
      cases second <;> simp [Coeffect.same]
      rw [Coeffect.same_iff_eq left, Coeffect.same_iff_eq right]
  | .seq left right, second => by
      cases second <;> simp [Coeffect.same]
      rw [Coeffect.same_iff_eq left, Coeffect.same_iff_eq right]

end

instance : DecidableEq Ty := fun first second =>
  decidable_of_iff (first.same second = true) (Ty.same_iff_eq first second)

instance : DecidableEq Coeffect := fun first second =>
  decidable_of_iff (first.same second = true) (Coeffect.same_iff_eq first second)

/-- Whether two types are the same term, by digest and then by constructors. -/
def Ty.equal (first second : Ty) : Bool := first.digest == second.digest && first.same second

/-- Whether two coeffects are the same term, by digest and then by constructors. -/
def Coeffect.equal (first second : Coeffect) : Bool :=
  first.digest == second.digest && first.same second

end CoeffectSolver
