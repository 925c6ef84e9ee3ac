import CoeffectSolver.Term.Basic

/-! The coeffects inside a coeffect. Its parts are what it is composed of. The payload type of a
parameter may hold coeffects too; they are subterms of the parameter, but no parts of it. -/

namespace CoeffectSolver

/-- A coeffect and the coeffects that it is composed of. The payload type of a parameter is not looked
into. -/
def Coeffect.parts : Coeffect → List Coeffect
  | .merge left right => .merge left right :: (left.parts ++ right.parts)
  | .split left right => .split left right :: (left.parts ++ right.parts)
  | .seq left right => .seq left right :: (left.parts ++ right.parts)
  | coeffect => [coeffect]

mutual

/-- A coeffect and all coeffects inside it, at any depth and in payload types too. -/
def Coeffect.subterms : Coeffect → List Coeffect
  | .merge left right => .merge left right :: (left.subterms ++ right.subterms)
  | .split left right => .split left right :: (left.subterms ++ right.subterms)
  | .seq left right => .seq left right :: (left.subterms ++ right.subterms)
  | .param name payload => .param name payload :: payload.coeffects
  | coeffect => [coeffect]

def Ty.coeffects : Ty → List Coeffect
  | .tuple elements => Ty.coeffectsOfElements elements
  | .arrow declaration call argument result =>
      declaration.subterms ++ call.subterms ++ (argument.coeffects ++ result.coeffects)
  | .comonad requirement inner => requirement.subterms ++ inner.coeffects
  | _ => []

def Ty.coeffectsOfElements : List Ty → List Coeffect
  | [] => []
  | first :: rest => first.coeffects ++ Ty.coeffectsOfElements rest

end

namespace Coeffect

/-- The coeffects in the payload types of the parameters that a coeffect is composed of. -/
def inPayloads : Coeffect → List Coeffect
  | .param _ payload => payload.coeffects
  | .merge left right => left.inPayloads ++ right.inPayloads
  | .split left right => left.inPayloads ++ right.inPayloads
  | .seq left right => left.inPayloads ++ right.inPayloads
  | _ => []

private theorem mem_subterms_of_composite {composite left right part : Coeffect}
    (subterms : composite.subterms = composite :: (left.subterms ++ right.subterms))
    (parts : composite.parts = composite :: (left.parts ++ right.parts))
    (payloads : composite.inPayloads = left.inPayloads ++ right.inPayloads)
    (onLeft : part ∈ left.subterms ↔ part ∈ left.parts ∨ part ∈ left.inPayloads)
    (onRight : part ∈ right.subterms ↔ part ∈ right.parts ∨ part ∈ right.inPayloads) :
    part ∈ composite.subterms ↔ part ∈ composite.parts ∨ part ∈ composite.inPayloads := by
  simp only [subterms, parts, payloads, List.mem_cons, List.mem_append, onLeft, onRight, or_assoc,
    or_left_comm]

/-- The subterms of a coeffect are its parts and what the payload types of its parts hold. -/
theorem mem_subterms_iff {part : Coeffect} : (coeffect : Coeffect) →
    (part ∈ coeffect.subterms ↔ part ∈ coeffect.parts ∨ part ∈ coeffect.inPayloads)
  | .absent | .use | .ignore | .unconstrained | .past _ | .var _ => by
      simp [subterms, parts, inPayloads]
  | .param name payload => by simp [subterms, parts, inPayloads]
  | .merge left right => mem_subterms_of_composite (by rw [subterms]) rfl rfl
      (mem_subterms_iff left) (mem_subterms_iff right)
  | .split left right => mem_subterms_of_composite (by rw [subterms]) rfl rfl
      (mem_subterms_iff left) (mem_subterms_iff right)
  | .seq left right => mem_subterms_of_composite (by rw [subterms]) rfl rfl
      (mem_subterms_iff left) (mem_subterms_iff right)

end Coeffect

end CoeffectSolver
