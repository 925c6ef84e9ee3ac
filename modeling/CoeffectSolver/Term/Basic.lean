/-!
Types annotated with coeffects.

A coeffect says what a computation requires of its context. Coeffects annotate function arrows, once
for the place of declaration and once for the place of call, and comonadic types. An implicit
parameter in turn carries the type of its payload, so that types and coeffects are defined together.

Both kinds of term have a gap, `absent`, where a term could stand and none was given.
-/

namespace CoeffectSolver

mutual

/-- A structural type, annotated with coeffects. -/
inductive Ty where
  /-- No type was given. -/
  | absent
  /-- A type variable. -/
  | var (name : String)
  /-- A named ground type. -/
  | prim (name : String)
  /-- A tuple of any arity. -/
  | tuple (elements : List Ty)
  /-- A function type with the requirements of its declaration and of its call. -/
  | arrow (declaration call : Coeffect) (argument result : Ty)
  /-- A type that is used in a context meeting a requirement. -/
  | comonad (requirement : Coeffect) (inner : Ty)

/-- A requirement on the context of a computation. What it means is up to an analysis. -/
inductive Coeffect where
  /-- No coeffect was given. -/
  | absent
  /-- The value is used as it is. -/
  | use
  /-- The value is not used. -/
  | ignore
  /-- A position that takes part in no constraint. -/
  | unconstrained
  /-- A number of past versions of a value is needed. -/
  | past (steps : UInt64)
  /-- An implicit parameter has to be in scope; the type of its payload may be absent. -/
  | param (name : String) (payload : Ty)
  /-- A coeffect variable. -/
  | var (name : String)
  /-- The requirements of two computations that share a context. -/
  | merge (left right : Coeffect)
  /-- A context divided between two computations. -/
  | split (left right : Coeffect)
  /-- The requirements of two computations that run one after the other. -/
  | seq (left right : Coeffect)

end

instance : Inhabited Ty := ⟨.absent⟩

instance : Inhabited Coeffect := ⟨.absent⟩

/-- Whether a coeffect marks a position that takes part in no constraint. -/
def Coeffect.isUnconstrained : Coeffect → Bool
  | .unconstrained => true
  | _ => false

end CoeffectSolver
