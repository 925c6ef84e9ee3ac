import CoeffectSolver.Term.Basic

/-!
How types and coeffects are written.

Arrows associate to the right and bind weaker than comonadic annotations; parentheses stand only
where the surroundings bind tighter than the term. Names of type variables can be replaced on the
way, except inside the payload of an implicit parameter.

A whole type, a coeffect anywhere and a payload may be missing. A type that lacks any other type is
malformed and has no text; what stands for the gap in it is a placeholder.
-/

namespace CoeffectSolver

/-- How tightly an arrow binds. -/
def arrowPrecedence : Nat := 10

/-- How tightly a comonadic annotation binds. -/
def comonadPrecedence : Nat := 30

/-- What is written for a missing type or coeffect. -/
def absentText : String := "<nil>"

/-- Puts parentheses around a text if they are needed. -/
def parenthesised (needed : Bool) (text : String) : String :=
  if needed then "(" ++ text ++ ")" else text

mutual

/-- Writes a type in surroundings that bind with a given strength, where no type below it but payloads
is missing. -/
def Ty.displayAt (nameOf : String → String) (outer : Nat) : Ty → String
  | .absent => absentText
  | .var name => nameOf name
  | .prim name => name
  | .tuple elements => "(" ++ Ty.displayElements nameOf elements ++ ")"
  | .arrow declaration call argument result =>
      parenthesised (decide (arrowPrecedence < outer))
        (argument.displayAt nameOf (arrowPrecedence + 1) ++
          " -[" ++ declaration.display ++ " | " ++ call.display ++ "]-> " ++
          result.displayAt nameOf arrowPrecedence)
  | .comonad requirement inner =>
      parenthesised (decide (comonadPrecedence < outer))
        ("[" ++ requirement.display ++ "]" ++ inner.displayAt nameOf comonadPrecedence)

/-- Writes the elements of a tuple, separated by commas. -/
def Ty.displayElements (nameOf : String → String) : List Ty → String
  | [] => ""
  | first :: rest => first.displayAt nameOf 0 ++ Ty.displayFurther nameOf rest

/-- Writes the elements of a tuple after the first, each after a comma. -/
def Ty.displayFurther (nameOf : String → String) : List Ty → String
  | [] => ""
  | next :: rest => ", " ++ next.displayAt nameOf 0 ++ Ty.displayFurther nameOf rest

/-- Writes a coeffect. -/
def Coeffect.display : Coeffect → String
  | .absent => absentText
  | .use => "use"
  | .ignore => "ignore"
  | .unconstrained => "none"
  | .past steps => "past " ++ toString steps.toNat
  | .param name payload =>
      match payload with
      | .absent => "?" ++ name
      | known => "?" ++ name ++ ":" ++ known.displayAt id comonadPrecedence
  | .var name => "'" ++ name
  | .merge left right => "merge(" ++ left.display ++ ", " ++ right.display ++ ")"
  | .split left right => "split(" ++ left.display ++ ", " ++ right.display ++ ")"
  | .seq left right => "seq(" ++ left.display ++ ", " ++ right.display ++ ")"

end

/-- Writes a type with the names it has. -/
def Ty.display (type : Ty) : String := type.displayAt id 0

end CoeffectSolver
