import CoeffectSolver.Term.Display
import Mathlib.Data.List.Basic

/-! The texts that terms are written as, character by character, and how far a name or a number reaches
in such a text. A type has two texts, one where an arrow stands in parentheses and one where it does
not. -/

namespace CoeffectSolver

/-! ### Names -/

/-- The characters that end a name where terms are written, or that begin something else. -/
def separators : List Char := [' ', ',', ':', '(', ')', '[', ']', '<']

/-- The characters that names are made of, with the letters that tell type variables from primitive
types. -/
structure Alphabet where
  alphanumeric : Char → Bool
  lower : Char → Bool
  upper : Char → Bool
  upper_of_lower : ∀ letter, lower letter = true → upper letter = false
  alphanumeric_of_separator : ∀ mark ∈ separators, alphanumeric mark = false

namespace Alphabet

/-- The letters from a to z, small and capital, and the ten digits. -/
def latin : Alphabet where
  alphanumeric := Char.isAlphanum
  lower := Char.isLower
  upper := Char.isUpper
  upper_of_lower := by
    intro letter small
    have above : 'a'.val ≤ letter.val := of_decide_eq_true (Bool.and_eq_true_iff.mp small).1
    refine decide_eq_false fun capital => ?_
    exact absurd (UInt32.le_trans above capital.2) (by decide)
  alphanumeric_of_separator := by simp [separators]

variable (letters : Alphabet)

/-- A name that is not empty and has alphanumeric characters only. -/
def identifies (name : String) : Bool :=
  !name.toList.isEmpty && name.toList.all letters.alphanumeric

/-- A name of a type variable. -/
def namesVariable (name : String) : Bool :=
  letters.identifies name && name.toList.head?.any letters.lower

/-- A name of a primitive type. -/
def namesPrimitive (name : String) : Bool :=
  letters.identifies name && name.toList.head?.any letters.upper

end Alphabet

mutual

/-- The names in a type are identifiers; those of type variables begin with a small letter and those
of primitive types with a capital one. -/
def Ty.namedIn (letters : Alphabet) : Ty → Bool
  | .absent => true
  | .var name => letters.namesVariable name
  | .prim name => letters.namesPrimitive name
  | .tuple elements => Ty.elementsNamedIn letters elements
  | .arrow declaration call argument result =>
      declaration.namedIn letters && call.namedIn letters &&
        (argument.namedIn letters && result.namedIn letters)
  | .comonad requirement inner => requirement.namedIn letters && inner.namedIn letters

def Ty.elementsNamedIn (letters : Alphabet) : List Ty → Bool
  | [] => true
  | first :: rest => first.namedIn letters && Ty.elementsNamedIn letters rest

def Coeffect.namedIn (letters : Alphabet) : Coeffect → Bool
  | .absent | .use | .ignore | .unconstrained | .past _ => true
  | .param name payload => letters.identifies name && payload.namedIn letters
  | .var name => letters.identifies name
  | .merge left right => left.namedIn letters && right.namedIn letters
  | .split left right => left.namedIn letters && right.namedIn letters
  | .seq left right => left.namedIn letters && right.namedIn letters

end

/-! ### Texts -/

namespace Ty

/-- The text of a type where arrows stand without parentheses. -/
def looseText (type : Ty) : List Char := (type.displayAt id 0).toList

/-- The text of a type where arrows stand in parentheses. -/
def tightText (type : Ty) : List Char := (type.displayAt id comonadPrecedence).toList

/-- The text of the elements of a tuple. -/
def elementsText (elements : List Ty) : List Char := (Ty.displayElements id elements).toList

/-- The text of the elements of a tuple after the first one. -/
def furtherText (elements : List Ty) : List Char := (Ty.displayFurther id elements).toList

/-- The text of a payload behind the name of its parameter. -/
def payloadText : Ty → List Char
  | .absent => []
  | type => ':' :: type.tightText

/-- The type is an arrow. -/
def isArrow : Ty → Bool
  | .arrow _ _ _ _ => true
  | _ => false

/-- The name of a type that is written as its name. -/
def word? : Ty → Option String
  | .var name => some name
  | .prim name => some name
  | _ => none

/-- What is written between parentheses, for tuples and for arrows that need parentheses. -/
def enclosed? : Ty → Option (List Ty)
  | .tuple elements => some elements
  | .arrow declaration call argument result => some [.arrow declaration call argument result]
  | _ => none

end Ty

/-- The text of a coeffect. -/
def Coeffect.text (coeffect : Coeffect) : List Char := coeffect.display.toList

/-- The text of two coeffects between parentheses. -/
def Coeffect.bothText (left right : Coeffect) : List Char :=
  '(' :: (left.text ++ ',' :: ' ' :: (right.text ++ [')']))

namespace Ty

theorem displayAt_arrowPrecedence (type : Ty) :
    type.displayAt id arrowPrecedence = type.displayAt id 0 := by
  cases type <;> rfl

theorem displayAt_above_arrowPrecedence (type : Ty) :
    type.displayAt id (arrowPrecedence + 1) = type.displayAt id comonadPrecedence := by
  cases type <;> rfl

@[simp] theorem tightText_absent : Ty.absent.tightText = ['<', 'n', 'i', 'l', '>'] := rfl

@[simp] theorem tightText_var (name : String) : (Ty.var name).tightText = name.toList := rfl

@[simp] theorem tightText_prim (name : String) : (Ty.prim name).tightText = name.toList := rfl

@[simp] theorem tightText_comonad (requirement : Coeffect) (inner : Ty) :
    (Ty.comonad requirement inner).tightText =
      '[' :: (requirement.text ++ ']' :: inner.tightText) := by
  change ("[" ++ requirement.display ++ "]" ++ inner.displayAt id comonadPrecedence).toList = _
  simp [tightText, Coeffect.text]

@[simp] theorem tightText_tuple (elements : List Ty) :
    (Ty.tuple elements).tightText = '(' :: (elementsText elements ++ [')']) := by
  change ("(" ++ displayElements id elements ++ ")").toList = _
  simp [elementsText]

@[simp] theorem tightText_arrow (declaration call : Coeffect) (argument result : Ty) :
    (Ty.arrow declaration call argument result).tightText =
      '(' :: ((Ty.arrow declaration call argument result).looseText ++ [')']) := by
  change ("(" ++ (Ty.arrow declaration call argument result).displayAt id 0 ++ ")").toList = _
  simp [looseText]

@[simp] theorem looseText_arrow (declaration call : Coeffect) (argument result : Ty) :
    (Ty.arrow declaration call argument result).looseText =
      argument.tightText ++ ' ' :: '-' :: '[' :: (declaration.text ++ ' ' :: '|' :: ' ' ::
        (call.text ++ ']' :: '-' :: '>' :: ' ' :: result.looseText)) := by
  change (argument.displayAt id (arrowPrecedence + 1) ++ " -[" ++ declaration.display ++ " | " ++
    call.display ++ "]-> " ++ result.displayAt id arrowPrecedence).toList = _
  rw [displayAt_arrowPrecedence, displayAt_above_arrowPrecedence]
  simp [tightText, looseText, Coeffect.text]

@[simp] theorem elementsText_nil : elementsText [] = [] := rfl

@[simp] theorem elementsText_cons (first : Ty) (rest : List Ty) :
    elementsText (first :: rest) = first.looseText ++ furtherText rest :=
  String.toList_append

@[simp] theorem furtherText_nil : furtherText [] = [] := rfl

@[simp] theorem furtherText_cons (next : Ty) (rest : List Ty) :
    furtherText (next :: rest) = ',' :: ' ' :: (next.looseText ++ furtherText rest) := by
  change (", " ++ next.displayAt id 0 ++ displayFurther id rest).toList = _
  simp [furtherText, looseText]

theorem looseText_eq_tightText {type : Ty} (plain : type.isArrow = false) :
    type.looseText = type.tightText := by
  cases type with
  | arrow => cases plain
  | _ => rfl

theorem tightText_eq_of_enclosed {type : Ty} {elements : List Ty}
    (enclosed : type.enclosed? = some elements) :
    type.tightText = '(' :: (elementsText elements ++ [')']) := by
  cases type with
  | tuple => cases enclosed; exact tightText_tuple elements
  | arrow =>
      cases enclosed
      rw [tightText_arrow, elementsText_cons, furtherText_nil, List.append_nil]
  | _ => cases enclosed

theorem payloadText_of_given {payload : Ty} (given : payload ≠ .absent) :
    payload.payloadText = ':' :: payload.tightText := by
  cases payload with
  | absent => exact absurd rfl given
  | _ => rfl

end Ty

namespace Coeffect

@[simp] theorem text_absent : Coeffect.absent.text = ['<', 'n', 'i', 'l', '>'] := rfl

@[simp] theorem text_use : Coeffect.use.text = ['u', 's', 'e'] := rfl

@[simp] theorem text_ignore : Coeffect.ignore.text = ['i', 'g', 'n', 'o', 'r', 'e'] := rfl

@[simp] theorem text_unconstrained : Coeffect.unconstrained.text = ['n', 'o', 'n', 'e'] := rfl

@[simp] theorem text_past (steps : UInt64) :
    (Coeffect.past steps).text = 'p' :: 'a' :: 's' :: 't' :: ' ' :: Nat.toDigits 10 steps.toNat := by
  change ("past " ++ toString steps.toNat).toList = _
  simp

@[simp] theorem text_param (name : String) (payload : Ty) :
    (Coeffect.param name payload).text = '?' :: (name.toList ++ payload.payloadText) := by
  by_cases given : payload = .absent
  · subst given
    change ("?" ++ name).toList = _
    simp [Ty.payloadText]
  · have shown : (Coeffect.param name payload).display =
        "?" ++ name ++ ":" ++ payload.displayAt id comonadPrecedence := by
      cases payload with
      | absent => exact absurd rfl given
      | _ => rfl
    rw [Ty.payloadText_of_given given, text, shown]
    simp [Ty.tightText]

@[simp] theorem text_var (name : String) : (Coeffect.var name).text = '\'' :: name.toList := by
  change ("'" ++ name).toList = _
  simp

theorem toList_both (name : String) (left right : Coeffect) :
    (name ++ "(" ++ left.display ++ ", " ++ right.display ++ ")").toList =
      name.toList ++ bothText left right := by
  simp [text, bothText]

@[simp] theorem text_merge (left right : Coeffect) :
    (Coeffect.merge left right).text = 'm' :: 'e' :: 'r' :: 'g' :: 'e' :: bothText left right :=
  toList_both "merge" left right

@[simp] theorem text_split (left right : Coeffect) :
    (Coeffect.split left right).text = 's' :: 'p' :: 'l' :: 'i' :: 't' :: bothText left right :=
  toList_both "split" left right

@[simp] theorem text_seq (left right : Coeffect) :
    (Coeffect.seq left right).text = 's' :: 'e' :: 'q' :: bothText left right :=
  toList_both "seq" left right

end Coeffect

/-! ### Runs of characters -/

/-- The text is empty or goes on with one of the characters. -/
def Follows (marks after : List Char) : Prop := ∀ mark ∈ after.head?, mark ∈ marks

/-- What may stand behind a coeffect, or behind a type where arrows stand in parentheses. -/
def closers : List Char := [' ', ',', ')', ']']

/-- What may stand behind a type where arrows stand without parentheses. -/
def looseClosers : List Char := [',', ')']

section Follows

variable {marks after : List Char} {mark : Char}

@[simp] theorem follows_nil : Follows marks [] := by
  intro mark member
  cases member

@[simp] theorem follows_cons : Follows marks (mark :: after) ↔ mark ∈ marks := by
  simp [Follows]

theorem Follows.mono {marks' : List Char} (follows : Follows marks after) (subset : marks ⊆ marks') :
    Follows marks' after :=
  fun mark member => subset (follows mark member)

theorem Follows.closers (follows : Follows looseClosers after) : Follows closers after :=
  follows.mono (by decide)

theorem Follows.separators (follows : Follows CoeffectSolver.closers after) :
    Follows separators after :=
  follows.mono (by decide)

end Follows

/-- A run of characters with a property ends where the first one without it stands. -/
theorem eq_of_append_eq_append {passes : Char → Bool} {run run' after after' : List Char}
    (all : ∀ letter ∈ run, passes letter = true) (all' : ∀ letter ∈ run', passes letter = true)
    (ends : ∀ mark ∈ after.head?, passes mark = false)
    (ends' : ∀ mark ∈ after'.head?, passes mark = false) (same : run ++ after = run' ++ after') :
    run = run' ∧ after = after' := by
  have takes : ∀ {run after : List Char}, (∀ letter ∈ run, passes letter = true) →
      (∀ mark ∈ after.head?, passes mark = false) → (run ++ after).takeWhile passes = run := by
    intro run after all ends
    rw [List.takeWhile_append_of_pos all]
    cases after with
    | nil => exact List.append_nil run
    | cons mark rest =>
        rw [List.takeWhile_cons_of_neg (by rw [ends mark rfl]; exact Bool.false_ne_true),
          List.append_nil]
  have runs : run = run' := by rw [← takes all ends, same, takes all' ends']
  subst runs
  exact ⟨rfl, List.append_cancel_left same⟩

namespace Alphabet

variable {letters : Alphabet} {name name' : String} {after after' : List Char}

theorem alphanumeric_of_identifies (named : letters.identifies name = true) :
    ∀ letter ∈ name.toList, letters.alphanumeric letter = true :=
  List.all_eq_true.mp (Bool.and_eq_true_iff.mp named).2

theorem not_alphanumeric_of_follows (follows : Follows separators after) :
    ∀ mark ∈ after.head?, letters.alphanumeric mark = false :=
  fun mark member => letters.alphanumeric_of_separator mark (follows mark member)

theorem name_eq_of_append_eq_append (named : letters.identifies name = true)
    (named' : letters.identifies name' = true) (follows : Follows separators after)
    (follows' : Follows separators after') (same : name.toList ++ after = name'.toList ++ after') :
    name = name' ∧ after = after' := by
  obtain ⟨names, rests⟩ := eq_of_append_eq_append (alphanumeric_of_identifies named)
    (alphanumeric_of_identifies named') (not_alphanumeric_of_follows follows)
    (not_alphanumeric_of_follows follows') same
  exact ⟨String.toList_inj.mp names, rests⟩

theorem append_ne_separator (named : letters.identifies name = true) {mark : Char}
    (separates : mark ∈ separators) : name.toList ++ after ≠ mark :: after' := by
  intro same
  obtain ⟨filled, all⟩ := Bool.and_eq_true_iff.mp named
  cases spelled : name.toList with
  | nil => simp [spelled] at filled
  | cons first rest =>
      rw [spelled, List.cons_append] at same
      obtain ⟨rfl, _⟩ := List.cons.inj same
      have passes := List.all_eq_true.mp all first (spelled ▸ List.mem_cons_self)
      rw [letters.alphanumeric_of_separator first separates] at passes
      cases passes

theorem not_variable_and_primitive (letters : Alphabet) {name : String}
    (named : letters.namesVariable name = true) (named' : letters.namesPrimitive name = true) :
    False := by
  have small := (Bool.and_eq_true_iff.mp named).2
  have capital := (Bool.and_eq_true_iff.mp named').2
  cases first : name.toList.head? with
  | none => rw [first] at small; cases small
  | some letter =>
      rw [first, Option.any_some] at small capital
      rw [letters.upper_of_lower letter small] at capital
      cases capital

end Alphabet

end CoeffectSolver
