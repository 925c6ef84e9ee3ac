import CoeffectSolver.Proofs.Term.Likeness
import CoeffectSolver.Proofs.Term.Grouping

/-! How terms are told apart. The comparison by digest and constructors decides whether two terms are
the same. What is written for two types whose names are identifiers decides it as well, but for one
thing: the parentheses that an arrow needs in some places look like a tuple with the arrow as its only
element. Types are written alike exactly if they are the same once every such tuple is read as
parentheses around its element. -/

namespace CoeffectSolver

theorem Coeffect.equal_iff_eq {first second : Coeffect} :
    first.equal second = true ↔ first = second := by
  rw [Coeffect.equal, Bool.and_eq_true, Coeffect.same_iff_eq]
  constructor
  · exact And.right
  · rintro rfl
    exact ⟨beq_self_eq_true _, rfl⟩

/-- Comparing digests first never changes the answer: terms compare as equal exactly if they are the
same term. -/
theorem equal_decides_identity :
    (∀ first second : Ty, first.equal second = first.same second ∧
      (first.equal second = true ↔ first = second)) ∧
    ∀ first second : Coeffect, first.equal second = first.same second ∧
      (first.equal second = true ↔ first = second) := by
  refine ⟨fun first second => ⟨?_, Ty.equal_iff_eq⟩, fun first second => ⟨?_, Coeffect.equal_iff_eq⟩⟩
  · rw [Bool.eq_iff_iff, Ty.equal_iff_eq, Ty.same_iff_eq]
  · rw [Bool.eq_iff_iff, Coeffect.equal_iff_eq, Coeffect.same_iff_eq]

/-! ### Reading texts -/

namespace Ty

variable {letters : Alphabet}

/-- A type is read back, up to the parentheses around arrows, where arrows stand in parentheses. -/
def ReadTightly (letters : Alphabet) (type : Ty) : Prop :=
  ∀ ⦃other : Ty⦄, other.namedIn letters = true →
    ∀ ⦃after after' : List Char⦄, Follows closers after → Follows closers after' →
      type.tightText ++ after = other.tightText ++ after' →
      type.asRead.ungrouped = other.asRead.ungrouped ∧ after = after'

/-- A type is read back where arrows stand without parentheses. -/
def ReadLoosely (letters : Alphabet) (type : Ty) : Prop :=
  ∀ ⦃other : Ty⦄, other.namedIn letters = true →
    ∀ ⦃after after' : List Char⦄, Follows looseClosers after → Follows looseClosers after' →
      type.looseText ++ after = other.looseText ++ after' →
      type.asRead = other.asRead ∧ after = after'

end Ty

/-- A coeffect is read back, up to the parentheses around arrows. -/
def Coeffect.Read (letters : Alphabet) (coeffect : Coeffect) : Prop :=
  ∀ ⦃other : Coeffect⦄, other.namedIn letters = true →
    ∀ ⦃after after' : List Char⦄, Follows closers after → Follows closers after' →
      coeffect.text ++ after = other.text ++ after' → coeffect.asRead = other.asRead ∧ after = after'

namespace Ty

variable {letters : Alphabet}

section Words

variable {type other : Ty} {name : String} {after after' : List Char}

theorem tightText_of_word (word : type.word? = some name) : type.tightText = name.toList := by
  cases type with
  | var | prim => cases word; rfl
  | _ => cases word

theorem identifies_of_word (named : type.namedIn letters = true) (word : type.word? = some name) :
    letters.identifies name = true := by
  cases type with
  | var | prim => cases word; exact (Bool.and_eq_true_iff.mp named).1
  | _ => cases word

/-- The first letter of a name tells type variables from primitive types. -/
theorem eq_of_word (named : type.namedIn letters = true) (named' : other.namedIn letters = true)
    (word : type.word? = some name) (word' : other.word? = some name) : type = other := by
  cases type with
  | var =>
      cases other with
      | var => rw [Option.some.inj (word.trans word'.symm)]
      | prim => cases word; cases word'; exact (letters.not_variable_and_primitive named named').elim
      | _ => cases word'
  | prim =>
      cases other with
      | prim => rw [Option.some.inj (word.trans word'.symm)]
      | var => cases word; cases word'; exact (letters.not_variable_and_primitive named' named).elim
      | _ => cases word'
  | _ => cases word

theorem tightText_append_ne_of_word (named : type.namedIn letters = true)
    (word : type.word?.isSome) {mark : Char} (separates : mark ∈ separators) :
    type.tightText ++ after ≠ mark :: after' := by
  obtain ⟨name, word⟩ := Option.isSome_iff_exists.mp word
  rw [tightText_of_word word]
  exact Alphabet.append_ne_separator (identifies_of_word named word) separates

/-- A type that is not written as its name begins with a separator. -/
theorem exists_separator_of_not_word (symbolic : type.word? = none) :
    ∃ mark ∈ separators, ∃ rest, type.tightText = mark :: rest := by
  cases type with
  | absent => exact ⟨'<', by decide, _, tightText_absent⟩
  | tuple elements => exact ⟨'(', by decide, _, tightText_tuple elements⟩
  | arrow => exact ⟨'(', by decide, _, tightText_arrow ..⟩
  | comonad requirement inner => exact ⟨'[', by decide, _, tightText_comonad requirement inner⟩
  | var | prim => cases symbolic

theorem tightText_append_ne_closing (named : other.namedIn letters = true) :
    other.tightText ++ after ≠ ')' :: after' := by
  cases other with
  | var | prim => exact tightText_append_ne_of_word named rfl (by decide)
  | _ => simp

/-- The text of a type does not begin with a closing parenthesis. -/
theorem looseText_append_ne_closing (named : other.namedIn letters = true) :
    other.looseText ++ after ≠ ')' :: after' := by
  cases other with
  | arrow declaration call argument result =>
      simp only [namedIn, Bool.and_eq_true] at named
      rw [looseText_arrow, List.append_assoc]
      exact tightText_append_ne_closing named.2.1
  | _ =>
      rw [looseText_eq_tightText rfl]
      exact tightText_append_ne_closing named

end Words

section Constructors

variable {elements : List Ty}

theorem readTightly_absent : ReadTightly letters .absent := by
  intro other named' after after' follows follows' same
  cases other with
  | absent => exact ⟨rfl, List.append_cancel_left same⟩
  | var | prim => exact absurd same.symm (tightText_append_ne_of_word named' rfl (by decide))
  | _ => simp at same

theorem readTightly_of_word {type : Ty} {name : String} (named : type.namedIn letters = true)
    (word : type.word? = some name) : ReadTightly letters type := by
  intro other named' after after' follows follows' same
  cases word' : other.word? with
  | some name' =>
      rw [tightText_of_word word, tightText_of_word word'] at same
      obtain ⟨rfl, afters⟩ := Alphabet.name_eq_of_append_eq_append (identifies_of_word named word)
        (identifies_of_word named' word') follows.separators follows'.separators same
      exact ⟨by rw [eq_of_word named named' word word'], afters⟩
  | none =>
      obtain ⟨mark, separates, rest, text⟩ := exists_separator_of_not_word word'
      rw [text, List.cons_append] at same
      exact absurd same (tightText_append_ne_of_word named (by rw [word]; rfl) separates)

theorem follows_furtherText (elements : List Ty) (after : List Char) :
    Follows looseClosers (furtherText elements ++ ')' :: after) := by
  cases elements <;> simp [looseClosers]

theorem furtherText_read (each : ∀ element ∈ elements, ReadLoosely letters element)
    {elements' : List Ty} (named' : elementsNamedIn letters elements' = true)
    {after after' : List Char}
    (same : furtherText elements ++ ')' :: after = furtherText elements' ++ ')' :: after') :
    elements.map asRead = elements'.map asRead ∧ after = after' := by
  induction elements generalizing elements' with
  | nil =>
      cases elements' with
      | nil => exact ⟨rfl, (List.cons.inj same).2⟩
      | cons next' rest' => simp at same
  | cons next rest ih =>
      cases elements' with
      | nil => simp at same
      | cons next' rest' =>
          rw [elementsNamedIn, Bool.and_eq_true] at named'
          rw [List.forall_mem_cons] at each
          simp only [furtherText_cons, List.cons_append, List.append_assoc, List.cons.injEq,
            true_and] at same
          obtain ⟨nexts, rests⟩ := each.1 named'.1 (follows_furtherText rest after)
            (follows_furtherText rest' after') same
          obtain ⟨tails, afters⟩ := ih each.2 named'.2 rests
          exact ⟨by rw [List.map_cons, List.map_cons, nexts, tails], afters⟩

theorem elementsText_read (each : ∀ element ∈ elements, ReadLoosely letters element)
    (named : elementsNamedIn letters elements = true)
    {elements' : List Ty} (named' : elementsNamedIn letters elements' = true)
    {after after' : List Char}
    (same : elementsText elements ++ ')' :: after = elementsText elements' ++ ')' :: after') :
    elements.map asRead = elements'.map asRead ∧ after = after' := by
  cases elements with
  | nil =>
      cases elements' with
      | nil => exact ⟨rfl, (List.cons.inj same).2⟩
      | cons next' rest' =>
          rw [elementsNamedIn, Bool.and_eq_true] at named'
          rw [elementsText_cons, List.append_assoc] at same
          exact absurd same.symm (looseText_append_ne_closing named'.1)
  | cons next rest =>
      rw [elementsNamedIn, Bool.and_eq_true] at named
      cases elements' with
      | nil =>
          rw [elementsText_cons, List.append_assoc] at same
          exact absurd same (looseText_append_ne_closing named.1)
      | cons next' rest' =>
          rw [elementsNamedIn, Bool.and_eq_true] at named'
          rw [List.forall_mem_cons] at each
          rw [elementsText_cons, elementsText_cons, List.append_assoc, List.append_assoc] at same
          obtain ⟨nexts, rests⟩ := each.1 named'.1 (follows_furtherText rest after)
            (follows_furtherText rest' after') same
          obtain ⟨tails, afters⟩ := furtherText_read each.2 named'.2 rests
          exact ⟨by rw [List.map_cons, List.map_cons, nexts, tails], afters⟩

/-- A tuple, or an arrow that stands in parentheses, is read back from its elements. -/
theorem readTightly_of_enclosed {type : Ty} (named : elementsNamedIn letters elements = true)
    (enclosed : type.enclosed? = some elements)
    (each : ∀ element ∈ elements, ReadLoosely letters element) : ReadTightly letters type := by
  intro other named' after after' follows follows' same
  rw [tightText_eq_of_enclosed enclosed] at same
  -- A tuple and an arrow in parentheses are compared by what stands between the parentheses.
  have enclosing : ∀ elements', other.enclosed? = some elements' →
      elementsNamedIn letters elements' = true →
      type.asRead.ungrouped = other.asRead.ungrouped ∧ after = after' := by
    intro elements' enclosed' named'
    rw [tightText_eq_of_enclosed enclosed'] at same
    simp only [List.cons_append, List.append_assoc, List.nil_append, List.cons.injEq,
      true_and] at same
    obtain ⟨reads, afters⟩ := elementsText_read each named named' same
    rw [ungrouped_asRead_of_enclosed enclosed, ungrouped_asRead_of_enclosed enclosed', reads]
    exact ⟨rfl, afters⟩
  cases other with
  | tuple elements' => exact enclosing elements' rfl named'
  | arrow declaration call argument result =>
      exact enclosing _ rfl (by rw [elementsNamedIn, named']; rfl)
  | var | prim =>
      have opening : '(' ∈ separators := by decide
      exact absurd same.symm (tightText_append_ne_of_word named' rfl opening)
  | _ => simp at same

theorem readTightly_comonad {requirement : Coeffect} {inner : Ty}
    (legible : requirement.Read letters) (tight : inner.ReadTightly letters) :
    ReadTightly letters (.comonad requirement inner) := by
  intro other named' after after' follows follows' same
  cases other with
  | comonad requirement' inner' =>
      rw [namedIn, Bool.and_eq_true] at named'
      simp only [tightText_comonad, List.cons_append, List.append_assoc, List.cons.injEq,
        true_and] at same
      obtain ⟨requirements, rests⟩ := legible named'.1 (by simp [closers]) (by simp [closers]) same
      obtain ⟨inners, afters⟩ := tight named'.2 follows follows' (List.cons.inj rests).2
      exact ⟨by simp only [asRead, requirements, inners], afters⟩
  | var | prim =>
      have opening : '[' ∈ separators := by decide
      rw [tightText_comonad] at same
      exact absurd same.symm (tightText_append_ne_of_word named' rfl opening)
  | _ => simp at same

/-- What stands behind a type is not the text between an argument and the annotations of its arrow. -/
theorem not_follows_argument (after : List Char) : ¬ Follows looseClosers (' ' :: after) := by
  simp [looseClosers]

theorem readLoosely_arrow {declaration call : Coeffect} {argument result : Ty}
    (declared : declaration.Read letters) (called : call.Read letters)
    (argued : argument.ReadTightly letters) (resulted : result.ReadLoosely letters) :
    ReadLoosely letters (.arrow declaration call argument result) := by
  intro other named' after after' follows follows' same
  rw [looseText_arrow, List.append_assoc] at same
  cases kind : other.isArrow with
  | false =>
      -- The argument would be the whole of the other type, but a blank stands behind it.
      rw [looseText_eq_tightText kind] at same
      obtain ⟨_, rfl⟩ := argued named' (by simp [closers]) follows'.closers same
      exact (not_follows_argument _ follows').elim
  | true =>
      cases other with
      | arrow declaration' call' argument' result' =>
          simp only [namedIn, Bool.and_eq_true] at named'
          rw [looseText_arrow, List.append_assoc] at same
          obtain ⟨arguments, rests⟩ := argued named'.2.1 (by simp [closers]) (by simp [closers]) same
          simp only [List.cons_append, List.append_assoc, List.cons.injEq, true_and] at rests
          obtain ⟨declarations, rests⟩ :=
            declared named'.1.1 (by simp [closers]) (by simp [closers]) rests
          simp only [List.cons.injEq, true_and] at rests
          obtain ⟨calls, rests⟩ := called named'.1.2 (by simp [closers]) (by simp [closers]) rests
          simp only [List.cons.injEq, true_and] at rests
          obtain ⟨results, afters⟩ := resulted named'.2.2 follows follows' rests
          exact ⟨by simp only [asRead, arguments, declarations, calls, results], afters⟩
      | _ => cases kind

theorem readLoosely_of_tightly {type : Ty} (plain : type.isArrow = false)
    (tight : type.ReadTightly letters) : ReadLoosely letters type := by
  intro other named' after after' follows follows' same
  rw [looseText_eq_tightText plain] at same
  cases kind : other.isArrow with
  | false =>
      rw [looseText_eq_tightText kind] at same
      obtain ⟨reads, afters⟩ := tight named' follows.closers follows'.closers same
      refine ⟨eq_of_ungrouped_eq ?_ ?_ reads, afters⟩
      · rw [isArrow_asRead, plain]
      · rw [isArrow_asRead, kind]
  | true =>
      cases other with
      | arrow declaration' call' argument' result' =>
          simp only [namedIn, Bool.and_eq_true] at named'
          rw [looseText_arrow, List.append_assoc] at same
          obtain ⟨_, rfl⟩ := tight named'.2.1 follows.closers (by simp [closers]) same
          exact (not_follows_argument _ follows).elim
      | _ => cases kind

end Constructors

section Payloads

variable {payload payload' : Ty} {after after' : List Char}

theorem follows_payloadText (follows : Follows closers after) :
    Follows separators (payload.payloadText ++ after) := by
  by_cases given : payload = .absent
  · rw [given]
    exact follows.separators
  · rw [payloadText_of_given given]
    exact follows_cons.mpr (by decide)

theorem payloadText_read (tight : payload.ReadTightly letters)
    (named' : payload'.namedIn letters = true) (follows : Follows closers after)
    (follows' : Follows closers after')
    (same : payload.payloadText ++ after = payload'.payloadText ++ after') :
    payload.asRead.ungrouped = payload'.asRead.ungrouped ∧ after = after' := by
  have colon : ∀ rest, ¬ Follows closers (':' :: rest) := fun rest => by simp [closers]
  by_cases given : payload = .absent
  · subst given
    by_cases given' : payload' = .absent
    · subst given'
      exact ⟨rfl, same⟩
    · rw [payloadText_of_given given'] at same
      obtain rfl : after = _ := same
      exact absurd follows (colon _)
  · by_cases given' : payload' = .absent
    · subst given'
      rw [payloadText_of_given given] at same
      obtain rfl : _ = after' := same
      exact absurd follows' (colon _)
    · rw [payloadText_of_given given, payloadText_of_given given'] at same
      exact tight named' follows follows' (List.cons.inj same).2

end Payloads

end Ty

namespace Coeffect

variable {letters : Alphabet} {left right left' right' : Coeffect} {after after' : List Char}

theorem bothText_read (lefts : left.Read letters) (rights : right.Read letters)
    (named' : (left'.namedIn letters && right'.namedIn letters) = true)
    (same : bothText left right ++ after = bothText left' right' ++ after') :
    left.asRead = left'.asRead ∧ right.asRead = right'.asRead ∧ after = after' := by
  rw [Bool.and_eq_true] at named'
  simp only [bothText, List.cons_append, List.append_assoc, List.nil_append, List.cons.injEq,
    true_and] at same
  obtain ⟨readLeft, rests⟩ := lefts named'.1 (by simp [closers]) (by simp [closers]) same
  simp only [List.cons.injEq, true_and] at rests
  obtain ⟨readRight, rests⟩ := rights named'.2 (by simp [closers]) (by simp [closers]) rests
  exact ⟨readLeft, readRight, (List.cons.inj rests).2⟩

theorem read_constant {coeffect : Coeffect}
    (constant : coeffect = .absent ∨ coeffect = .use ∨ coeffect = .ignore ∨
      coeffect = .unconstrained) : coeffect.Read letters := by
  intro other named' after after' follows follows' same
  rcases constant with rfl | rfl | rfl | rfl <;> cases other <;> simp at same <;>
    exact ⟨rfl, same⟩

theorem digits_read {steps steps' : Nat} (follows : Follows closers after)
    (follows' : Follows closers after')
    (same : Nat.toDigits 10 steps ++ after = Nat.toDigits 10 steps' ++ after') :
    steps = steps' ∧ after = after' := by
  have digits : ∀ steps, ∀ digit ∈ Nat.toDigits 10 steps, digit.isDigit = true :=
    fun steps digit member => Nat.isDigit_of_mem_toDigits (by decide) (by decide) member
  have ends : ∀ mark ∈ closers, mark.isDigit = false := by simp [closers]
  obtain ⟨numerals, afters⟩ := eq_of_append_eq_append (digits steps) (digits steps')
    (fun mark member => ends mark (follows mark member))
    (fun mark member => ends mark (follows' mark member)) same
  have numbers := congrArg (Nat.ofDigitChars 10 · 0) numerals
  simp only [Nat.ofDigitChars_ten_toDigits] at numbers
  exact ⟨numbers, afters⟩

theorem read_past (steps : UInt64) : (Coeffect.past steps).Read letters := by
  intro other named' after after' follows follows' same
  cases other <;> simp at same
  next steps' =>
    obtain ⟨numbers, afters⟩ := digits_read follows follows' same
    rw [UInt64.toNat_inj.mp numbers]
    exact ⟨rfl, afters⟩

theorem read_var {name : String} (named : letters.identifies name = true) :
    (Coeffect.var name).Read letters := by
  intro other named' after after' follows follows' same
  cases other <;> simp at same
  next name' =>
    obtain ⟨rfl, afters⟩ := Alphabet.name_eq_of_append_eq_append named named' follows.separators
      follows'.separators same
    exact ⟨rfl, afters⟩

theorem read_param {name : String} {payload : Ty} (named : letters.identifies name = true)
    (tight : payload.ReadTightly letters) : (Coeffect.param name payload).Read letters := by
  intro other named' after after' follows follows' same
  cases other <;> simp at same
  next name' payload' =>
    rw [namedIn, Bool.and_eq_true] at named'
    obtain ⟨rfl, rests⟩ := Alphabet.name_eq_of_append_eq_append named named'.1
      (Ty.follows_payloadText follows) (Ty.follows_payloadText follows') same
    obtain ⟨payloads, afters⟩ := Ty.payloadText_read tight named'.2 follows follows' rests
    exact ⟨by rw [asRead, asRead, payloads], afters⟩

theorem read_merge (lefts : left.Read letters) (rights : right.Read letters) :
    (Coeffect.merge left right).Read letters := by
  intro other named' after after' follows follows' same
  cases other <;> simp at same
  next left' right' =>
    obtain ⟨readLeft, readRight, afters⟩ := bothText_read lefts rights named' same
    exact ⟨by rw [asRead, asRead, readLeft, readRight], afters⟩

theorem read_split (lefts : left.Read letters) (rights : right.Read letters) :
    (Coeffect.split left right).Read letters := by
  intro other named' after after' follows follows' same
  cases other <;> simp at same
  next left' right' =>
    obtain ⟨readLeft, readRight, afters⟩ := bothText_read lefts rights named' same
    exact ⟨by rw [asRead, asRead, readLeft, readRight], afters⟩

theorem read_seq (lefts : left.Read letters) (rights : right.Read letters) :
    (Coeffect.seq left right).Read letters := by
  intro other named' after after' follows follows' same
  cases other <;> simp at same
  next left' right' =>
    obtain ⟨readLeft, readRight, afters⟩ := bothText_read lefts rights named' same
    exact ⟨by rw [asRead, asRead, readLeft, readRight], afters⟩

end Coeffect

/-- A type is read back wherever it stands. -/
structure Ty.Read (letters : Alphabet) (type : Ty) : Prop where
  tightly : type.ReadTightly letters
  loosely : type.ReadLoosely letters

theorem Ty.Read.of_tightly {letters : Alphabet} {type : Ty} (plain : type.isArrow = false)
    (tight : type.ReadTightly letters) : type.Read letters :=
  ⟨tight, readLoosely_of_tightly plain tight⟩

mutual

/-- Every type with such names is read back from what is written for it. -/
theorem Ty.read {letters : Alphabet} : (type : Ty) → type.namedIn letters = true → type.Read letters
  | .absent, _ => .of_tightly rfl Ty.readTightly_absent
  | .var _, named => .of_tightly rfl (Ty.readTightly_of_word named rfl)
  | .prim _, named => .of_tightly rfl (Ty.readTightly_of_word named rfl)
  | .tuple elements, named =>
      .of_tightly rfl (Ty.readTightly_of_enclosed named rfl (Ty.read_elements elements named))
  | .arrow declaration call argument result, named => by
      simp only [Ty.namedIn, Bool.and_eq_true] at named
      have loose := Ty.readLoosely_arrow (Coeffect.read declaration named.1.1)
        (Coeffect.read call named.1.2) (Ty.read argument named.2.1).tightly
        (Ty.read result named.2.2).loosely
      -- In parentheses the arrow is written as the tuple that has it as its only element.
      refine ⟨Ty.readTightly_of_enclosed ?_ rfl (List.forall_mem_singleton.mpr loose), loose⟩
      simp only [Ty.elementsNamedIn, Ty.namedIn, named, Bool.and_self]
  | .comonad requirement inner, named => by
      rw [Ty.namedIn, Bool.and_eq_true] at named
      exact .of_tightly rfl
        (Ty.readTightly_comonad (Coeffect.read requirement named.1) (Ty.read inner named.2).tightly)

theorem Ty.read_elements {letters : Alphabet} : (elements : List Ty) →
    Ty.elementsNamedIn letters elements = true →
    ∀ element ∈ elements, element.ReadLoosely letters
  | [], _ => List.forall_mem_nil _
  | first :: rest, named => by
      rw [Ty.elementsNamedIn, Bool.and_eq_true] at named
      exact List.forall_mem_cons.mpr
        ⟨(Ty.read first named.1).loosely, Ty.read_elements rest named.2⟩

theorem Coeffect.read {letters : Alphabet} :
    (coeffect : Coeffect) → coeffect.namedIn letters = true → coeffect.Read letters
  | .absent, _ => Coeffect.read_constant (.inl rfl)
  | .use, _ => Coeffect.read_constant (.inr (.inl rfl))
  | .ignore, _ => Coeffect.read_constant (.inr (.inr (.inl rfl)))
  | .unconstrained, _ => Coeffect.read_constant (.inr (.inr (.inr rfl)))
  | .past steps, _ => Coeffect.read_past steps
  | .var _, named => Coeffect.read_var named
  | .param _ payload, named => by
      rw [Coeffect.namedIn, Bool.and_eq_true] at named
      exact Coeffect.read_param named.1 (Ty.read payload named.2).tightly
  | .merge left right, named => by
      rw [Coeffect.namedIn, Bool.and_eq_true] at named
      exact Coeffect.read_merge (Coeffect.read left named.1) (Coeffect.read right named.2)
  | .split left right, named => by
      rw [Coeffect.namedIn, Bool.and_eq_true] at named
      exact Coeffect.read_split (Coeffect.read left named.1) (Coeffect.read right named.2)
  | .seq left right, named => by
      rw [Coeffect.namedIn, Bool.and_eq_true] at named
      exact Coeffect.read_seq (Coeffect.read left named.1) (Coeffect.read right named.2)

end

section Display

variable (letters : Alphabet) {first second : Ty}

theorem Ty.display_eq_iff_looseText : first.display = second.display ↔
    first.looseText = second.looseText :=
  String.toList_inj.symm

/-- Two types whose names are identifiers are written alike exactly if they are the same once every
tuple with an arrow as its only element is replaced by the arrow, wherever the arrow would stand in
parentheses. So types without such tuples are written alike only if they are the same. -/
theorem display_decides_up_to_grouping (named : first.namedIn letters = true)
    (named' : second.namedIn letters = true) :
    (first.display = second.display ↔ first.asRead.equal second.asRead = true) ∧
      (first.asRead = first → second.asRead = second → first.display = second.display →
        first.equal second = true) := by
  have decides : first.display = second.display ↔ first.asRead.equal second.asRead = true := by
    rw [Ty.equal_iff_eq, Ty.display_eq_iff_looseText]
    constructor
    · intro same
      have texts : first.looseText ++ [] = second.looseText ++ [] := by rw [same]
      exact ((Ty.read first named).loosely named' follows_nil follows_nil texts).1
    · intro reads
      rw [← Ty.looseText_asRead first, reads, Ty.looseText_asRead second]
  refine ⟨decides, fun ungrouped ungrouped' same => ?_⟩
  have equal := decides.mp same
  rwa [ungrouped, ungrouped'] at equal

end Display

theorem display_decides_up_to_grouping_of_payloads :
    let arrow : Ty := .arrow .use (.past 12) (.var "a") (.prim "Int")
    let grouped : Ty := .comonad (.param "p" (.tuple [arrow])) (.tuple [arrow])
    let plain : Ty := .comonad (.param "p" arrow) arrow
    let nested : Ty := .comonad (.param "p" (.tuple [.tuple [arrow]])) arrow
    grouped.display = plain.display ∧ plain.display ≠ nested.display ∧ plain.equal plain = true := by
  intro arrow grouped plain nested
  have named : grouped.namedIn .latin = true ∧ plain.namedIn .latin = true ∧
      nested.namedIn .latin = true := by decide +kernel
  refine ⟨?_, ?_, ?_⟩
  · exact (display_decides_up_to_grouping .latin named.1 named.2.1).1.mpr (by decide +kernel)
  · rw [Ne, (display_decides_up_to_grouping .latin named.2.1 named.2.2).1]
    decide +kernel
  · have ungrouped : plain.asRead = plain := rfl
    exact (display_decides_up_to_grouping .latin named.2.1 named.2.1).2 ungrouped ungrouped rfl

/-- An arrow as the argument of an arrow is written as the tuple of that arrow is. -/
theorem display_confuses_tuple_of_arrow :
    let arrow : Ty := .arrow .use .use (.prim "Int") (.prim "Int")
    let first : Ty := .arrow .use .use arrow (.prim "Int")
    let second : Ty := .arrow .use .use (.tuple [arrow]) (.prim "Int")
    first.namedIn .latin = true ∧ second.namedIn .latin = true ∧
      first.display = second.display ∧ first.equal second = false := by
  decide +kernel

end CoeffectSolver
