import CoeffectSolver.Proofs.Term.Text

/-! What a reader takes a type for. A tuple whose only element is an arrow is written as the arrow in
parentheses, and where arrows stand in parentheses anyway it is read as the arrow. Types are written
as they are read. -/

namespace CoeffectSolver

/-- Reads the parentheses of a tuple whose only element is an arrow as put around that arrow. -/
def Ty.ungrouped : Ty → Ty
  | .tuple [.arrow declaration call argument result] => .arrow declaration call argument result
  | type => type

mutual

/-- A type with every tuple whose only element is an arrow replaced by the arrow where the arrow would
stand in parentheses: as the argument of an arrow, below an annotation and as a payload. -/
def Ty.asRead : Ty → Ty
  | .absent => .absent
  | .var name => .var name
  | .prim name => .prim name
  | .tuple elements => .tuple (Ty.elementsAsRead elements)
  | .arrow declaration call argument result =>
      .arrow declaration.asRead call.asRead argument.asRead.ungrouped result.asRead
  | .comonad requirement inner => .comonad requirement.asRead inner.asRead.ungrouped

def Ty.elementsAsRead : List Ty → List Ty
  | [] => []
  | first :: rest => first.asRead :: Ty.elementsAsRead rest

def Coeffect.asRead : Coeffect → Coeffect
  | .param name payload => .param name payload.asRead.ungrouped
  | .merge left right => .merge left.asRead right.asRead
  | .split left right => .split left.asRead right.asRead
  | .seq left right => .seq left.asRead right.asRead
  | coeffect => coeffect

end

theorem Ty.elementsAsRead_eq_map (elements : List Ty) :
    Ty.elementsAsRead elements = elements.map Ty.asRead := by
  induction elements with
  | nil => rfl
  | cons first rest ih => exact congrArg (first.asRead :: ·) ih

namespace Ty

theorem isArrow_asRead (type : Ty) : type.asRead.isArrow = type.isArrow := by
  cases type <;> rfl

theorem ungrouped_asRead_of_enclosed {type : Ty} {elements : List Ty}
    (enclosed : type.enclosed? = some elements) :
    type.asRead.ungrouped = (Ty.tuple (elements.map asRead)).ungrouped := by
  cases type with
  | tuple =>
      cases enclosed
      rw [asRead, elementsAsRead_eq_map]
  | arrow => cases enclosed; rfl
  | _ => cases enclosed

/-- A type that is not an arrow can be told from what its parentheses are read as. -/
theorem eq_ite_ungrouped {type : Ty} (plain : type.isArrow = false) :
    type = if type.ungrouped.isArrow then .tuple [type.ungrouped] else type.ungrouped := by
  unfold ungrouped
  split
  · rfl
  · rw [plain]
    rfl

theorem eq_of_ungrouped_eq {type other : Ty} (plain : type.isArrow = false)
    (plain' : other.isArrow = false) (same : type.ungrouped = other.ungrouped) : type = other := by
  rw [eq_ite_ungrouped plain, eq_ite_ungrouped plain', same]

theorem tightText_ungrouped (type : Ty) : type.ungrouped.tightText = type.tightText := by
  unfold ungrouped
  split
  · rw [tightText_arrow, tightText_tuple, elementsText_cons, furtherText_nil, List.append_nil]
  · rfl

/-- The text where arrows stand in parentheses follows from the one where they stand without. -/
theorem tightText_asRead {type : Ty} (same : type.asRead.looseText = type.looseText) :
    type.asRead.tightText = type.tightText := by
  cases kind : type.isArrow with
  | false =>
      rw [← looseText_eq_tightText kind, ← looseText_eq_tightText (by rw [isArrow_asRead, kind]), same]
  | true =>
      cases type with
      | arrow => rw [tightText_arrow, ← same, asRead, tightText_arrow]
      | _ => cases kind

theorem payloadText_asRead {payload : Ty} (same : payload.asRead.looseText = payload.looseText) :
    payload.asRead.ungrouped.payloadText = payload.payloadText := by
  by_cases given : payload = .absent
  · rw [given]
    rfl
  · have given' : payload.asRead.ungrouped ≠ .absent := by
      cases payload with
      | absent => exact absurd rfl given
      | tuple elements =>
          rw [asRead]
          unfold ungrouped
          split <;> exact Ty.noConfusion
      | _ => exact Ty.noConfusion
    rw [payloadText_of_given given, payloadText_of_given given', tightText_ungrouped,
      tightText_asRead same]

theorem furtherText_asRead {elements : List Ty}
    (each : ∀ element ∈ elements, element.asRead.looseText = element.looseText) :
    furtherText (elementsAsRead elements) = furtherText elements := by
  induction elements with
  | nil => rfl
  | cons next rest ih =>
      rw [List.forall_mem_cons] at each
      rw [elementsAsRead, furtherText_cons, furtherText_cons, each.1, ih each.2]

theorem elementsText_asRead {elements : List Ty}
    (each : ∀ element ∈ elements, element.asRead.looseText = element.looseText) :
    elementsText (elementsAsRead elements) = elementsText elements := by
  cases elements with
  | nil => rfl
  | cons first rest =>
      rw [List.forall_mem_cons] at each
      rw [elementsAsRead, elementsText_cons, elementsText_cons, each.1, furtherText_asRead each.2]

end Ty

theorem Coeffect.bothText_asRead {left right : Coeffect} (lefts : left.asRead.text = left.text)
    (rights : right.asRead.text = right.text) :
    Coeffect.bothText left.asRead right.asRead = Coeffect.bothText left right := by
  rw [Coeffect.bothText, Coeffect.bothText, lefts, rights]

mutual

/-- A type and what it is read as are written alike. -/
theorem Ty.looseText_asRead : (type : Ty) → type.asRead.looseText = type.looseText
  | .absent => rfl
  | .prim _ => rfl
  | .var _ => rfl
  | .tuple elements => by
      rw [Ty.looseText_eq_tightText rfl, Ty.looseText_eq_tightText rfl, Ty.asRead,
        Ty.tightText_tuple, Ty.tightText_tuple,
        Ty.elementsText_asRead (Ty.looseText_asRead_elements elements)]
  | .arrow declaration call argument result => by
      rw [Ty.asRead, Ty.looseText_arrow, Ty.looseText_arrow, Ty.tightText_ungrouped,
        Ty.tightText_asRead (Ty.looseText_asRead argument), Coeffect.text_asRead declaration,
        Coeffect.text_asRead call, Ty.looseText_asRead result]
  | .comonad requirement inner => by
      rw [Ty.looseText_eq_tightText rfl, Ty.looseText_eq_tightText rfl, Ty.asRead,
        Ty.tightText_comonad, Ty.tightText_comonad, Ty.tightText_ungrouped,
        Ty.tightText_asRead (Ty.looseText_asRead inner), Coeffect.text_asRead requirement]

theorem Ty.looseText_asRead_elements : (elements : List Ty) →
    ∀ element ∈ elements, element.asRead.looseText = element.looseText
  | [] => List.forall_mem_nil _
  | first :: rest => List.forall_mem_cons.mpr
      ⟨Ty.looseText_asRead first, Ty.looseText_asRead_elements rest⟩

theorem Coeffect.text_asRead : (coeffect : Coeffect) → coeffect.asRead.text = coeffect.text
  | .absent => rfl
  | .use => rfl
  | .ignore => rfl
  | .unconstrained => rfl
  | .past _ => rfl
  | .var _ => rfl
  | .param name payload => by
      rw [Coeffect.asRead, Coeffect.text_param, Coeffect.text_param,
        Ty.payloadText_asRead (Ty.looseText_asRead payload)]
  | .merge left right => by
      rw [Coeffect.asRead, Coeffect.text_merge, Coeffect.text_merge,
        Coeffect.bothText_asRead (Coeffect.text_asRead left) (Coeffect.text_asRead right)]
  | .split left right => by
      rw [Coeffect.asRead, Coeffect.text_split, Coeffect.text_split,
        Coeffect.bothText_asRead (Coeffect.text_asRead left) (Coeffect.text_asRead right)]
  | .seq left right => by
      rw [Coeffect.asRead, Coeffect.text_seq, Coeffect.text_seq,
        Coeffect.bothText_asRead (Coeffect.text_asRead left) (Coeffect.text_asRead right)]

end

end CoeffectSolver
