import CoeffectSolver.Proofs.Problem.Decoding
import Mathlib.Logic.Relation

/-! Changes to a node that leave what it is decoded as. Values may be replaced by aliases to them, and
the fields of a function type, of a comonadic type and of a parameter may change places, have other
keys between them and be followed by repetitions. Where a node stands and whether a scalar is quoted
does not matter either. -/

namespace CoeffectSolver.Problem

open Yaml (Node)

/-- The keys that are looked up in the value of a form. -/
def fieldsOf : String → List String
  | "func" => ["arg", "result", "coeffects"]
  | "comonad" => ["coeffect", "inner"]
  | "param" => ["name", "type"]
  | _ => []

/-- A change to the entries of a mapping in which some keys are looked up: neighbours with different
keys change places, an entry with another key is added, or a key is repeated behind its entry. -/
inductive Rearranged (names : List String) : List (Node × Node) → List (Node × Node) → Prop
  | swapped {before after : List (Node × Node)} {first second : Node × Node} :
      first.1.text ≠ second.1.text →
      Rearranged names (before ++ first :: second :: after) (before ++ second :: first :: after)
  | added {before after : List (Node × Node)} {entry : Node × Node} : entry.1.text ∉ names →
      Rearranged names (before ++ after) (before ++ entry :: after)
  | repeated {before after : List (Node × Node)} {entry earlier : Node × Node} :
      earlier ∈ before → earlier.1.text = entry.1.text →
      Rearranged names (before ++ after) (before ++ entry :: after)

/-- A single change, at any depth, to a node in which some keys are looked up. No keys are looked up
in a node that stands for a type or a coeffect. -/
inductive Revised : List String → Node → Node → Prop
  | aliased {names : List String} (anchor : String) (node : Node) :
      Revised names node (.alias anchor node)
  | target {names : List String} {anchor : String} {node node' : Node} :
      Revised names node node' → Revised names (.alias anchor node) (.alias anchor node')
  | item {names : List String} {line : Nat} {before after : List Node} {item item' : Node} :
      Revised [] item item' →
      Revised names (.sequence line (before ++ item :: after))
        (.sequence line (before ++ item' :: after))
  | value {names : List String} {line : Nat} {before after : List (Node × Node)}
      {key value value' : Node} : Revised (fieldsOf key.text) value value' →
      Revised names (.mapping line (before ++ (key, value) :: after))
        (.mapping line (before ++ (key, value') :: after))
  | entries {names : List String} {line : Nat} {entries entries' : List (Node × Node)} :
      names ≠ [] → Rearranged names entries entries' →
      Revised names (.mapping line entries) (.mapping line entries')
  | scalarMoved {names : List String} {line line' : Nat} {text : String} {plain plain' : Bool} :
      Revised names (.scalar line text plain) (.scalar line' text plain')
  | sequenceMoved {names : List String} {line line' : Nat} {items : List Node} :
      Revised names (.sequence line items) (.sequence line' items)
  | mappingMoved {names : List String} {line line' : Nat} {entries : List (Node × Node)} :
      Revised names (.mapping line entries) (.mapping line' entries)

/-- Standing where it stood is the change that leaves a node as it is. -/
theorem Revised.refl {names : List String} : (node : Node) → Revised names node node
  | .scalar _ _ _ => .scalarMoved
  | .sequence _ _ => .sequenceMoved
  | .mapping _ _ => .mappingMoved
  | .alias _ held => .target (Revised.refl held)

theorem find?_of_rearranged {names : List String} {entries entries' : List (Node × Node)}
    (rearranged : Rearranged names entries entries') {name : String} (looked : name ∈ names) :
    entries'.find? (fun entry => entry.1.text == name) =
      entries.find? (fun entry => entry.1.text == name) := by
  cases rearranged with
  | @swapped before after first second different =>
      rw [List.find?_append, List.find?_append]
      congr 1
      by_cases named : first.1.text = name
      · have other : second.1.text ≠ name := fun same => different (named.trans same.symm)
        simp [named, other]
      · simp [named, List.find?_cons]
  | @added before after entry other =>
      have passed : entry.1.text ≠ name := fun same => other (same ▸ looked)
      simp [List.find?_append, passed]
  | @repeated before after entry earlier member same =>
      rw [List.find?_append, List.find?_append]
      by_cases named : entry.1.text = name
      · -- The key was met before, so the search has ended where it is repeated.
        have met : (before.find? fun entry => entry.1.text == name).isSome := by
          rw [List.find?_isSome]
          exact ⟨earlier, member, by simp [same, named]⟩
        obtain ⟨found, first⟩ := Option.isSome_iff_exists.mp met
        rw [first, Option.some_or, Option.some_or]
      · simp [named]

/-- The entry that a search finds is changed only if it is the one whose value changes. -/
theorem find?_of_changed_value {before after : List (Node × Node)} {key value : Node} (value' : Node)
    {name : String} {found : Node × Node}
    (first : (before ++ (key, value) :: after).find? (fun entry => entry.1.text == name) =
      some found) :
    (before ++ (key, value') :: after).find? (fun entry => entry.1.text == name) = some found ∨
      key.text = name ∧ found = (key, value) ∧
        (before ++ (key, value') :: after).find? (fun entry => entry.1.text == name) =
          some (key, value') := by
  rw [List.find?_append] at first ⊢
  cases early : before.find? (fun entry => entry.1.text == name) with
  | some entry =>
      rw [early, Option.some_or] at first
      exact .inl first
  | none =>
      rw [early, Option.none_or, List.find?_cons] at first
      rw [Option.none_or, List.find?_cons]
      by_cases named : key.text = name
      · rw [beq_iff_eq.mpr named] at first ⊢
        exact .inr ⟨named, (Option.some.inj first).symm, rfl⟩
      · rw [beq_false_of_ne named] at first ⊢
        exact .inl first

section Steps

variable {names : List String} {node node' value : Node}

theorem isText_of_revised (revised : Revised names node node') {text : String}
    (holds : node.IsText text) : node'.IsText text := by
  induction revised with
  | aliased => exact holds
  | target _ ih => exact ih holds
  | scalarMoved =>
      obtain ⟨_, _, same⟩ := holds
      cases same
      exact ⟨_, _, rfl⟩
  | item | value | entries | sequenceMoved | mappingMoved =>
      obtain ⟨_, _, same⟩ := holds
      cases same

theorem text_resolve_of_revised (revised : Revised names node node') :
    node'.resolve.text = node.resolve.text := by
  induction revised with
  | target _ ih => exact ih
  | _ => rfl

theorem steps?_of_revised (revised : Revised names node node') {steps : UInt64}
    (counted : steps? node.resolve = some steps) : steps? node'.resolve = some steps := by
  have spelled : ∃ text, node.IsText text := by
    unfold Node.IsText
    generalize node.resolve = target at counted ⊢
    cases target with
    | scalar line text plain => exact ⟨text, line, plain, rfl⟩
    | _ => cases counted
  obtain ⟨text, holds⟩ := spelled
  obtain ⟨_, _, resolved'⟩ := isText_of_revised revised holds
  obtain ⟨_, _, resolved⟩ := holds
  rw [resolved] at counted
  rw [resolved']
  exact counted

theorem hasItems_of_revised (revised : Revised names node node') {items : List Node}
    (holds : node.HasItems items) :
    ∃ items', node'.HasItems items' ∧ List.Forall₂ (Revised []) items items' := by
  have unchanged : ∀ items : List Node, List.Forall₂ (Revised []) items items :=
    fun items => List.forall₂_same.mpr fun item _ => .refl item
  induction revised with
  | aliased => exact ⟨items, holds, unchanged items⟩
  | target _ ih => exact ih holds
  | @item _ line before after item item' changed _ =>
      obtain ⟨_, same⟩ := holds
      cases same
      exact ⟨_, ⟨line, rfl⟩, List.rel_append (unchanged before) (.cons changed (unchanged after))⟩
  | sequenceMoved =>
      obtain ⟨_, same⟩ := holds
      cases same
      exact ⟨items, ⟨_, rfl⟩, unchanged items⟩
  | scalarMoved | value | entries | mappingMoved =>
      obtain ⟨_, same⟩ := holds
      cases same

theorem hasPair_of_revised (revised : Revised names node node') {left right : Node}
    (holds : node.HasItems [left, right]) :
    ∃ left' right', node'.HasItems [left', right'] ∧ Revised [] left left' ∧
      Revised [] right right' := by
  obtain ⟨items', holds', each⟩ := hasItems_of_revised revised holds
  obtain ⟨left', _, lefts, others, rfl⟩ := List.forall₂_cons_left_iff.mp each
  obtain ⟨right', _, rights, none, rfl⟩ := List.forall₂_cons_left_iff.mp others
  cases none
  exact ⟨left', right', holds', lefts, rights⟩

theorem hasForm_of_revised (revised : Revised names node node') (plain : names = [])
    {form : String} (holds : node.HasForm form value) :
    ∃ value', node'.HasForm form value' ∧ Revised (fieldsOf form) value value' := by
  induction revised with
  | aliased => exact ⟨value, holds, .refl value⟩
  | target _ ih => exact ih plain holds
  | @value _ line before after key _ value' changed _ =>
      obtain ⟨_, _, same, rfl⟩ := holds
      obtain ⟨rfl, alone⟩ := Node.mapping.inj same
      cases before with
      | nil =>
          cases alone
          exact ⟨value', ⟨_, key, rfl, rfl⟩, changed⟩
      | cons => simp at alone
  | entries looked =>
      -- Only where fields are looked up may entries change, and a form has none.
      exact absurd plain looked
  | mappingMoved =>
      obtain ⟨_, key, same, named⟩ := holds
      cases same
      exact ⟨value, ⟨_, key, rfl, named⟩, .refl value⟩
  | scalarMoved | item | sequenceMoved =>
      obtain ⟨_, _, same, _⟩ := holds
      cases same

theorem hasField_of_revised (revised : Revised names node node') {name : String}
    (looked : name ∈ names) (simple : fieldsOf name = []) (holds : node.HasField name value) :
    ∃ value', node'.HasField name value' ∧ Revised [] value value' := by
  induction revised with
  | aliased => exact ⟨value, holds, .refl value⟩
  | target _ ih => exact ih looked holds
  | @value _ line before after key _ value' changed _ =>
      obtain ⟨_, _, first, same, found⟩ := holds
      cases same
      -- The value may be that of the field, of another key or of a repetition.
      obtain found' | ⟨rfl, same, found'⟩ := find?_of_changed_value value' found
      · exact ⟨value, ⟨_, _, first, rfl, found'⟩, .refl value⟩
      · cases same
        exact ⟨value', ⟨_, _, key, rfl, found'⟩, simple ▸ changed⟩
  | entries _ rearranged =>
      obtain ⟨_, _, key, same, found⟩ := holds
      cases same
      exact ⟨value, ⟨_, _, key, rfl, (find?_of_rearranged rearranged looked).trans found⟩,
        .refl value⟩
  | mappingMoved =>
      obtain ⟨_, _, key, same, found⟩ := holds
      cases same
      exact ⟨value, ⟨_, _, key, rfl, found⟩, .refl value⟩
  | scalarMoved | item | sequenceMoved =>
      obtain ⟨_, _, _, same, _⟩ := holds
      cases same

end Steps

mutual

/-- A change leaves the type that a node is decoded as. -/
theorem decodeType_of_revised : (type : Ty) → {node node' : Node} → Revised [] node node' →
    decodeType node = .ok type → decodeType node' = .ok type
  | .absent, _, _, _, decoded => by cases decodeType_eq_ok_iff.mp decoded
  | .prim _, _, _, revised, decoded => by
      cases decodeType_eq_ok_iff.mp decoded with
      | prim named filled =>
          exact decodeType_eq_ok_iff.mpr (.prim (isText_of_revised revised named) filled)
  | .var _, _, _, revised, decoded => by
      cases decodeType_eq_ok_iff.mp decoded with
      | var formed named filled =>
          obtain ⟨_, formed, revised⟩ := hasForm_of_revised revised rfl formed
          exact decodeType_eq_ok_iff.mpr (.var formed (isText_of_revised revised named) filled)
  | .tuple elements, _, _, revised, decoded => by
      cases decodeType_eq_ok_iff.mp decoded with
      | tuple formed holds each =>
          obtain ⟨_, formed, revised⟩ := hasForm_of_revised revised rfl formed
          obtain ⟨_, holds, changed⟩ := hasItems_of_revised revised holds
          exact decodeType_eq_ok_iff.mpr
            (.tuple formed holds (decodeTypes_of_revised elements changed each))
  | .arrow declaration call argument result, _, _, revised, decoded => by
      cases decodeType_eq_ok_iff.mp decoded with
      | arrow formed argued resulted annotated both readArgument readResult readDeclaration
          readCall =>
          obtain ⟨_, formed, revised⟩ := hasForm_of_revised revised rfl formed
          obtain ⟨_, argued, arguments⟩ := hasField_of_revised revised (by decide) rfl argued
          obtain ⟨_, resulted, results⟩ := hasField_of_revised revised (by decide) rfl resulted
          obtain ⟨_, annotated, revised⟩ := hasField_of_revised revised (by decide) rfl annotated
          obtain ⟨_, _, both, declarations, calls⟩ := hasPair_of_revised revised both
          exact decodeType_eq_ok_iff.mpr (.arrow formed argued resulted annotated both
            (decodeType_of_revised argument arguments readArgument)
            (decodeType_of_revised result results readResult)
            (decodeCoeffect_of_revised declaration declarations readDeclaration)
            (decodeCoeffect_of_revised call calls readCall))
  | .comonad requirement inner, _, _, revised, decoded => by
      cases decodeType_eq_ok_iff.mp decoded with
      | comonad formed required inside readRequirement readInner =>
          obtain ⟨_, formed, revised⟩ := hasForm_of_revised revised rfl formed
          obtain ⟨_, required, requirements⟩ := hasField_of_revised revised (by decide) rfl required
          obtain ⟨_, inside, inners⟩ := hasField_of_revised revised (by decide) rfl inside
          exact decodeType_eq_ok_iff.mpr (.comonad formed required inside
            (decodeCoeffect_of_revised requirement requirements readRequirement)
            (decodeType_of_revised inner inners readInner))

theorem decodeTypes_of_revised : (elements : List Ty) → {items items' : List Node} →
    List.Forall₂ (Revised []) items items' →
    List.Forall₂ (fun item element => decodeType item = .ok element) items elements →
    List.Forall₂ (fun item element => decodeType item = .ok element) items' elements
  | [], _, _, changed, each => by
      cases each
      cases changed
      exact .nil
  | first :: rest, _, _, changed, each => by
      cases each with
      | cons readFirst readRest =>
          cases changed with
          | cons firsts rests =>
              exact .cons (decodeType_of_revised first firsts readFirst)
                (decodeTypes_of_revised rest rests readRest)

/-- A change leaves the coeffect that a node is decoded as. -/
theorem decodeCoeffect_of_revised : (coeffect : Coeffect) → {node node' : Node} →
    Revised [] node node' → decodeCoeffect node = .ok coeffect → decodeCoeffect node' = .ok coeffect
  | .absent, _, _, _, decoded => by cases decodeCoeffect_eq_ok_iff.mp decoded
  | .use, _, _, revised, decoded => by
      cases decodeCoeffect_eq_ok_iff.mp decoded with
      | use named => exact decodeCoeffect_eq_ok_iff.mpr (.use (isText_of_revised revised named))
  | .ignore, _, _, revised, decoded => by
      cases decodeCoeffect_eq_ok_iff.mp decoded with
      | ignore named => exact decodeCoeffect_eq_ok_iff.mpr (.ignore (isText_of_revised revised named))
  | .unconstrained, _, _, revised, decoded => by
      cases decodeCoeffect_eq_ok_iff.mp decoded with
      | unconstrained named =>
          exact decodeCoeffect_eq_ok_iff.mpr (.unconstrained (isText_of_revised revised named))
  | .past _, _, _, revised, decoded => by
      cases decodeCoeffect_eq_ok_iff.mp decoded with
      | past formed counted =>
          obtain ⟨_, formed, revised⟩ := hasForm_of_revised revised rfl formed
          exact decodeCoeffect_eq_ok_iff.mpr (.past formed (steps?_of_revised revised counted))
  | .var _, _, _, revised, decoded => by
      cases decodeCoeffect_eq_ok_iff.mp decoded with
      | var formed named filled =>
          obtain ⟨_, formed, revised⟩ := hasForm_of_revised revised rfl formed
          exact decodeCoeffect_eq_ok_iff.mpr (.var formed (isText_of_revised revised named) filled)
  | .param _ payload, _, _, revised, decoded => by
      cases decodeCoeffect_eq_ok_iff.mp decoded with
      | named formed named =>
          obtain ⟨_, formed, revised⟩ := hasForm_of_revised revised rfl formed
          exact decodeCoeffect_eq_ok_iff.mpr (.named formed (isText_of_revised revised named))
      | typed formed named typed readPayload =>
          obtain ⟨_, formed, revised⟩ := hasForm_of_revised revised rfl formed
          obtain ⟨_, named, names⟩ := hasField_of_revised revised (by decide) rfl named
          obtain ⟨_, typed, types⟩ := hasField_of_revised revised (by decide) rfl typed
          rw [← text_resolve_of_revised names]
          exact decodeCoeffect_eq_ok_iff.mpr (.typed formed named typed
            (decodeType_of_revised payload types readPayload))
  | .merge left right, _, _, revised, decoded => by
      cases decodeCoeffect_eq_ok_iff.mp decoded with
      | merge formed both readLeft readRight =>
          obtain ⟨_, formed, revised⟩ := hasForm_of_revised revised rfl formed
          obtain ⟨_, _, both, lefts, rights⟩ := hasPair_of_revised revised both
          exact decodeCoeffect_eq_ok_iff.mpr (.merge formed both
            (decodeCoeffect_of_revised left lefts readLeft)
            (decodeCoeffect_of_revised right rights readRight))
  | .split left right, _, _, revised, decoded => by
      cases decodeCoeffect_eq_ok_iff.mp decoded with
      | split formed both readLeft readRight =>
          obtain ⟨_, formed, revised⟩ := hasForm_of_revised revised rfl formed
          obtain ⟨_, _, both, lefts, rights⟩ := hasPair_of_revised revised both
          exact decodeCoeffect_eq_ok_iff.mpr (.split formed both
            (decodeCoeffect_of_revised left lefts readLeft)
            (decodeCoeffect_of_revised right rights readRight))
  | .seq left right, _, _, revised, decoded => by
      cases decodeCoeffect_eq_ok_iff.mp decoded with
      | seq formed both readLeft readRight =>
          obtain ⟨_, formed, revised⟩ := hasForm_of_revised revised rfl formed
          obtain ⟨_, _, both, lefts, rights⟩ := hasPair_of_revised revised both
          exact decodeCoeffect_eq_ok_iff.mpr (.seq formed both
            (decodeCoeffect_of_revised left lefts readLeft)
            (decodeCoeffect_of_revised right rights readRight))

end

/-- Any number of changes leaves the type that a node is decoded as. -/
theorem decodeType_of_revisions {type : Ty} {node node' : Node}
    (revisions : Relation.ReflTransGen (Revised []) node node')
    (decoded : decodeType node = .ok type) : decodeType node' = .ok type := by
  induction revisions with
  | refl => exact decoded
  | tail _ revised ih => exact decodeType_of_revised type revised ih

theorem decodeCoeffect_of_revisions {coeffect : Coeffect} {node node' : Node}
    (revisions : Relation.ReflTransGen (Revised []) node node')
    (decoded : decodeCoeffect node = .ok coeffect) : decodeCoeffect node' = .ok coeffect := by
  induction revisions with
  | refl => exact decoded
  | tail _ revised ih => exact decodeCoeffect_of_revised coeffect revised ih

end CoeffectSolver.Problem
