import CoeffectSolver.Proofs.Analysis.Implicit.Satisfaction
import Mathlib.Data.List.Induction

/-! Values of coeffects written as coeffects again. A set of parameters is written as plain use or as
a left-nested merge of its members in ascending order, which has that set as its value whatever is
assigned, and which is written as itself, payload types included. -/

namespace CoeffectSolver

namespace Coeffect

/-- A left-nested merge of parameters with the names of a list. -/
inductive Chain : List String → Coeffect → Prop
  | param (name : String) (payload : Ty) : Chain [name] (.param name payload)
  | merge {names : List String} {left : Coeffect} (chain : Chain names left) (name : String)
      (payload : Ty) : Chain (names ++ [name]) (.merge left (.param name payload))

/-- The coeffect with no payload type for any of its parameters. -/
def withoutPayloads : Coeffect → Coeffect
  | .param name _ => .param name .absent
  | .merge left right => .merge left.withoutPayloads right.withoutPayloads
  | .split left right => .split left.withoutPayloads right.withoutPayloads
  | .seq left right => .seq left.withoutPayloads right.withoutPayloads
  | coeffect => coeffect

/-- A list of parameters as a coeffect, each with a payload type. -/
def ofParameters (payload : String → Ty) : List String → Coeffect
  | [] => .use
  | first :: rest =>
      rest.foldl (fun merged name => .merge merged (.param name (payload name)))
        (.param first (payload first))

section Parameters

variable {payload payload' : String → Ty} {names : List String}

private theorem ofParameters_concat (filled : names ≠ []) (name : String) :
    ofParameters payload (names ++ [name]) =
      .merge (ofParameters payload names) (.param name (payload name)) := by
  obtain ⟨first, rest, rfl⟩ := List.exists_cons_of_ne_nil filled
  rw [List.cons_append, ofParameters, List.foldl_append]
  rfl

private theorem ofParameters_induction {motive : List String → Coeffect → Prop}
    (none : motive [] .use) (one : ∀ name, motive [name] (.param name (payload name)))
    (more : ∀ names name, names ≠ [] → motive names (ofParameters payload names) →
      motive (names ++ [name]) (.merge (ofParameters payload names) (.param name (payload name))))
    (names : List String) : motive names (ofParameters payload names) := by
  induction names using List.reverseRecOn with
  | nil => exact none
  | append_singleton names name ih =>
      by_cases filled : names = []
      · rw [filled]
        exact one name
      · rw [ofParameters_concat filled]
        exact more names name filled ih

theorem chain_ofParameters (filled : names ≠ []) : Chain names (ofParameters payload names) := by
  refine ofParameters_induction (motive := fun names merged => names ≠ [] → Chain names merged)
    (fun empty => absurd rfl empty) ?_ ?_ names filled
  · intro name _
    exact .param name (payload name)
  · intro names name filled chained _
    exact (chained filled).merge name (payload name)

theorem withoutPayloads_ofParameters (payload : String → Ty) (names : List String) :
    (ofParameters payload names).withoutPayloads = ofParameters (fun _ => .absent) names := by
  refine ofParameters_induction (motive := fun names merged =>
    merged.withoutPayloads = ofParameters (fun _ => .absent) names) rfl (fun _ => rfl) ?_ names
  intro names name filled same
  rw [ofParameters_concat filled, withoutPayloads, same]
  rfl

theorem ofParameters_congr (same : ∀ name ∈ names, payload name = payload' name) :
    ofParameters payload names = ofParameters payload' names := by
  refine ofParameters_induction (motive := fun names merged =>
    (∀ name ∈ names, payload name = payload' name) → merged = ofParameters payload' names)
    (fun _ => rfl) ?_ ?_ names same
  · intro name same
    rw [same name List.mem_cons_self]
    rfl
  · intro names name filled equal same
    rw [List.forall_mem_append, List.forall_mem_singleton] at same
    rw [ofParameters_concat filled, ← equal same.1, same.2]

end Parameters

end Coeffect

/-- A type, if one was given. -/
def Ty.given? : Ty → Option Ty
  | .absent => none
  | type => some type

private theorem NameSet.eq_empty_of_names {members : NameSet} (empty : members.names = []) :
    members = ∅ := by
  cases members
  cases empty
  rfl

namespace NameMap

theorem lookup_append {α : Type} (name : String) (first second : List (String × α)) :
    lookup name (first ++ second) = (lookup name first).or (lookup name second) := by
  induction first with
  | nil => rfl
  | cons entry rest ih =>
      rw [List.cons_append, lookup, lookup, ih]
      split
      · rfl
      · rfl

end NameMap

namespace Coeffect

open NameMap (lookup lookup_append)

private theorem lookup_payloads_param (name other : String) (type : Ty) :
    lookup name (Coeffect.param other type).payloads =
      if name = other then type.given? else none := by
  cases type <;> simp [payloads, lookup, Ty.given?, eq_comm]

/-- The payload types that a coeffect carries are given ones. -/
theorem given?_of_lookup_payloads {name : String} {type : Ty} : (coeffect : Coeffect) →
    lookup name coeffect.payloads = some type → type.given? = some type
  | .param other held, found => by
      rw [lookup_payloads_param] at found
      split at found
      · cases held <;> cases found <;> rfl
      · cases found
  | .merge left right, found => by
      rw [payloads, lookup_append, Option.or_eq_some_iff] at found
      exact found.elim (given?_of_lookup_payloads left) fun later =>
        given?_of_lookup_payloads right later.2
  | .split left right, found => by
      rw [payloads, lookup_append, Option.or_eq_some_iff] at found
      exact found.elim (given?_of_lookup_payloads left) fun later =>
        given?_of_lookup_payloads right later.2
  | .seq left right, found => by
      rw [payloads, lookup_append, Option.or_eq_some_iff] at found
      exact found.elim (given?_of_lookup_payloads left) fun later =>
        given?_of_lookup_payloads right later.2
  | .absent, found => by cases found
  | .use, found => by cases found
  | .ignore, found => by cases found
  | .unconstrained, found => by cases found
  | .past _, found => by cases found
  | .var _, found => by cases found

theorem lookup_payloads_ofParameters (payload : String → Ty) (names : List String) (name : String) :
    lookup name (ofParameters payload names).payloads =
      if name ∈ names then (payload name).given? else none := by
  refine ofParameters_induction (motive := fun names merged => lookup name merged.payloads =
    if name ∈ names then (payload name).given? else none) rfl ?_ ?_ names
  · intro other
    rw [lookup_payloads_param]
    by_cases same : name = other
    · simp [same]
    · simp [same]
  · intro names other _ found
    rw [payloads, lookup_append, found, lookup_payloads_param]
    by_cases same : name = other
    · subst same
      by_cases early : name ∈ names
      · simp [early]
      · simp [early]
    · simp [same]

end Coeffect

namespace Implicit

open NameMap (lookup lookup_append)

theorem evaluate_of_chain (assignment : Assignment) {names : List String} {coeffect : Coeffect}
    (chain : coeffect.Chain names) :
    ∃ value, evaluate assignment coeffect = .ok value ∧ ∀ name, name ∈ value ↔ name ∈ names := by
  induction chain with
  | param name payload =>
      refine ⟨NameSet.singleton name, rfl, fun other => ?_⟩
      rw [NameSet.mem_singleton, List.mem_singleton]
  | merge chain name payload ih =>
      obtain ⟨value, evaluated, same⟩ := ih
      refine ⟨value.union (NameSet.singleton name), ?_, fun other => ?_⟩
      · rw [evaluate, evaluated]
        rfl
      · rw [NameSet.mem_union, same, NameSet.mem_singleton, List.mem_append, List.mem_singleton]

namespace Solution

variable {solution : Solution} {coeffect : Coeffect} {value : NameSet}

private theorem ofSet_eq (solution : Solution) (atHand : List (String × Ty)) (members : NameSet) :
    solution.ofSet atHand members =
      .ofParameters (payloadIn (atHand ++ solution.payloads)) members.names := by
  unfold ofSet
  cases members.names with
  | nil => rfl
  | cons first rest => rfl

theorem chain_ofSet {atHand : List (String × Ty)} {members : NameSet} (filled : members.names ≠ []) :
    (solution.ofSet atHand members).Chain members.names := by
  rw [ofSet_eq]
  exact Coeffect.chain_ofParameters filled

theorem withoutPayloads_ofSet (atHand atHand' : List (String × Ty)) (members : NameSet) :
    (solution.ofSet atHand members).withoutPayloads =
      (solution.ofSet atHand' members).withoutPayloads := by
  rw [ofSet_eq, ofSet_eq, Coeffect.withoutPayloads_ofParameters,
    Coeffect.withoutPayloads_ofParameters]

/-- What a set of parameters is written as has the set as its value, whatever is assigned. -/
theorem evaluate_ofSet (assignment : Assignment) (atHand : List (String × Ty)) (members : NameSet) :
    evaluate assignment (solution.ofSet atHand members) = .ok members := by
  by_cases empty : members.names = []
  · rw [NameSet.eq_empty_of_names empty]
    rfl
  · obtain ⟨value, evaluated, same⟩ := evaluate_of_chain assignment (chain_ofSet empty)
    rw [evaluated, NameSet.ext_of_mem same]

theorem display_eq_ofSet (evaluated : evaluate solution.assignment coeffect = .ok value) :
    solution.display coeffect = .ok (solution.ofSet coeffect.payloads value) := by
  unfold display
  rw [evaluated]
  rfl

/-- A parameter keeps its payload type when what is displayed is at hand instead of the coeffect. -/
private theorem payloadIn_ofSet (coeffect : Coeffect) {members : NameSet} {name : String}
    (member : name ∈ members.names) :
    payloadIn ((solution.ofSet coeffect.payloads members).payloads ++ solution.payloads) name =
      payloadIn (coeffect.payloads ++ solution.payloads) name := by
  rw [ofSet_eq, payloadIn, lookup_append, Coeffect.lookup_payloads_ofParameters, if_pos member,
    payloadIn, lookup_append]
  cases own : lookup name coeffect.payloads with
  | some known =>
      rw [Option.some_or, Option.getD_some, Coeffect.given?_of_lookup_payloads coeffect own]
      rfl
  | none =>
      rw [Option.none_or]
      cases lookup name solution.payloads with
      | none => rfl
      | some known => cases known <;> rfl

theorem display_ofSet (solution : Solution) (coeffect : Coeffect) (members : NameSet) :
    solution.display (solution.ofSet coeffect.payloads members) =
      .ok (solution.ofSet coeffect.payloads members) := by
  rw [display_eq_ofSet (evaluate_ofSet solution.assignment _ members), ofSet_eq solution _ members,
    ofSet_eq solution _ members]
  congr 1
  apply Coeffect.ofParameters_congr
  intro name member
  rw [← ofSet_eq]
  exact payloadIn_ofSet coeffect member

theorem mem_assigned_iff {name : String} {shown : Coeffect} :
    (name, shown) ∈ solution.assigned ↔
      solution.assignment.contains name = true ∧ solution.display (.var name) = .ok shown := by
  have displayed : solution.display (.var name) =
      .ok (solution.ofSet [] (solution.assignment.value name)) := display_eq_ofSet rfl
  rw [displayed, Except.ok.injEq, assigned, List.mem_map, NameMap.contains_iff_exists]
  constructor
  · rintro ⟨⟨_, held⟩, listed, same⟩
    cases same
    have found := NameMap.get?_eq_some_iff.mpr listed
    refine ⟨⟨held, found⟩, ?_⟩
    rw [Assignment.value, found, Option.getD_some]
  · rintro ⟨⟨held, found⟩, same⟩
    rw [Assignment.value, found, Option.getD_some] at same
    exact ⟨(name, held), NameMap.get?_eq_some_iff.mp found, by rw [same]⟩

theorem ascending_assigned (solution : Solution) :
    (solution.assigned.map Prod.fst).Pairwise (fun earlier later => earlier < later) := by
  rw [assigned, List.map_map, List.pairwise_map]
  exact solution.assignment.ascending

/-- A coeffect with a value is displayed as plain use if nothing is required, and otherwise as the
parameters that are required, merged in ascending order. What is displayed has the value of the
coeffect under every assignment, is displayed as itself, and is the same, apart from payload types,
for all coeffects with that value. The assigned variables are listed in ascending order, each with
what is displayed for it. -/
theorem display_is_canonical (solution : Solution) :
    (∀ coeffect value, evaluate solution.assignment coeffect = .ok value →
      ∃ shown, solution.display coeffect = .ok shown ∧
        (value = ∅ → shown = .use) ∧
        (value ≠ ∅ → shown.Chain value.names ∧
          value.names.Pairwise (fun earlier later => earlier < later)) ∧
        (∀ assignment, evaluate assignment shown = .ok value) ∧
        solution.display shown = .ok shown ∧
        ∀ other, evaluate solution.assignment other = .ok value →
          ∃ shown', solution.display other = .ok shown' ∧
            shown'.withoutPayloads = shown.withoutPayloads) ∧
    (solution.assigned.map Prod.fst).Pairwise (fun earlier later => earlier < later) ∧
    ∀ name shown, (name, shown) ∈ solution.assigned ↔
      solution.assignment.contains name = true ∧ solution.display (.var name) = .ok shown := by
  refine ⟨fun coeffect value evaluated => ?_, ascending_assigned solution,
    fun name shown => mem_assigned_iff⟩
  refine ⟨_, display_eq_ofSet evaluated, fun empty => ?_, fun filled => ⟨chain_ofSet ?_, value.ascending⟩,
    fun assignment => evaluate_ofSet assignment _ value, display_ofSet solution coeffect value,
    fun other evaluated' => ⟨_, display_eq_ofSet evaluated', withoutPayloads_ofSet _ _ value⟩⟩
  · rw [empty]
    rfl
  · intro empty
    exact filled (NameSet.eq_empty_of_names empty)

theorem display_is_canonical_of_sequence :
    ∃ solution, solve [⟨.var "r", .merge (.param "y" .absent) (.param "x" (.prim "Bool"))⟩] =
        .ok solution ∧
      ∃ shown, solution.display (.seq (.param "z" (.prim "Int")) (.var "r")) = .ok shown ∧
        shown.Chain ["x", "y", "z"] ∧
        evaluate NameMap.empty shown = .ok (NameSet.ofList ["x", "y", "z"]) ∧
        solution.display shown = .ok shown ∧
        ("r", .merge (.param "x" (.prim "Bool")) (.param "y" .absent)) ∈ solution.assigned := by
  have solved : solve [⟨.var "r", .merge (.param "y" .absent) (.param "x" (.prim "Bool"))⟩] =
      .ok ⟨NameMap.ofList [("r", NameSet.ofList ["x", "y"])], [("x", .prim "Bool")]⟩ := by
    decide +kernel
  refine ⟨_, solved, ?_⟩
  obtain ⟨displays, _, listed⟩ := display_is_canonical
    ⟨NameMap.ofList [("r", NameSet.ofList ["x", "y"])], [("x", .prim "Bool")]⟩
  obtain ⟨shown, displayed, _, filled, valued, again, _⟩ :=
    displays (.seq (.param "z" (.prim "Int")) (.var "r")) (NameSet.ofList ["x", "y", "z"])
      (by decide +kernel)
  exact ⟨shown, displayed, (filled (by decide +kernel)).1, valued NameMap.empty, again,
    (listed _ _).mpr (by decide +kernel)⟩

end Solution

end Implicit
end CoeffectSolver
