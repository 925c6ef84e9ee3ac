import CoeffectSolver.Checking
import CoeffectSolver.Proofs.Analysis.Dataflow.Satisfaction
import CoeffectSolver.Proofs.Analysis.Implicit.Satisfaction
import CoeffectSolver.Proofs.Unification.Annotations

/-! Checking constraints whose sides become the same type, annotations included. Nothing is left to
solve about annotations then, but those of types that were not yet the same when they met are still
equated, each with itself, and an analysis has no rule for most equalities of that kind. The first
one without a rule decides the check; where all have one, the check succeeds. -/

namespace CoeffectSolver

namespace Analysis

/-- Whether an analysis has a rule for the equality between an annotation and itself. -/
def admitsIdentity : Analysis → Coeffect → Bool
  | _, .unconstrained => true
  | _, .var _ => true
  | _, .merge (.var _) (.var _) => true
  | .implicit, .split (.param _ _) (.var _) => true
  | _, _ => false

/-- How an analysis announces a constraint that it has no rule for. -/
def invalidLabel : Analysis → String
  | .implicit => Implicit.invalidLabel
  | .dataflow => Dataflow.invalidLabel

end Analysis

namespace Sweep

variable {α : Type} {sweep : Sweep α} {blank : α} {swept : List CoeffectConstraint}
  {map : NameMap α}

/-- Every assigned variable stands for the same value. -/
def Uniform (blank : α) (map : NameMap α) : Prop :=
  ∀ name held, map.get? name = some held → held = blank

/-- Where every variable stands for a value, a constraint writes that value again. -/
def Repeats (sweep : Sweep α) (blank : α) (constraint : CoeffectConstraint) : Prop :=
  ∀ map, Uniform blank map →
    ∃ target, sweep.apply map constraint = .ok (sweep.classes.assign target blank map)

theorem uniform_empty : Uniform blank NameMap.empty := by
  intro name held found
  cases found

theorem Uniform.assign (uniform : Uniform blank map) (target : String) :
    Uniform blank (sweep.classes.assign target blank map) := by
  intro name held found
  rw [sweep.get?_assign] at found
  split at found
  · exact (Option.some.inj found).symm
  · exact uniform name held found

theorem Uniform.getD_eq (uniform : Uniform blank map) (name : String) :
    (map.get? name).getD blank = blank := by
  cases found : map.get? name with
  | none => rfl
  | some held => exact uniform name held found

theorem exists_uniform_of_sweep (repeats : ∀ constraint ∈ swept, sweep.Repeats blank constraint)
    (uniform : Uniform blank map) :
    ∃ final, swept.foldlM sweep.apply map = .ok final ∧ Uniform blank final := by
  induction swept generalizing map with
  | nil => exact ⟨map, rfl, uniform⟩
  | cons constraint rest ih =>
      rw [List.forall_mem_cons] at repeats
      obtain ⟨target, applied⟩ := repeats.1 map uniform
      rw [List.foldlM_cons, applied]
      exact ih repeats.2 (uniform.assign target)

theorem get?_eq_of_uniform {next : NameMap α} {name : String} (uniform : Uniform blank map)
    (uniform' : Uniform blank next) (held : map.contains name = true)
    (held' : next.contains name = true) : map.get? name = next.get? name := by
  obtain ⟨value, found⟩ := NameMap.contains_iff_exists.mp held
  obtain ⟨value', found'⟩ := NameMap.contains_iff_exists.mp held'
  rw [found, found', uniform name value found, uniform' name value' found']

theorem settled_of_repeats [DecidableEq α]
    (repeats : ∀ constraint ∈ swept, sweep.Repeats blank constraint) {fuel : Nat}
    (enough : 1 < fuel) :
    (Iteration.run (NameMap.agreesBy fun value value' => decide (value = value'))
      (fun map => swept.foldlM sweep.apply map) fuel NameMap.empty).halt = .settled := by
  -- The first sweep assigns every variable that is ever written, and the second changes nothing.
  refine Iteration.settled_of_stages (motive := fun count map => Uniform blank map ∧ (0 < count →
    ∀ name, ¬ sweep.Untouched swept name → map.contains name = true)) ?_ ?_ ?_ (Nat.zero_le 1) ?_
  · intro count map stage
    obtain ⟨next, success, uniform⟩ := exists_uniform_of_sweep repeats stage.1
    refine ⟨next, success, uniform, fun _ name touched => ?_⟩
    exact sweep.contains_of_sweep success (.inr touched)
  · intro map next stage success
    obtain ⟨final, success', uniform⟩ := exists_uniform_of_sweep repeats stage.1
    cases Except.ok.inj (success.symm.trans success')
    apply NameMap.agreesBy_eq_true_iff.mpr
    apply NameMap.ext_of_get?
    intro name
    by_cases untouched : sweep.Untouched swept name
    · exact (get?_of_untouched untouched success).symm
    · exact get?_eq_of_uniform stage.1 uniform (stage.2 Nat.one_pos name untouched)
        (sweep.contains_of_sweep success (.inr untouched))
  · exact ⟨uniform_empty, fun positive => absurd positive (Nat.lt_irrefl 0)⟩
  · omega

end Sweep

namespace Implicit

open Sweep (Uniform)

variable {equalities : List CoeffectConstraint}

theorem admitsIdentity_eq (coeffect : Coeffect) :
    Analysis.implicit.admitsIdentity coeffect =
      (coeffect.isUnconstrained || (Rule.ofLeft? coeffect).isSome) := by
  unfold Analysis.admitsIdentity Rule.ofLeft? Coeffect.isUnconstrained
  split <;> grind

private theorem kept_of_rejected {equality : CoeffectConstraint}
    (same : equality.left = equality.right)
    (rejected : Analysis.implicit.admitsIdentity equality.left = false) :
    (!isSkipped equality && (link? equality).isNone) = true := by
  obtain ⟨left, right⟩ := equality
  cases same
  cases left <;> first | rfl | cases rejected

/-- A rule for a coeffect that is not a variable takes away what the coeffect itself asks for. -/
private theorem written_eq_empty {map : Assignment} {coeffect : Coeffect} {rule : Rule}
    (uniform : Uniform ∅ map) (found : Rule.ofLeft? coeffect = some rule)
    (notVariable : link? ⟨coeffect, coeffect⟩ = none) :
    ∃ value, evaluate map coeffect = .ok value ∧ rule.written map value = ∅ := by
  have value (name : String) : map.value name = ∅ := uniform.getD_eq name
  unfold Rule.ofLeft? at found
  split at found
  · cases notVariable
  · rename_i provider target
    cases found
    refine ⟨(map.value provider).union (map.value target), rfl, ?_⟩
    apply NameSet.ext_of_mem
    intro parameter
    rw [Rule.written, NameSet.mem_difference, NameSet.mem_union, value, value, or_self,
      and_not_self_iff]
    exact (iff_false_intro NameSet.not_mem_empty).symm
  · rename_i parameter payload target
    cases found
    refine ⟨(NameSet.singleton parameter).union (map.value target), rfl, ?_⟩
    apply NameSet.ext_of_mem
    intro other
    rw [Rule.written, NameSet.mem_erase, NameSet.mem_union, NameSet.mem_singleton, value]
    constructor
    · rintro ⟨removed | member, kept⟩
      · exact absurd removed kept
      · exact member
    · intro member
      exact absurd member NameSet.not_mem_empty
  · cases found

private theorem repeats_of_admitted {equality : CoeffectConstraint}
    (same : equality.left = equality.right)
    (kept : (!isSkipped equality && (link? equality).isNone) = true)
    (admitted : Analysis.implicit.admitsIdentity equality.left = true) :
    (sweep equalities).Repeats ∅ equality := by
  intro map uniform
  obtain ⟨left, right⟩ := equality
  cases same
  rw [Bool.and_eq_true, Bool.not_eq_true', isSkipped, Bool.or_self, Option.isNone_iff_eq_none]
    at kept
  rw [admitsIdentity_eq, kept.1, Bool.false_or] at admitted
  obtain ⟨rule, found⟩ := Option.isSome_iff_exists.mp admitted
  obtain ⟨value, evaluated, written⟩ := written_eq_empty uniform found kept.2
  refine ⟨rule.target, apply_eq_ok_iff.mpr ⟨rule, value, found, evaluated, ?_⟩⟩
  rw [written]
  rfl

private theorem repeats_of_listed (identical : ∀ equality ∈ equalities, equality.left = equality.right)
    {swept : List CoeffectConstraint} (subset : swept ⊆ equalities)
    (admitted : ∀ equality ∈ swept, Analysis.implicit.admitsIdentity equality.left = true) :
    ∀ equality ∈ remaining swept, (sweep equalities).Repeats ∅ equality := by
  intro equality listed
  obtain ⟨member, kept⟩ := List.mem_filter.mp listed
  exact repeats_of_admitted (identical equality (subset member)) kept (admitted equality member)

theorem solve_succeeds_of_admitted
    (identical : ∀ equality ∈ equalities, equality.left = equality.right)
    (admitted : ∀ equality ∈ equalities, Analysis.implicit.admitsIdentity equality.left = true) :
    ∃ solution, solve equalities = .ok solution := by
  apply solve_succeeds_of_settled
  exact Sweep.settled_of_repeats (repeats_of_listed identical (List.Subset.refl _) admitted)
    (by decide)

theorem solve_fails_of_rejected {before after : List CoeffectConstraint}
    {equality : CoeffectConstraint} (split : equalities = before ++ equality :: after)
    (identical : ∀ equality ∈ equalities, equality.left = equality.right)
    (admitted : ∀ earlier ∈ before, Analysis.implicit.admitsIdentity earlier.left = true)
    (rejected : Analysis.implicit.admitsIdentity equality.left = false) :
    solve equalities =
      .error (.invalidConstraint invalidLabel equality.left equality.right) := by
  have same : equality.left = equality.right :=
    identical equality (by rw [split]; exact List.mem_append_right _ List.mem_cons_self)
  have remains : remaining equalities = remaining before ++ equality :: remaining after := by
    rw [split, remaining, List.filter_append, List.filter_cons,
      if_pos (kept_of_rejected same rejected)]
    rfl
  obtain ⟨reached, early, _⟩ := Sweep.exists_uniform_of_sweep
    (repeats_of_listed identical (by rw [split]; exact List.subset_append_left _ _) admitted)
    Sweep.uniform_empty
  have failed : pass (Partition.ofPairs (links equalities)) (remaining equalities)
      NameMap.empty = .error (.invalidConstraint invalidLabel equality.left equality.right) := by
    rw [admitsIdentity_eq, Bool.or_eq_false_iff, Option.isSome_eq_false_iff] at rejected
    have refused : applyConstraint (Partition.ofPairs (links equalities)) reached equality =
        .error (.invalidConstraint invalidLabel equality.left equality.right) := by
      rw [applyConstraint, Option.isNone_iff_eq_none.mp rejected.2]
    rw [pass, remains]
    exact Iteration.sweep_failure early refused
  unfold solve
  dsimp only
  rw [Iteration.halt_of_failure (by decide) failed]

end Implicit

namespace Dataflow

open Sweep (Uniform)

variable {equalities : List CoeffectConstraint} {equality : CoeffectConstraint}

theorem admitsIdentity_eq (coeffect : Coeffect) :
    Analysis.dataflow.admitsIdentity coeffect =
      (coeffect.isUnconstrained || (Oriented.of? ⟨coeffect, coeffect⟩).isSome) := by
  unfold Analysis.admitsIdentity Oriented.of? representative Coeffect.isUnconstrained
  split <;> grind

private theorem kept_of_rejected (same : equality.left = equality.right)
    (rejected : Analysis.dataflow.admitsIdentity equality.left = false) :
    (!isSkipped equality && (links? equality).isNone) = true := by
  obtain ⟨left, right⟩ := equality
  cases same
  unfold Analysis.admitsIdentity at rejected
  unfold isSkipped Coeffect.isUnconstrained links?
  grind

private theorem isSome_oriented (same : equality.left = equality.right)
    (kept : (!isSkipped equality && (links? equality).isNone) = true) :
    (Oriented.of? equality).isSome = Analysis.dataflow.admitsIdentity equality.left := by
  obtain ⟨left, right⟩ := equality
  cases same
  rw [Bool.and_eq_true, Bool.not_eq_true', isSkipped, Bool.or_self] at kept
  rw [admitsIdentity_eq, kept.1, Bool.false_or]

private theorem value_of_oriented {oriented : Oriented} (same : equality.left = equality.right)
    (found : Oriented.of? equality = some oriented) : oriented.value = .var oriented.target := by
  obtain ⟨left, right⟩ := equality
  cases same
  unfold Oriented.of? at found
  grind

private theorem repeats_of_admitted (same : equality.left = equality.right)
    (kept : (!isSkipped equality && (links? equality).isNone) = true)
    (admitted : Analysis.dataflow.admitsIdentity equality.left = true) :
    (sweep equalities).Repeats 0 equality := by
  intro map uniform
  rw [← isSome_oriented same kept] at admitted
  obtain ⟨oriented, found⟩ := Option.isSome_iff_exists.mp admitted
  have evaluated : evaluate map oriented.value = .ok 0 := by
    rw [value_of_oriented same found, evaluate]
    exact congrArg Except.ok (uniform.getD_eq oriented.target)
  exact ⟨oriented.target, apply_eq_ok_iff.mpr ⟨oriented, 0, found, evaluated, rfl⟩⟩

theorem solve_succeeds_of_admitted
    (identical : ∀ equality ∈ equalities, equality.left = equality.right)
    (admitted : ∀ equality ∈ equalities, Analysis.dataflow.admitsIdentity equality.left = true) :
    ∃ solution, solve equalities = .ok solution := by
  cases planned : plan equalities with
  | error fault =>
      obtain ⟨equality, found, _⟩ := plan_eq_error_iff.mp planned
      obtain ⟨member, kept⟩ := List.mem_filter.mp (List.mem_of_find?_eq_some found)
      have missing := List.find?_some found
      rw [isSome_oriented (identical equality member) kept, admitted equality member] at missing
      cases missing
  | ok oriented =>
      have repeats : ∀ equality ∈ remaining equalities, (sweep equalities).Repeats 0 equality := by
        intro equality listed
        obtain ⟨member, kept⟩ := List.mem_filter.mp listed
        exact repeats_of_admitted (identical equality member) kept (admitted equality member)
      exact solve_succeeds_of_settled planned (Sweep.settled_of_repeats repeats (by decide))

theorem solve_fails_of_rejected {before after : List CoeffectConstraint}
    (split : equalities = before ++ equality :: after)
    (identical : ∀ equality ∈ equalities, equality.left = equality.right)
    (admitted : ∀ earlier ∈ before, Analysis.dataflow.admitsIdentity earlier.left = true)
    (rejected : Analysis.dataflow.admitsIdentity equality.left = false) :
    solve equalities =
      .error (.invalidConstraint invalidLabel equality.left equality.right) := by
  rw [split, List.forall_mem_append, List.forall_mem_cons] at identical
  have kept := kept_of_rejected identical.2.1 rejected
  have missing : (Oriented.of? equality).isSome = false := by
    rw [isSome_oriented identical.2.1 kept, rejected]
  have planned : plan equalities =
      .error (.invalidConstraint invalidLabel equality.left equality.right) := by
    apply plan_eq_error_iff.mpr
    refine ⟨equality, List.find?_eq_some_iff_append.mpr ⟨by rw [missing]; rfl, remaining before,
      remaining after, ?_, ?_⟩, ?_⟩
    · rw [split, remaining, List.filter_append, List.filter_cons, if_pos kept]
      rfl
    · intro earlier listed
      obtain ⟨member, kept⟩ := List.mem_filter.mp listed
      rw [isSome_oriented (identical.1 earlier member) kept, admitted earlier member]
      rfl
    · rw [orient, Option.isNone_iff_eq_none.mp (Option.isSome_eq_false_iff.mp missing)]
  unfold solve
  rw [planned]

end Dataflow

namespace Analysis

/-- An analysis solves equalities of annotations with themselves unless it has no rule for one. -/
theorem solve_of_identities (analysis : Analysis) {equalities : List CoeffectConstraint}
    (identical : ∀ equality ∈ equalities, equality.left = equality.right) :
    (equalities.find? (fun equality => !analysis.admitsIdentity equality.left) = none →
      ∃ solution, analysis.solve equalities = .ok solution) ∧
    ∀ equality, equalities.find? (fun equality => !analysis.admitsIdentity equality.left) =
        some equality →
      analysis.solve equalities =
        .error (.invalidConstraint analysis.invalidLabel equality.left equality.right) := by
  constructor
  · intro none
    have admitted : ∀ equality ∈ equalities, analysis.admitsIdentity equality.left = true := by
      simpa using none
    cases analysis with
    | implicit =>
        obtain ⟨solution, solved⟩ := Implicit.solve_succeeds_of_admitted identical admitted
        exact ⟨.implicit solution, by rw [solve, solved]; rfl⟩
    | dataflow =>
        obtain ⟨solution, solved⟩ := Dataflow.solve_succeeds_of_admitted identical admitted
        exact ⟨.dataflow solution, by rw [solve, solved]; rfl⟩
  · intro equality found
    obtain ⟨rejected, before, after, split, earlier⟩ := List.find?_eq_some_iff_append.mp found
    have admitted : ∀ earlier ∈ before, analysis.admitsIdentity earlier.left = true := by
      simpa using earlier
    rw [Bool.not_eq_true'] at rejected
    cases analysis with
    | implicit =>
        rw [solve, Implicit.solve_fails_of_rejected split identical admitted rejected]
        rfl
    | dataflow =>
        rw [solve, Dataflow.solve_fails_of_rejected split identical admitted rejected]
        rfl

end Analysis

section Checks

variable {analysis : Analysis} {constraints : List TypeConstraint} {unified : Unified}
  (succeeded : unify constraints NameMap.empty [] = .ok unified)

include succeeded

theorem check_eq_ok {solution : Solution}
    (solved : analysis.solve unified.equalities = .ok solution) :
    check analysis constraints = .ok ⟨unified.assigned, unified.equalities, solution⟩ := by
  rw [check, succeeded]
  change (analysis.solve unified.equalities >>= _) = _
  rw [solved]
  rfl

theorem check_eq_error {fault : Fault} (failed : analysis.solve unified.equalities = .error fault) :
    check analysis constraints = .error fault := by
  rw [check, succeeded]
  change (analysis.solve unified.equalities >>= _) = _
  rw [failed]
  rfl

end Checks

/-- Where the substitution found makes the sides of every constraint the same, every equality between
annotations is one of an annotation of the constraints with itself, and the check succeeds, or else
reports the first of them that the analysis has no rule for. -/
theorem check_of_identical_sides (analysis : Analysis) {constraints : List TypeConstraint}
    {unified : Unified} (succeeded : unify constraints NameMap.empty [] = .ok unified)
    (identical : ∀ constraint ∈ constraints, (unified.assigned.apply constraint.left).equal
      (unified.assigned.apply constraint.right) = true) :
    (∀ equality ∈ unified.equalities, equality.left = equality.right ∧
      equality.left ∈ constraints.flatMap TypeConstraint.annotations) ∧
    (unified.equalities.find? (fun equality => !analysis.admitsIdentity equality.left) = none →
      ∃ solution, check analysis constraints =
        .ok ⟨unified.assigned, unified.equalities, solution⟩) ∧
    ∀ equality, unified.equalities.find? (fun equality =>
        !analysis.admitsIdentity equality.left) = some equality →
      check analysis constraints =
        .error (.invalidConstraint analysis.invalidLabel equality.left equality.right) := by
  have same : ∀ equality ∈ unified.equalities, equality.left = equality.right := by
    intro equality
    apply left_eq_right_of_unify succeeded
    intro constraint member
    exact Ty.equal_iff_eq.mp (identical constraint member)
  obtain ⟨solvable, unsolvable⟩ := analysis.solve_of_identities same
  refine ⟨fun equality member => ⟨same equality member,
    (mem_annotations_of_unify succeeded member).1⟩, fun none => ?_, fun equality found => ?_⟩
  · obtain ⟨solution, solved⟩ := solvable none
    exact ⟨solution, check_eq_ok succeeded solved⟩
  · exact check_eq_error succeeded (unsolvable equality found)

theorem check_of_identical_sides_of_arrows :
    (∃ checked, check .implicit [⟨.arrow (.split (.param "p" .absent) (.var "v"))
          (.merge (.var "l") (.var "r")) (.var "a") (.prim "Int"),
        .arrow (.split (.param "p" .absent) (.var "v"))
          (.merge (.var "l") (.var "r")) (.prim "Bool") (.var "b")⟩] = .ok checked) ∧
      check .dataflow [⟨.arrow (.split (.param "p" .absent) (.var "v"))
          (.merge (.var "l") (.var "r")) (.var "a") (.prim "Int"),
        .arrow (.split (.param "p" .absent) (.var "v"))
          (.merge (.var "l") (.var "r")) (.prim "Bool") (.var "b")⟩] =
        .error (.invalidConstraint "invalid dataflow constraint"
          (.split (.param "p" .absent) (.var "v")) (.split (.param "p" .absent) (.var "v"))) := by
  have succeeded : unify [⟨.arrow (.split (.param "p" .absent) (.var "v"))
        (.merge (.var "l") (.var "r")) (.var "a") (.prim "Int"),
      .arrow (.split (.param "p" .absent) (.var "v"))
        (.merge (.var "l") (.var "r")) (.prim "Bool") (.var "b")⟩] NameMap.empty [] =
      .ok ⟨NameMap.ofList [("a", .prim "Bool"), ("b", .prim "Int")],
        [⟨.split (.param "p" .absent) (.var "v"), .split (.param "p" .absent) (.var "v")⟩,
          ⟨.merge (.var "l") (.var "r"), .merge (.var "l") (.var "r")⟩]⟩ := by decide +kernel
  constructor
  · obtain ⟨solution, checked⟩ :=
      (check_of_identical_sides .implicit succeeded (by decide +kernel)).2.1 rfl
    exact ⟨_, checked⟩
  · exact (check_of_identical_sides .dataflow succeeded (by decide +kernel)).2.2 _ rfl

/-- Two comonadic types with the same annotation are rejected by every analysis if a variable inside
them is yet to be replaced when they meet, although the check has nothing to solve about it. -/
theorem identity_rejected_of_open_boxes :
    ∃ unified, unify [⟨.comonad .use (.var "a"), .comonad .use (.prim "Int")⟩] NameMap.empty [] =
        .ok unified ∧
      (∀ constraint ∈ [(⟨.comonad .use (.var "a"), .comonad .use (.prim "Int")⟩ : TypeConstraint)],
        (unified.assigned.apply constraint.left).equal
            (unified.assigned.apply constraint.right) = true ∧
          ∀ coeffect ∈ constraint.annotations,
            Implicit.evaluable coeffect = true ∧ Dataflow.evaluable coeffect = true) ∧
      ∀ analysis, check analysis [⟨.comonad .use (.var "a"), .comonad .use (.prim "Int")⟩] =
        .error (.invalidConstraint analysis.invalidLabel .use .use) := by
  have succeeded : unify [⟨.comonad .use (.var "a"), .comonad .use (.prim "Int")⟩] NameMap.empty [] =
      .ok ⟨NameMap.ofList [("a", .prim "Int")], [⟨.use, .use⟩]⟩ := by decide +kernel
  refine ⟨_, succeeded, by decide +kernel, fun analysis => check_eq_error succeeded ?_⟩
  apply (analysis.solve_of_identities (by decide)).2 ⟨.use, .use⟩
  cases analysis with
  | implicit => rfl
  | dataflow => rfl

end CoeffectSolver
