import CoeffectSolver.Checking
import CoeffectSolver.Proofs.Analysis.Faults
import CoeffectSolver.Proofs.Unification.Annotations

/-! Normalising types under solved constraints. The substitution of a successful check has no cycle
and no gap, so that normalising visits the type that it makes of a type and can fail only where an
annotation is evaluated: on the first annotation, in the order of the visit, that holds a coeffect
without a meaning in the analysis outside the payload types of parameters. -/

namespace CoeffectSolver

namespace Normaliser

variable {evaluate : Evaluator} {naming : Naming}

private theorem failure?_step {α β : Type} {first : Step α} {second : α → Step β}
    {later : Option Fault} (same : ∀ value met, failure? (second value met) = later) :
    failure? ((first >>= second) naming) = (failure? (first naming)).or later :=
  failure?_bind fun both => same both.1 both.2

private theorem failure?_lift {α : Type} (outcome : Except Fault α) :
    failure? ((liftM outcome : Step α) naming) = failure? outcome := by
  cases outcome with
  | ok value => rfl
  | error fault => rfl

private theorem failure?_rename (name : String) : failure? (rename name naming) = none := by
  unfold rename
  split
  · rfl
  · rfl

private theorem failure?_then_pure {α β : Type} {first : Step α} {change : α → β} :
    failure? ((first >>= fun value => pure (change value)) naming) = failure? (first naming) := by
  have succeeds (value : α) (met : Naming) : failure? ((pure (change value) : Step β) met) = none :=
    rfl
  rw [failure?_step succeeds, Option.or_none]

private theorem failure?_visitElements {elements : List Ty}
    (each : ∀ element ∈ elements, ∀ naming, failure? (visit evaluate rename element naming) =
      element.annotations.findSome? fun coeffect => failure? (evaluate coeffect)) :
    failure? (visitElements evaluate rename elements naming) =
      (elements.flatMap Ty.annotations).findSome? fun coeffect => failure? (evaluate coeffect) := by
  induction elements generalizing naming with
  | nil => rfl
  | cons first rest ih =>
      rw [List.forall_mem_cons] at each
      rw [visitElements, List.flatMap_cons, List.findSome?_append, ← each.1 naming]
      apply failure?_step
      intro value met
      rw [failure?_then_pure, ih each.2]

/-- Visiting a type without gaps fails as evaluating the first of its annotations that fails. -/
theorem failure?_visit {type : Ty} (gapless : type.gapless = true) :
    failure? (visit evaluate rename type naming) =
      type.annotations.findSome? fun coeffect => failure? (evaluate coeffect) := by
  induction type generalizing naming with
  | absent => cases gapless
  | var name => exact failure?_rename name
  | prim name => rfl
  | tuple elements ih =>
      rw [Ty.gapless_tuple, List.all_eq_true] at gapless
      rw [visit, failure?_then_pure, Ty.annotations_tuple]
      apply failure?_visitElements
      intro element member naming
      exact ih element member (gapless element member)
  | arrow declaration call argument result ihArgument ihResult =>
      rw [Ty.gapless_arrow, Bool.and_eq_true] at gapless
      rw [visit, Ty.annotations_arrow, findSome?_cons_eq_or, findSome?_cons_eq_or,
        List.findSome?_append, ← failure?_lift (evaluate declaration)]
      refine failure?_step fun declaration met => ?_
      rw [← failure?_lift (evaluate call)]
      refine failure?_step fun call met => ?_
      rw [← ihArgument gapless.1]
      refine failure?_step fun argument met => ?_
      rw [failure?_then_pure, ihResult gapless.2]
  | comonad requirement inner ih =>
      rw [visit, Ty.annotations_comonad, findSome?_cons_eq_or, ← failure?_lift (evaluate requirement)]
      refine failure?_step fun requirement met => ?_
      rw [failure?_then_pure, ih gapless]

end Normaliser

namespace Solution

def analysis : Solution → Analysis
  | .implicit _ => .implicit
  | .dataflow _ => .dataflow

/-- Evaluating a coeffect under a solution fails with a fault. -/
def Rejects : Solution → Coeffect → Fault → Prop
  | .implicit found, coeffect, fault => Implicit.evaluate found.assignment coeffect = .error fault
  | .dataflow found, coeffect, fault => Dataflow.evaluate found.assignment coeffect = .error fault

variable {solution : Solution}

theorem analysis_of_solve {analysis : Analysis} {equalities : List CoeffectConstraint}
    (solved : analysis.solve equalities = .ok solution) : solution.analysis = analysis := by
  cases analysis with
  | implicit =>
      unfold Analysis.solve at solved
      cases outcome : Implicit.solve equalities with
      | ok found => rw [outcome] at solved; cases solved; rfl
      | error fault => rw [outcome] at solved; cases solved
  | dataflow =>
      unfold Analysis.solve at solved
      cases outcome : Dataflow.solve equalities with
      | ok found => rw [outcome] at solved; cases solved; rfl
      | error fault => rw [outcome] at solved; cases solved

theorem rejects_iff {coeffect : Coeffect} {fault : Fault} :
    solution.Rejects coeffect fault ↔ solution.analysis.fault? coeffect = some fault := by
  cases solution with
  | implicit found =>
      rw [analysis, ← Analysis.failure?_evaluate_implicit found.assignment, failure?_eq_some_iff]
      rfl
  | dataflow found =>
      rw [analysis, ← Analysis.failure?_evaluate_dataflow found.assignment, failure?_eq_some_iff]
      rfl

/-- Writing a value as a coeffect adds no failure to those of evaluation. -/
theorem failure?_display (solution : Solution) (coeffect : Coeffect) :
    failure? (solution.display coeffect) = solution.analysis.fault? coeffect := by
  cases solution with
  | implicit found =>
      rw [analysis, ← Analysis.failure?_evaluate_implicit found.assignment]
      exact failure?_map (Implicit.evaluate found.assignment coeffect) _
  | dataflow found =>
      rw [analysis, ← Analysis.failure?_evaluate_dataflow found.assignment]
      exact failure?_map (Dataflow.evaluate found.assignment coeffect) _

end Solution

theorem stages_of_check {analysis : Analysis} {constraints : List TypeConstraint} {checked : Checked}
    (succeeded : check analysis constraints = .ok checked) :
    ∃ unified, unify constraints NameMap.empty [] = .ok unified ∧
      checked.assigned = unified.assigned ∧
      analysis.solve unified.equalities = .ok checked.solution := by
  obtain ⟨unified, unifies, rest⟩ := Iteration.bind_eq_ok_iff.mp succeeded
  obtain ⟨solution, solved, same⟩ := Iteration.bind_eq_ok_iff.mp rest
  cases same
  exact ⟨unified, unifies, rfl, solved⟩

/-- Where no payload type holds a coeffect without a meaning, nothing without one is overlooked. -/
theorem exists_foreign_part_iff {analysis : Analysis} {coeffects : List Coeffect}
    (harmless : ∀ coeffect ∈ coeffects, ∀ part ∈ coeffect.inPayloads,
      analysis.foreign part = false) :
    (∃ coeffect ∈ coeffects, ∃ part ∈ coeffect.parts, analysis.foreign part = true) ↔
      ∃ coeffect ∈ coeffects, ∃ part ∈ coeffect.subterms, analysis.foreign part = true := by
  constructor
  · rintro ⟨coeffect, member, part, inside, foreign⟩
    exact ⟨coeffect, member, part, (Coeffect.mem_subterms_iff coeffect).mpr (.inl inside), foreign⟩
  · rintro ⟨coeffect, member, part, inside, foreign⟩
    rcases (Coeffect.mem_subterms_iff coeffect).mp inside with composed | payload
    · exact ⟨coeffect, member, part, composed, foreign⟩
    · rw [harmless coeffect member part payload] at foreign
      cases foreign

section Normalising

variable {analysis : Analysis} {constraints : List TypeConstraint} {checked : Checked} {type : Ty}
  (succeeded : check analysis constraints = .ok checked)
  (given : ∀ constraint ∈ constraints, constraint.gapless = true) (gapless : type.gapless = true)

include succeeded given gapless

theorem failure?_normalise :
    failure? (checked.normalise type) =
      (checked.assigned.apply type).annotations.findSome? checked.solution.analysis.fault? := by
  obtain ⟨unified, unifies, assigned, _⟩ := stages_of_check succeeded
  have acyclic : checked.assigned.Acyclic := by
    rw [assigned]
    exact (settles_of_unify unifies).acyclic rfl
  have everywhere : checked.assigned.Gapless := by
    rw [assigned]
    exact gapless_of_unify given Substitution.gapless_empty unifies
  -- Without cycles and gaps, only annotations are left to fail.
  rw [Checked.normalise, normalise_eq_visit acyclic, failure?_map,
    Normaliser.failure?_visit (everywhere.apply gapless)]
  congr 1
  funext coeffect
  exact checked.solution.failure?_display coeffect

theorem normalise_eq_error_iff {fault : Fault} :
    checked.normalise type = .error fault ↔
      ∃ coeffect, (checked.assigned.apply type).annotations.find?
          (fun coeffect => coeffect.parts.any analysis.foreign) = some coeffect ∧
        analysis.fault? coeffect = some fault := by
  obtain ⟨_, _, _, solved⟩ := stages_of_check succeeded
  rw [← failure?_eq_some_iff, failure?_normalise succeeded given gapless,
    Solution.analysis_of_solve solved, findSome?_eq_some_iff_find?]
  simp only [Analysis.isSome_fault?]

theorem exists_error_iff :
    (∃ fault, checked.normalise type = .error fault) ↔
      ∃ coeffect ∈ (checked.assigned.apply type).annotations,
        ∃ part ∈ coeffect.parts, analysis.foreign part = true := by
  constructor
  · rintro ⟨fault, failed⟩
    obtain ⟨coeffect, found, _⟩ :=
      (normalise_eq_error_iff succeeded given gapless).mp failed
    have fails := List.find?_some found
    exact ⟨coeffect, List.mem_of_find?_eq_some found, List.any_eq_true.mp fails⟩
  · rintro ⟨coeffect, member, part, inside, foreign⟩
    have some : ((checked.assigned.apply type).annotations.find?
        (fun coeffect => coeffect.parts.any analysis.foreign)).isSome = true :=
      List.find?_isSome.mpr ⟨coeffect, member, List.any_eq_true.mpr ⟨part, inside, foreign⟩⟩
    obtain ⟨first, found⟩ := Option.isSome_iff_exists.mp some
    have fails := List.find?_some found
    rw [← analysis.isSome_fault?] at fails
    obtain ⟨fault, fails⟩ := Option.isSome_iff_exists.mp fails
    exact ⟨fault, (normalise_eq_error_iff succeeded given gapless).mpr ⟨first, found, fails⟩⟩

end Normalising

/-- Under solved constraints, normalising fails on the types one of whose annotations holds, at any
depth but not in the payload type of a parameter, a coeffect without a meaning in the analysis, with
the fault of evaluating the first such annotation; no other failure occurs, and none because of a
cycle. Where no payload type holds a coeffect without a meaning, that is any depth whatever. -/
theorem normalise_fails_iff_foreign {analysis : Analysis} {constraints : List TypeConstraint}
    {checked : Checked} (succeeded : check analysis constraints = .ok checked)
    (given : ∀ constraint ∈ constraints, constraint.gapless = true) {type : Ty}
    (gapless : type.gapless = true) :
    (∀ fault, checked.normalise type = .error fault → fault.kind = .unexpected ∧
      ∀ name, fault ≠ .unexpected (.cyclicAssignment name)) ∧
    ((∃ fault, checked.normalise type = .error fault) ↔
      ∃ coeffect ∈ (checked.assigned.apply type).annotations,
        ∃ part ∈ coeffect.parts, analysis.foreign part = true) ∧
    ((∀ coeffect ∈ (checked.assigned.apply type).annotations, ∀ part ∈ coeffect.inPayloads,
        analysis.foreign part = false) →
      ((∃ fault, checked.normalise type = .error fault) ↔
        ∃ coeffect ∈ (checked.assigned.apply type).annotations,
          ∃ part ∈ coeffect.subterms, analysis.foreign part = true)) ∧
    ∀ fault, checked.normalise type = .error fault ↔
      ∃ coeffect, (checked.assigned.apply type).annotations.find?
          (fun coeffect => coeffect.parts.any analysis.foreign) = some coeffect ∧
        checked.solution.Rejects coeffect fault := by
  have fails := exists_error_iff succeeded given gapless
  refine ⟨fun fault failed => ?_, fails,
    fun harmless => fails.trans (exists_foreign_part_iff harmless), fun fault => ?_⟩
  · obtain ⟨coeffect, _, fails⟩ := (normalise_eq_error_iff succeeded given gapless).mp failed
    obtain ⟨part, rfl⟩ := Analysis.exists_of_fault? fails
    refine ⟨rfl, fun name same => ?_⟩
    cases analysis with
    | implicit => cases same
    | dataflow => cases same
  · obtain ⟨_, _, _, solved⟩ := stages_of_check succeeded
    simp only [normalise_eq_error_iff succeeded given gapless, Solution.rejects_iff,
      Solution.analysis_of_solve solved]

theorem normalise_fails_iff_foreign_of_history :
    ∃ checked, check .implicit [⟨.var "a", .comonad (.merge .use (.past 3)) (.prim "Int")⟩] =
        .ok checked ∧
      checked.normalise (.tuple [.comonad .use (.var "b"),
          .arrow (.param "p" .absent) (.var "r") (.var "a") (.comonad .unconstrained (.var "a"))]) =
        .error (.unexpected (.notParameters (.past 3))) ∧
      ∀ fault, checked.normalise (.arrow (.param "p" .absent) (.var "r") (.var "b") (.var "b")) ≠
        .error fault := by
  have unifies : unify [⟨.var "a", .comonad (.merge .use (.past 3)) (.prim "Int")⟩]
      NameMap.empty [] =
      .ok ⟨NameMap.ofList [("a", .comonad (.merge .use (.past 3)) (.prim "Int"))], []⟩ := by
    decide +kernel
  have succeeded : check .implicit [⟨.var "a", .comonad (.merge .use (.past 3)) (.prim "Int")⟩] =
      .ok ⟨NameMap.ofList [("a", .comonad (.merge .use (.past 3)) (.prim "Int"))], [],
        .implicit ⟨NameMap.empty, []⟩⟩ := by
    rw [check, unifies]
    rfl
  refine ⟨_, succeeded, ?_, fun fault failed => ?_⟩
  · apply ((normalise_fails_iff_foreign succeeded (by decide) (by decide)).2.2.2 _).mpr
    exact ⟨.merge .use (.past 3), by decide +kernel, rfl⟩
  · have foreign := ((normalise_fails_iff_foreign succeeded (by decide) (by decide)).2.2.1
      (by decide +kernel)).mp ⟨fault, failed⟩
    revert foreign
    decide +kernel

/-- An annotation that holds a coeffect without a meaning only in the payload type of a parameter is
evaluated all the same. -/
theorem normalise_overlooks_payload :
    let requirement : Coeffect := .param "p" (.comonad .unconstrained (.prim "Int"))
    let type : Ty := .comonad requirement (.prim "Int")
    ∃ checked, check .implicit [] = .ok checked ∧ type.gapless = true ∧
      (∃ coeffect ∈ (checked.assigned.apply type).annotations,
        ∃ part ∈ coeffect.subterms, Analysis.implicit.foreign part = true) ∧
      checked.normalise type = .ok type := by
  intro requirement type
  have succeeded : check .implicit [] = .ok ⟨NameMap.empty, [], .implicit ⟨NameMap.empty, []⟩⟩ := rfl
  have inside : Coeffect.unconstrained ∈ requirement.subterms := by decide
  refine ⟨_, succeeded, by decide, ⟨requirement, ?_, _, inside, rfl⟩, ?_⟩
  · decide +kernel
  · decide +kernel

end CoeffectSolver
