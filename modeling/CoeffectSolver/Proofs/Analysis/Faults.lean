import CoeffectSolver.Analysis.Basic
import CoeffectSolver.Proofs.Analysis.Dataflow.Satisfaction
import CoeffectSolver.Proofs.Analysis.Implicit.Satisfaction
import CoeffectSolver.Proofs.Term.Parts

/-! Which faults evaluating a coeffect and solving constraints end with. Whether a coeffect has a
value depends on neither the assignment nor the pass: evaluation fails on the first part without a
meaning. Payload types of parameters are no parts, so nothing in them is looked at. Solving therefore
fails in its first pass, on the first constraint that can fail in any, or it never fails but for using
up its bound. -/

namespace CoeffectSolver

/-- The fault of a computation that fails. -/
def failure? {α : Type} : Except Fault α → Option Fault
  | .ok _ => none
  | .error fault => some fault

section Failures

variable {α β : Type}

theorem failure?_eq_some_iff {outcome : Except Fault α} {fault : Fault} :
    failure? outcome = some fault ↔ outcome = .error fault := by
  cases outcome with
  | ok value => simp [failure?]
  | error reported => simp [failure?]

theorem failure?_map (outcome : Except Fault α) (change : α → β) :
    failure? (outcome.map change) = failure? outcome := by
  cases outcome with
  | ok value => rfl
  | error fault => rfl

/-- Where the failure of the second of two computations does not depend on what the first one gives,
both together fail as the first of them that fails. -/
theorem failure?_bind {first : Except Fault α} {second : α → Except Fault β} {later : Option Fault}
    (same : ∀ value, failure? (second value) = later) :
    failure? (first >>= second) = (failure? first).or later := by
  cases first with
  | ok value => exact same value
  | error fault => rfl

theorem findSome?_eq_some_iff_find? {α β : Type} {function : α → Option β}
    {items : List α} {value : β} :
    items.findSome? function = some value ↔
      ∃ item, items.find? (fun item => (function item).isSome) = some item ∧
        function item = some value := by
  induction items with
  | nil => simp
  | cons first rest ih =>
      rw [List.findSome?_cons, List.find?_cons]
      cases found : function first with
      | none => exact ih
      | some known => simp [found]

theorem findSome?_cons_eq_or {α β : Type} {function : α → Option β} (item : α) (rest : List α) :
    (item :: rest).findSome? function = (function item).or (rest.findSome? function) := by
  rw [List.findSome?_cons]
  cases function item with
  | none => rfl
  | some value => rfl

/-- Where the failure on an item does not depend on the state, a sweep fails on the first item that
can fail. -/
theorem failure?_sweep {σ ι : Type} {advance : σ → ι → Except Fault σ} {complaint : ι → Option Fault}
    {items : List ι} (each : ∀ item ∈ items, ∀ state, failure? (advance state item) = complaint item)
    (start : σ) : failure? (items.foldlM advance start) = items.findSome? complaint := by
  induction items generalizing start with
  | nil => rfl
  | cons item rest ih =>
      rw [List.forall_mem_cons] at each
      rw [List.foldlM_cons, findSome?_cons_eq_or, ← each.1 start]
      exact failure?_bind fun next => ih each.2 next

end Failures

namespace Analysis

/-- Whether a coeffect has no meaning in an analysis, whatever it is composed of. -/
def foreign : Analysis → Coeffect → Bool
  | _, .absent => true
  | _, .unconstrained => true
  | .implicit, .past _ => true
  | .dataflow, .param _ _ => true
  | _, _ => false

def anomaly : Analysis → Coeffect → Anomaly
  | .implicit, coeffect => .notParameters coeffect
  | .dataflow, coeffect => .notSteps coeffect

/-- The fault that the first part of a coeffect without a meaning gives rise to. What is in the payload
types of parameters gives rise to none. -/
def fault? (analysis : Analysis) (coeffect : Coeffect) : Option Fault :=
  (coeffect.parts.find? analysis.foreign).map fun part => .unexpected (analysis.anomaly part)

variable {analysis : Analysis}

private theorem fault?_composite {composite left right : Coeffect}
    (composed : composite.parts = composite :: (left.parts ++ right.parts))
    (meaningful : analysis.foreign composite = false) :
    analysis.fault? composite = (analysis.fault? left).or (analysis.fault? right) := by
  rw [fault?, composed, List.find?_cons_of_neg (by rw [meaningful]; exact Bool.false_ne_true),
    List.find?_append, Option.map_or]
  rfl

private theorem failure?_combined {α : Type} {first second : Except Fault α}
    {combine : α → α → α} :
    failure? (do
      let value ← first
      let value' ← second
      pure (combine value value')) = (failure? first).or (failure? second) := by
  apply failure?_bind
  intro value
  cases second with
  | ok value' => rfl
  | error fault => rfl

theorem failure?_evaluate_implicit (assignment : Implicit.Assignment) : (coeffect : Coeffect) →
    failure? (Implicit.evaluate assignment coeffect) = Analysis.implicit.fault? coeffect
  | .absent => rfl
  | .use => rfl
  | .ignore => rfl
  | .unconstrained => rfl
  | .past _ => rfl
  | .param _ _ => rfl
  | .var _ => rfl
  | .merge left right => by
      rw [Implicit.evaluate, failure?_combined, failure?_evaluate_implicit assignment left,
        failure?_evaluate_implicit assignment right]
      exact (fault?_composite rfl rfl).symm
  | .split left right => by
      rw [Implicit.evaluate, failure?_combined, failure?_evaluate_implicit assignment left,
        failure?_evaluate_implicit assignment right]
      exact (fault?_composite rfl rfl).symm
  | .seq left right => by
      rw [Implicit.evaluate, failure?_combined, failure?_evaluate_implicit assignment left,
        failure?_evaluate_implicit assignment right]
      exact (fault?_composite rfl rfl).symm

theorem failure?_evaluate_dataflow (assignment : Dataflow.Assignment) : (coeffect : Coeffect) →
    failure? (Dataflow.evaluate assignment coeffect) = Analysis.dataflow.fault? coeffect
  | .absent => rfl
  | .use => rfl
  | .ignore => rfl
  | .unconstrained => rfl
  | .past _ => rfl
  | .param _ _ => rfl
  | .var _ => rfl
  | .merge left right => by
      rw [Dataflow.evaluate, failure?_combined, failure?_evaluate_dataflow assignment left,
        failure?_evaluate_dataflow assignment right]
      exact (fault?_composite rfl rfl).symm
  | .split left right => by
      rw [Dataflow.evaluate, failure?_combined, failure?_evaluate_dataflow assignment left,
        failure?_evaluate_dataflow assignment right]
      exact (fault?_composite rfl rfl).symm
  | .seq left right => by
      rw [Dataflow.evaluate, failure?_combined, failure?_evaluate_dataflow assignment left,
        failure?_evaluate_dataflow assignment right]
      exact (fault?_composite rfl rfl).symm

theorem isSome_fault? (analysis : Analysis) (coeffect : Coeffect) :
    (analysis.fault? coeffect).isSome = coeffect.parts.any analysis.foreign := by
  rw [fault?, Option.isSome_map, List.isSome_find?]

theorem exists_of_fault? {analysis : Analysis} {coeffect : Coeffect} {fault : Fault}
    (found : analysis.fault? coeffect = some fault) :
    ∃ part, fault = .unexpected (analysis.anomaly part) := by
  obtain ⟨part, _, rfl⟩ := Option.map_eq_some_iff.mp found
  exact ⟨part, rfl⟩

end Analysis

/-- A computation that fails with a fault if one was found, and otherwise only by using up its
budget of steps. -/
structure FailsBy {α : Type} (outcome : Except Fault α) (found : Option Fault) (operation : String) :
    Prop where
  failing : ∀ fault, found = some fault → outcome = .error fault ∧ fault.kind ≠ .nonTermination
  otherwise : found = none → (∃ value, outcome = .ok value) ∨
    outcome = .error (.nonTermination operation Iteration.defaultFuel)

private theorem ne_nonTermination {kind : FaultKind}
    (either : kind = .invalidConstraint ∨ kind = .unexpected) : kind ≠ .nonTermination := by
  rcases either with rfl | rfl
  · decide
  · decide

theorem FailsBy.error_iff {α : Type} {outcome : Except Fault α} {found : Option Fault}
    {operation : String} (fails : FailsBy outcome found operation) {fault : Fault} :
    outcome = .error fault ∧ fault.kind ≠ .nonTermination ↔ found = some fault := by
  constructor
  · rintro ⟨failed, kind⟩
    cases same : found with
    | some reported =>
        rw [(fails.failing reported same).1] at failed
        exact congrArg some (Except.error.inj failed)
    | none =>
        rcases fails.otherwise same with ⟨value, succeeded⟩ | exhausted
        · rw [succeeded] at failed
          cases failed
        · rw [exhausted] at failed
          cases failed
          exact absurd rfl kind
  · exact fails.failing fault

/-- Where the failure of a pass does not depend on the state, an iteration of passes fails in the
first one or in none. -/
theorem failsBy_of_steady {σ α : Type} {agree : σ → σ → Bool} {advance : σ → Except Fault σ}
    {found : Option Fault} (steady : ∀ state, failure? (advance state) = found)
    (kinds : ∀ fault, found = some fault → fault.kind ≠ .nonTermination) {fuel : Nat}
    (positive : 0 < fuel) (start : σ) (finish : σ → α) (operation : String) :
    FailsBy (match (Iteration.run agree advance fuel start).halt with
      | .settled => .ok (finish (Iteration.run agree advance fuel start).state)
      | .failed fault => .error fault
      | .exhausted => .error (.nonTermination operation Iteration.defaultFuel)) found operation := by
  constructor
  · intro fault same
    have failed : advance start = .error fault := by
      rw [← failure?_eq_some_iff, steady, same]
    rw [Iteration.halt_of_failure positive failed]
    exact ⟨rfl, kinds fault same⟩
  · intro none
    have succeeds (state : σ) : ∃ next, advance state = .ok next := by
      cases advanced : advance state with
      | ok next => exact ⟨next, rfl⟩
      | error fault =>
          have same := steady state
          rw [advanced, none] at same
          cases same
    have halts : (Iteration.run agree advance fuel start).halt = .settled ∨
        (Iteration.run agree advance fuel start).halt = .exhausted :=
      Iteration.halt_of_success succeeds fuel start
    rcases halts with settled | exhausted
    · rw [settled]
      exact .inl ⟨_, rfl⟩
    · rw [exhausted]
      exact .inr rfl

namespace Implicit

variable {constraints : List CoeffectConstraint}

/-- Whether a left side has one of the forms that stand for a rule. -/
def hasRule : Coeffect → Bool
  | .var _ => true
  | .merge (.var _) (.var _) => true
  | .split (.param _ _) (.var _) => true
  | _ => false

/-- Whether a constraint has a left side without a rule or a right side without a value. -/
def unsolvable (constraint : CoeffectConstraint) : Bool :=
  !hasRule constraint.left || constraint.right.parts.any Analysis.implicit.foreign

/-- The faults that solving reports of constraints, other than using up its bound. -/
inductive Reports (constraints : List CoeffectConstraint) : Fault → Prop
  | invalid {constraint : CoeffectConstraint}
      (first : (remaining constraints).find? unsolvable = some constraint)
      (unruled : hasRule constraint.left = false) :
      Reports constraints (.invalidConstraint invalidLabel constraint.left constraint.right)
  | unexpected {constraint : CoeffectConstraint} {part : Coeffect}
      (first : (remaining constraints).find? unsolvable = some constraint)
      (ruled : hasRule constraint.left = true)
      (leftmost : constraint.right.parts.find? Analysis.implicit.foreign = some part) :
      Reports constraints (.unexpected (.notParameters part))

/-- The fault that a constraint gives rise to. -/
def complaint? (constraint : CoeffectConstraint) : Option Fault :=
  if hasRule constraint.left then Analysis.implicit.fault? constraint.right
  else some (.invalidConstraint invalidLabel constraint.left constraint.right)

private theorem isSome_ofLeft? (coeffect : Coeffect) :
    (Rule.ofLeft? coeffect).isSome = hasRule coeffect := by
  unfold Rule.ofLeft? hasRule
  split <;> grind

theorem isSome_complaint? (constraint : CoeffectConstraint) :
    (complaint? constraint).isSome = unsolvable constraint := by
  unfold complaint? unsolvable
  cases hasRule constraint.left with
  | true => exact Analysis.isSome_fault? .implicit constraint.right
  | false => rfl

theorem failure?_apply (classes : Partition) (assignment : Assignment)
    (constraint : CoeffectConstraint) :
    failure? (applyConstraint classes assignment constraint) = complaint? constraint := by
  unfold applyConstraint complaint?
  rw [← isSome_ofLeft?]
  cases Rule.ofLeft? constraint.left with
  | none => rfl
  | some rule =>
      rw [Option.isSome_some, if_pos rfl, ← Analysis.failure?_evaluate_implicit assignment]
      exact failure?_map (evaluate assignment constraint.right) _

theorem reports_iff {fault : Fault} :
    Reports constraints fault ↔ (remaining constraints).findSome? complaint? = some fault := by
  rw [findSome?_eq_some_iff_find?]
  simp only [isSome_complaint?]
  constructor
  · rintro (⟨first, unruled⟩ | ⟨first, ruled, leftmost⟩)
    · exact ⟨_, first, by rw [complaint?, unruled]; rfl⟩
    · exact ⟨_, first, by rw [complaint?, if_pos ruled, Analysis.fault?, leftmost]; rfl⟩
  · rintro ⟨constraint, first, found⟩
    unfold complaint? at found
    split at found
    · rename_i ruled
      obtain ⟨part, leftmost, rfl⟩ := Option.map_eq_some_iff.mp found
      exact .unexpected first ruled leftmost
    · rename_i unruled
      cases found
      exact .invalid first (Bool.eq_false_iff.mpr unruled)

theorem Reports.kind_eq {fault : Fault} (reports : Reports constraints fault) :
    fault.kind = .invalidConstraint ∨ fault.kind = .unexpected := by
  cases reports with
  | invalid => exact .inl rfl
  | unexpected => exact .inr rfl

theorem exists_reports_iff :
    (∃ fault, Reports constraints fault) ↔
      ∃ constraint ∈ remaining constraints, unsolvable constraint = true := by
  simp only [reports_iff, ← Option.isSome_iff_exists, List.findSome?_isSome_iff, isSome_complaint?]

theorem solve_failsBy (constraints : List CoeffectConstraint) :
    FailsBy (solve constraints) ((remaining constraints).findSome? complaint?)
      "implicit parameter solving" := by
  have steady (assignment : Assignment) :
      failure? (pass (Partition.ofPairs (links constraints)) (remaining constraints) assignment) =
        (remaining constraints).findSome? complaint? :=
    failure?_sweep (fun constraint _ assignment => failure?_apply _ assignment constraint) assignment
  have kinds (fault : Fault) (found : (remaining constraints).findSome? complaint? = some fault) :
      fault.kind ≠ .nonTermination := ne_nonTermination (reports_iff.mpr found).kind_eq
  exact failsBy_of_steady steady kinds (by decide : 0 < Iteration.defaultFuel) NameMap.empty
    (fun assignment => (⟨assignment, payloadsOf constraints⟩ : Solution)) _

theorem solve_eq_error_iff {fault : Fault} :
    solve constraints = .error fault ∧ fault.kind ≠ .nonTermination ↔ Reports constraints fault :=
  (solve_failsBy constraints).error_iff.trans reports_iff.symm

theorem exists_error_iff :
    (∃ fault, solve constraints = .error fault ∧
        (fault.kind = .invalidConstraint ∨ fault.kind = .unexpected)) ↔
      ∃ constraint ∈ remaining constraints, unsolvable constraint = true := by
  rw [← exists_reports_iff]
  constructor
  · rintro ⟨fault, failed, kind⟩
    exact ⟨fault, solve_eq_error_iff.mp ⟨failed, ne_nonTermination kind⟩⟩
  · rintro ⟨fault, reports⟩
    exact ⟨fault, (solve_eq_error_iff.mpr reports).1, reports.kind_eq⟩

theorem solve_of_solvable
    (solvable : ∀ constraint ∈ remaining constraints, unsolvable constraint = false) :
    (∃ solution, solve constraints = .ok solution) ∨
      solve constraints =
        .error (.nonTermination "implicit parameter solving" Iteration.defaultFuel) := by
  apply (solve_failsBy constraints).otherwise
  rw [List.findSome?_eq_none_iff]
  intro constraint member
  rw [← Option.isNone_iff_eq_none, ← Option.not_isSome, isSome_complaint?,
    solvable constraint member]
  rfl

end Implicit

namespace Dataflow

variable {constraints : List CoeffectConstraint}

/-- Whether a side is a variable or a merge of two variables. -/
def namesVariable : Coeffect → Bool
  | .var _ => true
  | .merge (.var _) (.var _) => true
  | _ => false

/-- Whether a constraint names a variable on neither side. -/
def misshapen (constraint : CoeffectConstraint) : Bool :=
  !(namesVariable constraint.left || namesVariable constraint.right)

/-- The side that is evaluated: the one opposite the variable, which is looked for on the left
first. -/
def valueSide (constraint : CoeffectConstraint) : Coeffect :=
  if namesVariable constraint.left then constraint.right else constraint.left

def unevaluable (constraint : CoeffectConstraint) : Bool :=
  (valueSide constraint).parts.any Analysis.dataflow.foreign

/-- The faults that solving reports of constraints, other than using up its bound. -/
inductive Reports (constraints : List CoeffectConstraint) : Fault → Prop
  | invalid {constraint : CoeffectConstraint}
      (first : (remaining constraints).find? misshapen = some constraint) :
      Reports constraints (.invalidConstraint invalidLabel constraint.left constraint.right)
  | unexpected {constraint : CoeffectConstraint} {part : Coeffect}
      (shaped : (remaining constraints).find? misshapen = none)
      (first : (remaining constraints).find? unevaluable = some constraint)
      (leftmost : (valueSide constraint).parts.find? Analysis.dataflow.foreign = some part) :
      Reports constraints (.unexpected (.notSteps part))

def complaint? (constraints : List CoeffectConstraint) : Option Fault :=
  match (remaining constraints).find? misshapen with
  | some constraint => some (.invalidConstraint invalidLabel constraint.left constraint.right)
  | none => (remaining constraints).findSome? fun constraint =>
      Analysis.dataflow.fault? (valueSide constraint)

theorem reports_iff {fault : Fault} :
    Reports constraints fault ↔ complaint? constraints = some fault := by
  unfold complaint?
  constructor
  · rintro (⟨first⟩ | ⟨shaped, first, leftmost⟩)
    · rw [first]
    · rw [shaped]
      apply findSome?_eq_some_iff_find?.mpr
      simp only [Analysis.isSome_fault?]
      exact ⟨_, first, by rw [Analysis.fault?, leftmost]; rfl⟩
  · intro found
    split at found
    · rename_i constraint first
      cases found
      exact .invalid first
    · rename_i shaped
      obtain ⟨constraint, first, found⟩ := findSome?_eq_some_iff_find?.mp found
      simp only [Analysis.isSome_fault?] at first
      obtain ⟨part, leftmost, rfl⟩ := Option.map_eq_some_iff.mp found
      exact .unexpected shaped first leftmost

private theorem namesVariable_eq_true {coeffect : Coeffect} {name : String}
    (same : representative coeffect = .var name) : namesVariable coeffect = true := by
  unfold representative at same
  split at same
  · rfl
  · rw [same]
    rfl

private theorem namesVariable_eq_false {coeffect : Coeffect}
    (other : ∀ name, representative coeffect ≠ .var name) : namesVariable coeffect = false := by
  unfold namesVariable
  split
  · exact absurd rfl (other _)
  · exact absurd rfl (other _)
  · rfl

private theorem oriented_cases (constraint : CoeffectConstraint) :
    (∃ oriented, Oriented.of? constraint = some oriented ∧ misshapen constraint = false ∧
      oriented.value = representative (valueSide constraint)) ∨
    Oriented.of? constraint = none ∧ misshapen constraint = true := by
  unfold Oriented.of? misshapen valueSide
  split
  · rename_i onLeft
    rw [namesVariable_eq_true onLeft]
    exact .inl ⟨_, rfl, rfl, rfl⟩
  · rename_i onRight notLeft
    rw [namesVariable_eq_false notLeft, namesVariable_eq_true onRight]
    exact .inl ⟨_, rfl, rfl, rfl⟩
  · rename_i notLeft notRight
    rw [namesVariable_eq_false notLeft, namesVariable_eq_false notRight]
    exact .inr ⟨rfl, rfl⟩

theorem isNone_oriented (constraint : CoeffectConstraint) :
    (!(Oriented.of? constraint).isSome) = misshapen constraint := by
  rcases oriented_cases constraint with ⟨oriented, found, shaped, _⟩ | ⟨missing, misshapen⟩
  · rw [found, shaped]
    rfl
  · rw [missing, misshapen]
    rfl

private theorem fault?_representative (coeffect : Coeffect) :
    Analysis.dataflow.fault? (representative coeffect) = Analysis.dataflow.fault? coeffect := by
  unfold representative
  split
  · rfl
  · rfl

theorem failure?_apply {constraint : CoeffectConstraint} (shaped : misshapen constraint = false)
    (classes : Partition) (assignment : Assignment) :
    failure? (orient constraint >>= applyOriented classes assignment) =
      Analysis.dataflow.fault? (valueSide constraint) := by
  rcases oriented_cases constraint with ⟨oriented, found, _, value⟩ | ⟨_, misshapen⟩
  · rw [orient, found, ← fault?_representative, ← value,
      ← Analysis.failure?_evaluate_dataflow assignment]
    exact failure?_map (evaluate assignment oriented.value) _
  · rw [shaped] at misshapen
    cases misshapen

theorem plan_eq_error_of_misshapen {constraint : CoeffectConstraint}
    (first : (remaining constraints).find? misshapen = some constraint) :
    plan constraints =
      .error (.invalidConstraint invalidLabel constraint.left constraint.right) := by
  apply plan_eq_error_iff.mpr
  simp only [isNone_oriented]
  refine ⟨constraint, first, ?_⟩
  have misshapen := List.find?_some first
  rcases oriented_cases constraint with ⟨_, _, shaped, _⟩ | ⟨missing, _⟩
  · rw [shaped] at misshapen
    cases misshapen
  · rw [orient, missing]

theorem exists_plan_of_shaped (shaped : (remaining constraints).find? misshapen = none) :
    ∃ oriented, plan constraints = .ok oriented := by
  cases planned : plan constraints with
  | ok oriented => exact ⟨oriented, rfl⟩
  | error fault =>
      obtain ⟨constraint, first, _⟩ := plan_eq_error_iff.mp planned
      simp only [isNone_oriented, shaped] at first
      cases first

theorem Reports.kind_eq {fault : Fault} (reports : Reports constraints fault) :
    fault.kind = .invalidConstraint ∨ fault.kind = .unexpected := by
  cases reports with
  | invalid => exact .inl rfl
  | unexpected => exact .inr rfl

theorem solve_failsBy (constraints : List CoeffectConstraint) :
    FailsBy (solve constraints) (complaint? constraints) "dataflow solving" := by
  have kinds (fault : Fault) (found : complaint? constraints = some fault) :
      fault.kind ≠ .nonTermination := ne_nonTermination (reports_iff.mpr found).kind_eq
  -- All shapes are looked at before the first pass, so a wrong one is found ahead of missing values.
  cases first : (remaining constraints).find? misshapen with
  | some constraint =>
      have found : complaint? constraints =
          some (.invalidConstraint invalidLabel constraint.left constraint.right) := by
        rw [complaint?, first]
      rw [found] at kinds ⊢
      constructor
      · rintro fault ⟨⟩
        refine ⟨?_, kinds _ rfl⟩
        rw [solve, plan_eq_error_of_misshapen first]
      · rintro ⟨⟩
  | none =>
      obtain ⟨oriented, planned⟩ := exists_plan_of_shaped first
      have shaped : ∀ constraint ∈ remaining constraints, misshapen constraint = false := by
        simpa using first
      have steady (assignment : Assignment) :
          failure? (pass (Partition.ofPairs (links constraints)) oriented assignment) =
            complaint? constraints := by
        rw [pass_eq_sweep planned, complaint?, first]
        exact failure?_sweep (fun constraint member =>
          failure?_apply (shaped constraint member) _) assignment
      rw [solve, planned]
      exact failsBy_of_steady steady kinds (by decide : 0 < Iteration.defaultFuel) NameMap.empty
        Solution.mk _

theorem solve_eq_error_iff {fault : Fault} :
    solve constraints = .error fault ∧ fault.kind ≠ .nonTermination ↔ Reports constraints fault :=
  (solve_failsBy constraints).error_iff.trans reports_iff.symm

theorem exists_invalid_iff :
    (∃ fault, solve constraints = .error fault ∧ fault.kind = .invalidConstraint) ↔
      ∃ constraint ∈ remaining constraints, misshapen constraint = true := by
  constructor
  · rintro ⟨fault, failed, kind⟩
    cases solve_eq_error_iff.mp ⟨failed, ne_nonTermination (.inl kind)⟩ with
    | invalid first => exact ⟨_, List.mem_of_find?_eq_some first, List.find?_some first⟩
    | unexpected => cases kind
  · intro some
    obtain ⟨constraint, first⟩ := Option.isSome_iff_exists.mp (List.find?_isSome.mpr some)
    exact ⟨_, (solve_eq_error_iff.mpr (.invalid first)).1, rfl⟩

theorem exists_unexpected_iff :
    (∃ fault, solve constraints = .error fault ∧ fault.kind = .unexpected) ↔
      (∀ constraint ∈ remaining constraints, misshapen constraint = false) ∧
        ∃ constraint ∈ remaining constraints, unevaluable constraint = true := by
  constructor
  · rintro ⟨fault, failed, kind⟩
    cases solve_eq_error_iff.mp ⟨failed, ne_nonTermination (.inr kind)⟩ with
    | invalid => cases kind
    | unexpected shaped first =>
        exact ⟨by simpa using shaped, _, List.mem_of_find?_eq_some first, List.find?_some first⟩
  · rintro ⟨shaped, some⟩
    obtain ⟨constraint, first⟩ := Option.isSome_iff_exists.mp (List.find?_isSome.mpr some)
    have foreign := List.find?_some first
    obtain ⟨part, leftmost⟩ := Option.isSome_iff_exists.mp
      (List.find?_isSome.mpr (List.any_eq_true.mp foreign))
    exact ⟨_, (solve_eq_error_iff.mpr (.unexpected (by simpa using shaped) first leftmost)).1, rfl⟩

theorem solve_of_solvable (solvable : ∀ constraint ∈ remaining constraints,
      misshapen constraint = false ∧ unevaluable constraint = false) :
    (∃ solution, solve constraints = .ok solution) ∨
      solve constraints = .error (.nonTermination "dataflow solving" Iteration.defaultFuel) := by
  apply (solve_failsBy constraints).otherwise
  have shaped : (remaining constraints).find? misshapen = none := by
    simpa using fun constraint member => (solvable constraint member).1
  rw [complaint?, shaped]
  apply List.findSome?_eq_none_iff.mpr
  intro constraint member
  rw [← Option.isNone_iff_eq_none, ← Option.not_isSome, Analysis.isSome_fault?]
  exact congrArg Bool.not (solvable constraint member).2

end Dataflow

/-- What the analyses report of constraints, using up their bound apart. Solving for parameters
fails exactly if some remaining constraint has a left side without a rule or a right side without a
value, and then on the first of them. Solving for numbers fails on the first remaining constraint
without a variable, even where an earlier one has no value, and otherwise exactly if there is one
without a value, on the first of them. A missing value is blamed on its leftmost part without a
meaning; what is in the payload type of a parameter is no part, and is never looked at. -/
theorem solve_faults_exactly (constraints : List CoeffectConstraint) :
    ((∀ fault, Implicit.solve constraints = .error fault ∧ fault.kind ≠ .nonTermination ↔
        Implicit.Reports constraints fault) ∧
      ((∃ fault, Implicit.solve constraints = .error fault ∧
          (fault.kind = .invalidConstraint ∨ fault.kind = .unexpected)) ↔
        ∃ constraint ∈ Implicit.remaining constraints, Implicit.unsolvable constraint = true) ∧
      ((∀ constraint ∈ Implicit.remaining constraints, Implicit.unsolvable constraint = false) →
        (∃ solution, Implicit.solve constraints = .ok solution) ∨
          Implicit.solve constraints =
            .error (.nonTermination "implicit parameter solving" Iteration.defaultFuel))) ∧
    (∀ fault, Dataflow.solve constraints = .error fault ∧ fault.kind ≠ .nonTermination ↔
        Dataflow.Reports constraints fault) ∧
      ((∃ fault, Dataflow.solve constraints = .error fault ∧ fault.kind = .invalidConstraint) ↔
        ∃ constraint ∈ Dataflow.remaining constraints, Dataflow.misshapen constraint = true) ∧
      ((∃ fault, Dataflow.solve constraints = .error fault ∧ fault.kind = .unexpected) ↔
        (∀ constraint ∈ Dataflow.remaining constraints, Dataflow.misshapen constraint = false) ∧
          ∃ constraint ∈ Dataflow.remaining constraints, Dataflow.unevaluable constraint = true) ∧
      ((∀ constraint ∈ Dataflow.remaining constraints,
          Dataflow.misshapen constraint = false ∧ Dataflow.unevaluable constraint = false) →
        (∃ solution, Dataflow.solve constraints = .ok solution) ∨
          Dataflow.solve constraints =
            .error (.nonTermination "dataflow solving" Iteration.defaultFuel)) := by
  refine ⟨⟨fun fault => Implicit.solve_eq_error_iff, Implicit.exists_error_iff,
    Implicit.solve_of_solvable⟩, fun fault => Dataflow.solve_eq_error_iff,
    Dataflow.exists_invalid_iff, Dataflow.exists_unexpected_iff, Dataflow.solve_of_solvable⟩

theorem solve_faults_exactly_of_two_faults :
    let early : CoeffectConstraint := ⟨.var "v", .merge (.past 2) (.param "p" .absent)⟩
    let late : CoeffectConstraint := ⟨.use, .merge (.var "l") .use⟩
    Implicit.solve [early, late] = .error (.unexpected (.notParameters (.past 2))) ∧
      Dataflow.solve [early, late] =
        .error (.invalidConstraint "invalid dataflow constraint" .use (.merge (.var "l") .use)) ∧
      Dataflow.solve [early] = .error (.unexpected (.notSteps (.param "p" .absent))) ∧
      ((∃ solution, Implicit.solve [⟨.var "v", .use⟩] = .ok solution) ∨
        Implicit.solve [⟨.var "v", .use⟩] =
          .error (.nonTermination "implicit parameter solving" Iteration.defaultFuel)) := by
  intro early late
  have missing : Implicit.Reports [early, late] (.unexpected (.notParameters (.past 2))) :=
    .unexpected (rfl : (Implicit.remaining [early, late]).find? _ = some early) rfl rfl
  have shapeless : Dataflow.Reports [early, late]
      (.invalidConstraint Dataflow.invalidLabel late.left late.right) :=
    .invalid (rfl : (Dataflow.remaining [early, late]).find? _ = some late)
  have missing' : Dataflow.Reports [early] (.unexpected (.notSteps (.param "p" .absent))) :=
    .unexpected rfl (rfl : (Dataflow.remaining [early]).find? _ = some early) rfl
  exact ⟨(((solve_faults_exactly [early, late]).1.1 _).mpr missing).1,
    (((solve_faults_exactly [early, late]).2.1 _).mpr shapeless).1,
    (((solve_faults_exactly [early]).2.1 _).mpr missing').1,
    (solve_faults_exactly [⟨.var "v", .use⟩]).1.2.2 (by decide)⟩

/-- A parameter has a value even where its payload type holds a coeffect without a meaning. -/
theorem solve_overlooks_payload :
    let right : Coeffect := .param "p" (.comonad (.past 1) (.prim "Int"))
    Implicit.remaining [⟨.var "v", right⟩] = [⟨.var "v", right⟩] ∧
      (∃ part ∈ right.subterms, Analysis.implicit.foreign part = true) ∧
      ∃ solution, Implicit.solve [⟨.var "v", right⟩] = .ok solution := by
  intro right
  have solved : Implicit.solve [⟨.var "v", right⟩] =
      .ok ⟨NameMap.ofList [("v", NameSet.singleton "p")],
        Implicit.payloadsOf [⟨.var "v", right⟩]⟩ := by
    decide +kernel
  have inside : Coeffect.past 1 ∈ right.subterms := by decide
  exact ⟨rfl, ⟨.past 1, inside, rfl⟩, _, solved⟩

end CoeffectSolver
