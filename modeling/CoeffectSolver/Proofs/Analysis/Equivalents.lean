import CoeffectSolver.Analysis.Basic
import CoeffectSolver.Proofs.Analysis.Dataflow.Satisfaction
import CoeffectSolver.Proofs.Analysis.Implicit.LeastSolution

/-! Variables that a chain of constraints links have the same value, or none, in every assignment
that solving goes through, and a solution assigns exactly the variables that are linked to the
variable of some constraint that is applied. -/

namespace CoeffectSolver

namespace Dataflow

variable {constraints : List CoeffectConstraint} {assignment : Assignment} {first second : String}

/-- The variables that a constraint makes equivalent. -/
def equated (constraint : CoeffectConstraint) : List String :=
  match constraint.left, constraint.right with
  | .var first, .var second => [first, second]
  | .merge (.var first) (.var second), .var third => [first, second, third]
  | .var third, .merge (.var first) (.var second) => [first, second, third]
  | _, _ => []

/-- Two variables that are connected by a chain of constraints that make variables equivalent. -/
def Linked (constraints : List CoeffectConstraint) : String → String → Prop :=
  Relation.EqvGen fun first second => ∃ constraint ∈ constraints,
    first ∈ equated constraint ∧ second ∈ equated constraint

private theorem equated_cases (constraint : CoeffectConstraint) :
    links? constraint = none ∧ equated constraint = [] ∨
      ∃ hub others, links? constraint = some (others.map fun other => (hub, other)) ∧
        equated constraint = hub :: others ∧ isSkipped constraint = false := by
  unfold links?
  split
  · rename_i first second left right
    exact .inr ⟨first, [second], rfl, by simp only [equated, left, right],
      by simp [isSkipped, left, right, Coeffect.isUnconstrained]⟩
  · rename_i first second third left right
    exact .inr ⟨first, [second, third], rfl, by simp only [equated, left, right],
      by simp [isSkipped, left, right, Coeffect.isUnconstrained]⟩
  · rename_i third first second left right
    exact .inr ⟨first, [second, third], rfl, by simp only [equated, left, right],
      by simp [isSkipped, left, right, Coeffect.isUnconstrained]⟩
  · rename_i names merged merged'
    refine .inl ⟨rfl, ?_⟩
    unfold equated
    split
    · rename_i left right
      exact absurd right (names _ _ left)
    · rename_i left right
      exact absurd right (merged _ _ _ left)
    · rename_i left right
      exact absurd right (merged' _ _ _ left)
    · rfl

theorem equivalent_iff_linked :
    (sweep constraints).Equivalent first second ↔ Linked constraints first second := by
  apply Partition.classOf_eq_iff_eqvGen
  · rintro ⟨name, other⟩ listed
    obtain ⟨pairs, given, inside⟩ := List.mem_flatten.mp listed
    obtain ⟨constraint, kept, linked⟩ := List.mem_filterMap.mp given
    refine ⟨constraint, (List.mem_filter.mp kept).1, ?_⟩
    rcases equated_cases constraint with ⟨missing, _⟩ | ⟨hub, others, found, names, _⟩
    · rw [missing] at linked
      cases linked
    · cases Option.some.inj (found.symm.trans linked)
      obtain ⟨_, member, same⟩ := List.mem_map.mp inside
      cases same
      rw [names]
      exact ⟨List.mem_cons_self, List.mem_cons_of_mem _ member⟩
  · rintro name other ⟨constraint, member, inName, inOther⟩
    rcases equated_cases constraint with ⟨_, none⟩ | ⟨hub, others, found, names, kept⟩
    · rw [none] at inName
      cases inName
    · have toHub (linked : String) (inside : linked ∈ equated constraint) :
          (sweep constraints).Equivalent hub linked := by
        rw [names] at inside
        rcases List.mem_cons.mp inside with same | later
        · rw [same]
          rfl
        · have given : constraint ∈ constraints.filter fun constraint => !isSkipped constraint :=
            List.mem_filter.mpr ⟨member, by rw [kept]; rfl⟩
          apply Partition.classOf_eq_of_pair
          apply List.mem_flatten.mpr
          exact ⟨_, List.mem_filterMap.mpr ⟨constraint, given, found⟩,
            List.mem_map.mpr ⟨linked, later, rfl⟩⟩
      exact (toHub name inName).symm.trans (toHub other inOther)

theorem respects_of_visits {oriented handled : List Oriented}
    (visited : Iteration.Visits (applyOriented (Partition.ofPairs (links constraints))) oriented
      NameMap.empty handled assignment) :
    (Partition.ofPairs (links constraints)).Respects assignment := by
  apply visited.invariant _ (Partition.respects_empty _)
  intro item _ state next before applied
  obtain ⟨number, _, written⟩ := Iteration.bind_eq_ok_iff.mp applied
  cases written
  exact Partition.respects_assign (Partition.disjoint_ofPairs _) before

theorem visits_of_solve {solution : Solution} (solved : solve constraints = .ok solution) :
    ∃ oriented, plan constraints = .ok oriented ∧
      Iteration.Visits (applyOriented (Partition.ofPairs (links constraints))) oriented
        NameMap.empty [] solution.assignment := by
  unfold solve at solved
  cases planned : plan constraints with
  | error fault => rw [planned] at solved; cases solved
  | ok oriented =>
      rw [planned] at solved
      dsimp only at solved
      split at solved
      · cases solved
        exact ⟨oriented, rfl, Iteration.visits_of_run⟩
      · cases solved
      · cases solved

theorem contains_iff_of_solve {solution : Solution} (solved : solve constraints = .ok solution)
    (name : String) : solution.assignment.contains name = true ↔
      ∃ constraint ∈ remaining constraints, ∃ target ∈ (sweep constraints).target? constraint,
        (sweep constraints).Equivalent name target := by
  obtain ⟨_, stops⟩ := run_of_solve solved
  apply Sweep.contains_iff_of_fixed (fixed_of_solve solved).1
  rw [← stops]
  exact Iteration.visits_of_run

end Dataflow

namespace Analysis

def Linked : Analysis → List CoeffectConstraint → String → String → Prop
  | .implicit => Implicit.Linked
  | .dataflow => Dataflow.Linked

def remaining : Analysis → List CoeffectConstraint → List CoeffectConstraint
  | .implicit => Implicit.remaining
  | .dataflow => Dataflow.remaining

/-- The variable that a constraint writes. -/
def target? : Analysis → CoeffectConstraint → Option String
  | .implicit, constraint => (Implicit.Rule.ofLeft? constraint.left).map Implicit.Rule.target
  | .dataflow, constraint => (Dataflow.Oriented.of? constraint).map Dataflow.Oriented.target

abbrev Value : Analysis → Type
  | .implicit => NameSet
  | .dataflow => UInt64

/-- An assignment that solving goes through: from the empty one, after any number of passes and any
number of constraints of the next pass. -/
def Visits : (analysis : Analysis) → List CoeffectConstraint → NameMap analysis.Value → Prop
  | .implicit, constraints, assignment => ∃ handled,
      Iteration.Visits (Implicit.applyConstraint (Partition.ofPairs (Implicit.links constraints)))
        (Implicit.remaining constraints) NameMap.empty handled assignment
  | .dataflow, constraints, assignment => ∃ oriented handled,
      Dataflow.plan constraints = .ok oriented ∧
        Iteration.Visits (Dataflow.applyOriented (Partition.ofPairs (Dataflow.links constraints)))
          oriented NameMap.empty handled assignment

def Finds : (analysis : Analysis) → List CoeffectConstraint → NameMap analysis.Value → Prop
  | .implicit, constraints, assignment =>
      ∃ solution, Implicit.solve constraints = .ok solution ∧ solution.assignment = assignment
  | .dataflow, constraints, assignment =>
      ∃ solution, Dataflow.solve constraints = .ok solution ∧ solution.assignment = assignment

variable {analysis : Analysis} {constraints : List CoeffectConstraint}
  {assignment : NameMap analysis.Value}

theorem get?_eq_of_linked (visited : analysis.Visits constraints assignment) {first second : String}
    (linked : analysis.Linked constraints first second) :
    assignment.get? first = assignment.get? second := by
  cases analysis with
  | implicit =>
      obtain ⟨handled, visited⟩ := visited
      exact (Implicit.sweep constraints).respects_of_visits visited first second
        (Implicit.equivalent_iff_linked.mpr linked)
  | dataflow =>
      obtain ⟨oriented, handled, _, visited⟩ := visited
      exact Dataflow.respects_of_visits visited first second
        (Dataflow.equivalent_iff_linked.mpr linked)

theorem visits_of_finds (found : analysis.Finds constraints assignment) :
    analysis.Visits constraints assignment := by
  cases analysis with
  | implicit =>
      obtain ⟨solution, solved, rfl⟩ := found
      exact ⟨[], Implicit.visits_of_solve solved⟩
  | dataflow =>
      obtain ⟨solution, solved, rfl⟩ := found
      obtain ⟨oriented, planned, visited⟩ := Dataflow.visits_of_solve solved
      exact ⟨oriented, [], planned, visited⟩

theorem contains_iff_of_finds (found : analysis.Finds constraints assignment) (name : String) :
    assignment.contains name = true ↔ ∃ constraint ∈ analysis.remaining constraints,
      ∃ target ∈ analysis.target? constraint, analysis.Linked constraints name target := by
  cases analysis with
  | implicit =>
      obtain ⟨solution, solved, rfl⟩ := found
      have touched := Sweep.contains_iff_of_fixed (Implicit.fixed_of_solve solved).1
        (Implicit.visits_of_solve solved) name
      simp only [Implicit.equivalent_iff_linked] at touched
      exact touched
  | dataflow =>
      obtain ⟨solution, solved, rfl⟩ := found
      have touched := Dataflow.contains_iff_of_solve solved name
      simp only [Dataflow.equivalent_iff_linked] at touched
      exact touched

/-- Linked variables share what happens to them: in every assignment that solving goes through they
have the same value or none, and a solution, the last of these, assigns exactly the variables that
are linked to the variable of a remaining constraint, and obeys the constraints between two
variables. -/
theorem linked_variables_agree (analysis : Analysis) (constraints : List CoeffectConstraint) :
    (∀ assignment, analysis.Visits constraints assignment →
      ∀ first second, analysis.Linked constraints first second →
        assignment.get? first = assignment.get? second) ∧
    ∀ assignment, analysis.Finds constraints assignment →
      analysis.Visits constraints assignment ∧
      (∀ name, assignment.contains name = true ↔ ∃ constraint ∈ analysis.remaining constraints,
        ∃ target ∈ analysis.target? constraint, analysis.Linked constraints name target) ∧
      ∀ first second, ⟨.var first, .var second⟩ ∈ constraints →
        assignment.get? first = assignment.get? second := by
  constructor
  · intro assignment visited first second linked
    exact get?_eq_of_linked visited linked
  · intro assignment found
    have visited := visits_of_finds found
    refine ⟨visited, contains_iff_of_finds found, fun first second member => ?_⟩
    apply get?_eq_of_linked visited
    cases analysis with
    | implicit => exact .rel _ _ member
    | dataflow =>
        refine .rel _ _ ⟨_, member, List.mem_cons_self, ?_⟩
        exact List.mem_cons_of_mem _ List.mem_cons_self

theorem linked_variables_agree_of_chains :
    (∃ assignment, implicit.Visits [⟨.var "a", .var "b"⟩, ⟨.var "c", .var "b"⟩,
        ⟨.var "a", .param "x" .absent⟩, ⟨.split (.param "x" .absent) (.var "d"), .var "c"⟩]
          assignment ∧
      assignment.contains "d" = false ∧ assignment.get? "a" = assignment.get? "c") ∧
    ∃ assignment, dataflow.Finds [⟨.merge (.var "a") (.var "b"), .var "c"⟩, ⟨.var "c", .var "d"⟩,
        ⟨.past 2, .var "b"⟩] assignment ∧
      assignment.contains "d" = true ∧ assignment.get? "c" = assignment.get? "d" := by
  constructor
  · have visited : implicit.Visits [⟨.var "a", .var "b"⟩, ⟨.var "c", .var "b"⟩,
        ⟨.var "a", .param "x" .absent⟩, ⟨.split (.param "x" .absent) (.var "d"), .var "c"⟩]
        (NameMap.ofList [("a", NameSet.singleton "x"), ("b", NameSet.singleton "x"),
          ("c", NameSet.singleton "x")]) :=
      ⟨_, .item .start rfl (by decide +kernel)⟩
    refine ⟨_, visited, by decide +kernel, ?_⟩
    apply (linked_variables_agree implicit _).1 _ visited
    exact .trans _ "b" _ (.rel _ _ (by simp)) (.symm _ _ (.rel _ _ (by simp)))
  · have found : dataflow.Finds [⟨.merge (.var "a") (.var "b"), .var "c"⟩, ⟨.var "c", .var "d"⟩,
        ⟨.past 2, .var "b"⟩] (NameMap.ofList [("a", 2), ("b", 2), ("c", 2), ("d", 2)]) :=
      ⟨⟨_⟩, by decide +kernel, rfl⟩
    obtain ⟨_, assigned, agree⟩ := (linked_variables_agree dataflow _).2 _ found
    refine ⟨_, found, ?_, agree "c" "d" (by simp)⟩
    refine (assigned "d").mpr ⟨⟨.past 2, .var "b"⟩, by decide, "b", rfl, ?_⟩
    exact .trans _ "c" _ (.rel _ _ ⟨⟨.var "c", .var "d"⟩, by decide⟩)
      (.rel _ _ ⟨⟨.merge (.var "a") (.var "b"), .var "c"⟩, by decide⟩)

end Analysis

end CoeffectSolver
