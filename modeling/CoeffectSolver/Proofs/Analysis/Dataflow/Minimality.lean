import CoeffectSolver.Proofs.Analysis.Dataflow.Satisfaction
import CoeffectSolver.Proofs.Term.Parts

/-! An assignment of numbers found by iteration asks for no more past values than any exact solution
of the constraints. Evaluation is monotone as long as no sum leaves the range of a word, and an exact
solution whose numbers fit into words keeps every sum below it in that range. -/

namespace CoeffectSolver.Dataflow

/-- The number of a coeffect in exact arithmetic. -/
def exactNumber (numbers : String → Nat) : Coeffect → Nat
  | .past steps => steps.toNat
  | .var name => numbers name
  | .merge left right => min (exactNumber numbers left) (exactNumber numbers right)
  | .split left right => max (exactNumber numbers left) (exactNumber numbers right)
  | .seq left right => exactNumber numbers left + exactNumber numbers right
  | _ => 0

/-- Numbers that solve constraints exactly: equivalent variables have the same number, the variable of
every other constraint has the number of the value side, and all numbers on the way fit into words. -/
structure ExactSolution (constraints : List CoeffectConstraint) (numbers : String → Nat) : Prop where
  linked : ∀ pair ∈ links constraints, numbers pair.1 = numbers pair.2
  solved : ∀ constraint ∈ remaining constraints, ∀ oriented ∈ Oriented.of? constraint,
    numbers oriented.target = exactNumber numbers oriented.value
  fits : ∀ constraint ∈ remaining constraints, ∀ oriented ∈ Oriented.of? constraint,
    ∀ part ∈ oriented.value.parts, exactNumber numbers part < UInt64.size

section Evaluation

variable {assignment : Assignment} {numbers : String → Nat}

private theorem toNat_min (first second : UInt64) :
    (if first ≤ second then first else second).toNat = min first.toNat second.toNat := by
  split
  · rename_i ordered
    exact (Nat.min_eq_left (UInt64.le_iff_toNat_le.mp ordered)).symm
  · rename_i reversed
    rw [UInt64.le_iff_toNat_le] at reversed
    omega

private theorem toNat_max (first second : UInt64) :
    (if first ≤ second then second else first).toNat = max first.toNat second.toNat := by
  split
  · rename_i ordered
    exact (Nat.max_eq_right (UInt64.le_iff_toNat_le.mp ordered)).symm
  · rename_i reversed
    rw [UInt64.le_iff_toNat_le] at reversed
    omega

private theorem toNat_add_le {first second : UInt64} {bound bound' : Nat}
    (below : first.toNat ≤ bound) (below' : second.toNat ≤ bound')
    (fits : bound + bound' < UInt64.size) : (first + second).toNat ≤ bound + bound' := by
  have exact : (first + second).toNat = first.toNat + second.toNat := by
    rw [UInt64.toNat_add]
    exact Nat.mod_eq_of_lt (Nat.lt_of_le_of_lt (Nat.add_le_add below below') fits)
  omega

private theorem exists_bounded {first second : Except Fault UInt64} {bound bound' : Nat}
    {combine : UInt64 → UInt64 → UInt64} {number : UInt64}
    (onLeft : ∀ value, first = .ok value → value.toNat ≤ bound)
    (onRight : ∀ value, second = .ok value → value.toNat ≤ bound')
    (evaluated : (do
      let value ← first
      let value' ← second
      pure (combine value value')) = .ok number) :
    ∃ value value', number = combine value value' ∧ value.toNat ≤ bound ∧ value'.toNat ≤ bound' := by
  obtain ⟨value, found, evaluated⟩ := Iteration.bind_eq_ok_iff.mp evaluated
  obtain ⟨value', found', same⟩ := Iteration.bind_eq_ok_iff.mp evaluated
  exact ⟨value, value', (Except.ok.inj same).symm, onLeft value found, onRight value' found'⟩

theorem toNat_evaluate_le (below : ∀ name, (assignment.value name).toNat ≤ numbers name) :
    (coeffect : Coeffect) → (∀ part ∈ coeffect.parts, exactNumber numbers part < UInt64.size) →
    {number : UInt64} → evaluate assignment coeffect = .ok number →
    number.toNat ≤ exactNumber numbers coeffect
  | .use, _, _, evaluated => by cases evaluated; exact Nat.zero_le _
  | .ignore, _, _, evaluated => by cases evaluated; exact Nat.zero_le _
  | .past steps, _, _, evaluated => by cases evaluated; exact Nat.le_refl _
  | .var name, _, _, evaluated => by cases evaluated; exact below name
  | .merge left right, fits, _, evaluated => by
      rw [Coeffect.parts, List.forall_mem_cons, List.forall_mem_append] at fits
      obtain ⟨first, second, rfl, bound, bound'⟩ := exists_bounded
        (fun _ => toNat_evaluate_le below left fits.2.1)
        (fun _ => toNat_evaluate_le below right fits.2.2) evaluated
      rw [toNat_min, exactNumber]
      omega
  | .split left right, fits, _, evaluated => by
      rw [Coeffect.parts, List.forall_mem_cons, List.forall_mem_append] at fits
      obtain ⟨first, second, rfl, bound, bound'⟩ := exists_bounded
        (fun _ => toNat_evaluate_le below left fits.2.1)
        (fun _ => toNat_evaluate_le below right fits.2.2) evaluated
      rw [toNat_max, exactNumber]
      omega
  | .seq left right, fits, _, evaluated => by
      rw [Coeffect.parts, List.forall_mem_cons, List.forall_mem_append] at fits
      obtain ⟨first, second, rfl, bound, bound'⟩ := exists_bounded
        (fun _ => toNat_evaluate_le below left fits.2.1)
        (fun _ => toNat_evaluate_le below right fits.2.2) evaluated
      exact toNat_add_le bound bound' fits.1
  | .absent, _, _, evaluated => by cases evaluated
  | .unconstrained, _, _, evaluated => by cases evaluated
  | .param _ _, _, _, evaluated => by cases evaluated

end Evaluation

section Bounded

variable {constraints : List CoeffectConstraint} {numbers : String → Nat}
  {assignment next : Assignment}

theorem ExactSolution.eq_of_equivalent (exact : ExactSolution constraints numbers)
    {first second : String} (same : (sweep constraints).Equivalent first second) :
    numbers first = numbers second :=
  Partition.value_eq_of_classOf_eq exact.linked same

/-- Applying a constraint to numbers below an exact solution gives numbers below it. -/
theorem ExactSolution.le_of_apply (exact : ExactSolution constraints numbers)
    {constraint : CoeffectConstraint} (member : constraint ∈ remaining constraints)
    (below : ∀ name, (assignment.value name).toNat ≤ numbers name)
    (applied : (sweep constraints).apply assignment constraint = .ok next) (name : String) :
    (next.value name).toNat ≤ numbers name := by
  obtain ⟨oriented, number, found, evaluated, written⟩ := apply_eq_ok_iff.mp applied
  have lookup : next.get? name = if (sweep constraints).Equivalent name oriented.target then
      some number else assignment.get? name := by
    rw [written]
    exact (sweep constraints).get?_assign
  rw [Assignment.value, lookup]
  by_cases same : (sweep constraints).Equivalent name oriented.target
  · rw [if_pos same, Option.getD_some, exact.eq_of_equivalent same,
      exact.solved constraint member oriented found]
    exact toNat_evaluate_le below oriented.value (exact.fits constraint member oriented found)
      evaluated
  · rw [if_neg same]
    exact below name

theorem ExactSolution.le_of_sweep (exact : ExactSolution constraints numbers)
    (below : ∀ name, (assignment.value name).toNat ≤ numbers name)
    (swept : (remaining constraints).foldlM (sweep constraints).apply assignment = .ok next) :
    ∀ name, (next.value name).toNat ≤ numbers name :=
  Iteration.sweep_relates (motive := fun first second : Assignment =>
    (∀ name, (first.value name).toNat ≤ numbers name) →
      ∀ name, (second.value name).toNat ≤ numbers name) (fun _ => id)
    (fun _ _ _ early late => late ∘ early)
    (fun _ member _ _ applied bounded => exact.le_of_apply member bounded applied) swept below

end Bounded

/-- A found solution needs no more past values of any variable than an exact solution does. -/
theorem toNat_value_le_of_solve {constraints : List CoeffectConstraint} {solution : Solution}
    (solved : solve constraints = .ok solution) {numbers : String → Nat}
    (exact : ExactSolution constraints numbers) (name : String) :
    (solution.assignment.value name).toNat ≤ numbers name := by
  obtain ⟨_, stops⟩ := run_of_solve solved
  rw [← stops]
  revert name
  refine Iteration.run_invariant (motive := fun assignment : Assignment =>
    ∀ name, (assignment.value name).toNat ≤ numbers name) ?_ ?_
  · intro assignment next below swept
    exact exact.le_of_sweep below swept
  · intro name
    exact Nat.zero_le _

theorem toNat_value_le_of_solve_of_loop :
    ∃ solution, solve [⟨.var "v", .var "w"⟩, ⟨.split (.var "w") (.past 2), .var "v"⟩] =
        .ok solution ∧
      solution.assignment.value "v" = 2 ∧ (solution.assignment.value "v").toNat ≤ 5 := by
  have solved : solve [⟨.var "v", .var "w"⟩, ⟨.split (.var "w") (.past 2), .var "v"⟩] =
      .ok ⟨NameMap.ofList [("v", 2), ("w", 2)]⟩ := by decide +kernel
  have exact : ExactSolution [⟨.var "v", .var "w"⟩, ⟨.split (.var "w") (.past 2), .var "v"⟩]
      (fun _ => 5) := by
    refine ⟨fun _ _ => rfl, ?_, ?_⟩
    · decide
    · decide
  exact ⟨_, solved, by decide +kernel, toNat_value_le_of_solve solved exact "v"⟩

end CoeffectSolver.Dataflow
