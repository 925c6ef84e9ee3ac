import CoeffectSolver.Analysis.Dataflow.Solution
import CoeffectSolver.Proofs.Analysis.Sweep

/-! Which constraints an assignment of numbers found by iteration satisfies. A constraint overwrites
what constraints before it wrote to the same class, so the found assignment satisfies a constraint
when nothing after it writes its class and nothing it reads changes while it is read. A merge of two
variables is replaced by the first, which keeps its value if the two are linked. -/

namespace CoeffectSolver.Dataflow

deriving instance DecidableEq for Solution

/-- Both sides of a constraint have the same number. -/
def Satisfied (assignment : Assignment) (constraint : CoeffectConstraint) : Prop :=
  ∃ number, evaluate assignment constraint.left = .ok number ∧
    evaluate assignment constraint.right = .ok number

instance (assignment : Assignment) (constraint : CoeffectConstraint) :
    Decidable (Satisfied assignment constraint) :=
  match left : evaluate assignment constraint.left with
  | .error _ => isFalse fun ⟨_, evaluated, _⟩ => by rw [left] at evaluated; cases evaluated
  | .ok number =>
      if right : evaluate assignment constraint.right = .ok number then
        isTrue ⟨number, left, right⟩
      else
        isFalse fun ⟨_, evaluated, evaluated'⟩ => right (by
          rw [evaluated', Except.ok.inj (left.symm.trans evaluated)])

theorem evaluate_congr {first second : Assignment} : (coeffect : Coeffect) →
    (∀ name ∈ coeffect.reads, first.value name = second.value name) →
    evaluate first coeffect = evaluate second coeffect
  | .absent, _ => rfl
  | .use, _ => rfl
  | .ignore, _ => rfl
  | .unconstrained, _ => rfl
  | .past _, _ => rfl
  | .param _ _, _ => rfl
  | .var name, same => by rw [evaluate, evaluate, same name List.mem_cons_self]
  | .merge left right, same => by
      rw [evaluate, evaluate,
        evaluate_congr left fun name read => same name (List.mem_append_left _ read),
        evaluate_congr right fun name read => same name (List.mem_append_right _ read)]
  | .split left right, same => by
      rw [evaluate, evaluate,
        evaluate_congr left fun name read => same name (List.mem_append_left _ read),
        evaluate_congr right fun name read => same name (List.mem_append_right _ read)]
  | .seq left right, same => by
      rw [evaluate, evaluate,
        evaluate_congr left fun name read => same name (List.mem_append_left _ read),
        evaluate_congr right fun name read => same name (List.mem_append_right _ read)]

/-- A coeffect that has a number: it holds no parameter, no gap and no unconstrained position. -/
def evaluable : Coeffect → Bool
  | .absent => false
  | .unconstrained => false
  | .param _ _ => false
  | .merge left right => evaluable left && evaluable right
  | .split left right => evaluable left && evaluable right
  | .seq left right => evaluable left && evaluable right
  | _ => true

theorem evaluates_iff_evaluable (assignment : Assignment) : (coeffect : Coeffect) →
    ((∃ number, evaluate assignment coeffect = .ok number) ↔ evaluable coeffect = true)
  | .absent => by simp [evaluate, evaluable]
  | .use => by simp [evaluate, evaluable]
  | .ignore => by simp [evaluate, evaluable]
  | .unconstrained => by simp [evaluate, evaluable]
  | .past steps => by simp [evaluate, evaluable]
  | .param name payload => by simp [evaluate, evaluable]
  | .var name => by simp [evaluate, evaluable]
  | .merge left right => by
      rw [evaluate, evaluable, Bool.and_eq_true, Iteration.exists_combined_iff,
        evaluates_iff_evaluable assignment left, evaluates_iff_evaluable assignment right]
  | .split left right => by
      rw [evaluate, evaluable, Bool.and_eq_true, Iteration.exists_combined_iff,
        evaluates_iff_evaluable assignment left, evaluates_iff_evaluable assignment right]
  | .seq left right => by
      rw [evaluate, evaluable, Bool.and_eq_true, Iteration.exists_combined_iff,
        evaluates_iff_evaluable assignment left, evaluates_iff_evaluable assignment right]

private theorem evaluable_representative (coeffect : Coeffect) :
    evaluable (representative coeffect) = evaluable coeffect := by
  unfold representative
  split
  · rfl
  · rfl

/-- Where a coeffect merges two variables, they are linked or the first has the smaller number. -/
def LinkedOrLeast (classes : Partition) (assignment : Assignment) : Coeffect → Prop
  | .merge (.var first) (.var second) => classes.classOf first = classes.classOf second ∨
      assignment.value first ≤ assignment.value second
  | _ => True

private theorem evaluate_merge_of_le {assignment : Assignment} {first second : String}
    (ordered : assignment.value first ≤ assignment.value second) :
    evaluate assignment (.merge (.var first) (.var second)) = .ok (assignment.value first) := by
  simp only [evaluate, bind, Except.bind, pure, Except.pure, if_pos ordered]

private theorem evaluate_representative {classes : Partition} {assignment : Assignment}
    (respects : classes.Respects assignment) {coeffect : Coeffect}
    (linked : LinkedOrLeast classes assignment coeffect) :
    evaluate assignment (representative coeffect) = evaluate assignment coeffect := by
  unfold representative
  split
  · rename_i first second
    have ordered : assignment.value first ≤ assignment.value second := by
      rcases linked with same | least
      · rw [Assignment.value, Assignment.value, respects first second same]
        exact UInt64.le_refl _
      · exact least
    exact (evaluate_merge_of_le ordered).symm
  · rfl

private theorem sides_of_oriented {constraint : CoeffectConstraint} {oriented : Oriented}
    (found : Oriented.of? constraint = some oriented) :
    representative constraint.left = .var oriented.target ∧
        representative constraint.right = oriented.value ∨
      representative constraint.left = oriented.value ∧
        representative constraint.right = .var oriented.target := by
  unfold Oriented.of? at found
  split at found
  · rename_i target value onLeft
    cases found
    exact .inl ⟨onLeft, rfl⟩
  · rename_i target onRight _
    cases found
    exact .inr ⟨rfl, onRight⟩
  · cases found

private theorem orient_eq_ok_iff {constraint : CoeffectConstraint} {oriented : Oriented} :
    orient constraint = .ok oriented ↔ Oriented.of? constraint = some oriented := by
  unfold orient
  cases Oriented.of? constraint with
  | none => simp
  | some found => simp

/-- Planning fails on the first constraint without a variable side. -/
theorem plan_eq_error_iff {constraints : List CoeffectConstraint} {fault : Fault} :
    plan constraints = .error fault ↔
      ∃ constraint, (remaining constraints).find? (fun constraint =>
          !(Oriented.of? constraint).isSome) = some constraint ∧ orient constraint = .error fault := by
  apply Iteration.mapM_eq_error_iff
  intro constraint
  simp only [orient_eq_ok_iff, Option.isSome_iff_exists]

theorem apply_eq_ok_iff {classes : Partition} {assignment next : Assignment}
    {constraint : CoeffectConstraint} :
    (orient constraint >>= applyOriented classes assignment) = .ok next ↔
      ∃ oriented number, Oriented.of? constraint = some oriented ∧
        evaluate assignment oriented.value = .ok number ∧
        next = classes.assign oriented.target number assignment := by
  rw [Iteration.bind_eq_ok_iff]
  constructor
  · intro ⟨oriented, found, applied⟩
    obtain ⟨number, evaluated, same⟩ := Iteration.bind_eq_ok_iff.mp applied
    exact ⟨oriented, number, orient_eq_ok_iff.mp found, evaluated, (Except.ok.inj same).symm⟩
  · intro ⟨oriented, number, found, evaluated, same⟩
    refine ⟨oriented, orient_eq_ok_iff.mpr found, ?_⟩
    rw [applyOriented, evaluated, same]
    rfl

/-- The sweep that solving repeats. -/
def sweep (constraints : List CoeffectConstraint) : Sweep UInt64 where
  classes := Partition.ofPairs (links constraints)
  target? := fun constraint => (Oriented.of? constraint).map Oriented.target
  apply := fun assignment constraint =>
    orient constraint >>= applyOriented (Partition.ofPairs (links constraints)) assignment
  disjoint := Partition.disjoint_ofPairs (links constraints)
  apply_writes := by
    intro assignment next constraint applied
    obtain ⟨oriented, number, found, _, written⟩ := apply_eq_ok_iff.mp applied
    exact ⟨oriented.target, number, by rw [found, Option.map_some], written⟩

/-- Finding the variable sides of all constraints beforehand makes no difference to a pass. -/
theorem pass_eq_sweep {constraints : List CoeffectConstraint} {oriented : List Oriented}
    (planned : plan constraints = .ok oriented) :
    pass (Partition.ofPairs (links constraints)) oriented =
      fun assignment => (remaining constraints).foldlM (sweep constraints).apply assignment := by
  funext assignment
  exact Iteration.sweep_prepared planned assignment

theorem solve_succeeds_of_settled {constraints : List CoeffectConstraint}
    {oriented : List Oriented} (planned : plan constraints = .ok oriented)
    (settled : (Iteration.run agree
      (fun assignment => (remaining constraints).foldlM (sweep constraints).apply assignment)
      Iteration.defaultFuel NameMap.empty).halt = .settled) :
    ∃ solution, solve constraints = .ok solution := by
  unfold solve
  rw [planned]
  dsimp only
  rw [pass_eq_sweep planned, settled]
  exact ⟨_, rfl⟩

theorem run_of_solve {constraints : List CoeffectConstraint} {solution : Solution}
    (solved : solve constraints = .ok solution) :
    (Iteration.run agree
        (fun assignment => (remaining constraints).foldlM (sweep constraints).apply assignment)
        Iteration.defaultFuel NameMap.empty).halt = .settled ∧
      (Iteration.run agree
        (fun assignment => (remaining constraints).foldlM (sweep constraints).apply assignment)
        Iteration.defaultFuel NameMap.empty).state = solution.assignment := by
  unfold solve at solved
  cases planned : plan constraints with
  | error fault => rw [planned] at solved; cases solved
  | ok oriented =>
      rw [planned] at solved
      dsimp only at solved
      rw [pass_eq_sweep planned] at solved
      split at solved
      · rename_i settled
        cases solved
        exact ⟨settled, rfl⟩
      · cases solved
      · cases solved

theorem fixed_of_solve {constraints : List CoeffectConstraint} {solution : Solution}
    (solved : solve constraints = .ok solution) :
    (remaining constraints).foldlM (sweep constraints).apply solution.assignment =
        .ok solution.assignment ∧
      (sweep constraints).classes.Respects solution.assignment := by
  obtain ⟨settled, stops⟩ := run_of_solve solved
  exact (sweep constraints).fixed_of_settled settled stops

section Settled

variable {constraints : List CoeffectConstraint} {assignment : Assignment}

/-- Every constraint that a sweep got through writes a variable from a coeffect with a number. -/
private theorem oriented_of_swept {swept : List CoeffectConstraint} {start final : Assignment}
    (success : swept.foldlM (sweep constraints).apply start = .ok final)
    {constraint : CoeffectConstraint} (member : constraint ∈ swept) :
    ∃ oriented, Oriented.of? constraint = some oriented ∧ evaluable oriented.value = true := by
  obtain ⟨state, next, applied⟩ := Iteration.advances_of_mem member success
  obtain ⟨oriented, number, found, evaluated, _⟩ := apply_eq_ok_iff.mp applied
  exact ⟨oriented, found, (evaluates_iff_evaluable state oriented.value).mp ⟨number, evaluated⟩⟩

private theorem evaluable_of_oriented {constraint : CoeffectConstraint} {oriented : Oriented}
    (found : Oriented.of? constraint = some oriented) (valued : evaluable oriented.value = true) :
    evaluable constraint.left = true ∧ evaluable constraint.right = true := by
  rw [← evaluable_representative constraint.left, ← evaluable_representative constraint.right]
  rcases sides_of_oriented found with ⟨left, right⟩ | ⟨left, right⟩
  · rw [left, right]
    exact ⟨rfl, valued⟩
  · rw [left, right]
    exact ⟨valued, rfl⟩

private theorem satisfied_of_links (respects : (sweep constraints).classes.Respects assignment)
    {constraint : CoeffectConstraint} (member : constraint ∈ constraints)
    (kept : isSkipped constraint = false) {pairs : List (String × String)}
    (linked : links? constraint = some pairs) : Satisfied assignment constraint := by
  have same {first second : String} (listed : (first, second) ∈ pairs) :
      assignment.value first = assignment.value second := by
    have given : (first, second) ∈ links constraints := by
      refine List.mem_flatten.mpr ⟨pairs, List.mem_filterMap.mpr ⟨constraint, ?_, linked⟩, listed⟩
      exact List.mem_filter.mpr ⟨member, by rw [kept, Bool.not_false]⟩
    rw [Assignment.value, Assignment.value,
      respects first second (Partition.classOf_eq_of_pair given)]
  unfold links? at linked
  split at linked
  · rename_i first second left right
    cases linked
    have equal := same List.mem_cons_self
    exact ⟨assignment.value first, by rw [left, evaluate], by rw [right, evaluate, equal]⟩
  · rename_i first second third left right
    cases linked
    have merged := same List.mem_cons_self
    have equal := same (List.mem_cons_of_mem _ List.mem_cons_self)
    refine ⟨assignment.value first, ?_, by rw [right, evaluate, equal]⟩
    rw [left, evaluate_merge_of_le (UInt64.le_of_eq merged)]
  · rename_i third first second left right
    cases linked
    have merged := same List.mem_cons_self
    have equal := same (List.mem_cons_of_mem _ List.mem_cons_self)
    refine ⟨assignment.value first, by rw [left, evaluate, equal], ?_⟩
    rw [right, evaluate_merge_of_le (UInt64.le_of_eq merged)]
  · cases linked

/-- A constraint that is the last to write its class, and that reads nothing which is written both
before it and from it on, holds of an assignment that a sweep reproduces. -/
private theorem satisfied_of_undisturbed {before after : List CoeffectConstraint}
    {constraint : CoeffectConstraint} {oriented : Oriented}
    (swept : (before ++ constraint :: after).foldlM (sweep constraints).apply assignment =
      .ok assignment)
    (found : Oriented.of? constraint = some oriented)
    (last : (sweep constraints).Untouched after oriented.target)
    (steady : ∀ name ∈ oriented.value.reads, (sweep constraints).Untouched before name ∨
      (sweep constraints).Untouched (constraint :: after) name) :
    Satisfied assignment ⟨representative constraint.left, representative constraint.right⟩ := by
  obtain ⟨reached, early, late⟩ := Iteration.sweep_append swept
  obtain ⟨next, applied, onward⟩ := Iteration.sweep_cons late
  obtain ⟨oriented', number, found', evaluated, written⟩ := apply_eq_ok_iff.mp applied
  cases Option.some.inj (found.symm.trans found')
  have target : assignment.value oriented.target = number := by
    rw [Assignment.value, Sweep.get?_of_untouched last onward, written,
      Partition.get?_assign (Partition.disjoint_ofPairs _), if_pos rfl, Option.getD_some]
  have value : evaluate assignment oriented.value = .ok number := by
    rw [← evaluated]
    refine evaluate_congr oriented.value fun name read => ?_
    rw [Assignment.value, Assignment.value, Sweep.get?_of_steady early late (steady name read)]
  rcases sides_of_oriented found with ⟨left, right⟩ | ⟨left, right⟩
  · exact ⟨number, by rw [left, evaluate, target], by rw [right, value]⟩
  · exact ⟨number, by rw [left, value], by rw [right, evaluate, target]⟩

end Settled

/-- What a solution satisfies: equivalences hold, both sides of every constraint have a number, and
a constraint holds if it is the last to write its class, reads nothing that is written both before it
and from it on, and is no constraint on a merge of unlinked variables of which the first is larger. -/
theorem satisfied_of_solve {constraints : List CoeffectConstraint} {solution : Solution}
    (solved : solve constraints = .ok solution) :
    (∀ constraint ∈ constraints, isSkipped constraint = false →
      (∃ number, evaluate solution.assignment constraint.left = .ok number) ∧
      (∃ number, evaluate solution.assignment constraint.right = .ok number) ∧
      ((links? constraint).isSome = true → Satisfied solution.assignment constraint)) ∧
    ∀ before constraint after, remaining constraints = before ++ constraint :: after →
      ∃ oriented, Oriented.of? constraint = some oriented ∧
        ((sweep constraints).Untouched after oriented.target →
          (∀ name ∈ oriented.value.reads, (sweep constraints).Untouched before name ∨
            (sweep constraints).Untouched (constraint :: after) name) →
          LinkedOrLeast (sweep constraints).classes solution.assignment constraint.left →
          LinkedOrLeast (sweep constraints).classes solution.assignment constraint.right →
          Satisfied solution.assignment constraint) := by
  obtain ⟨swept, respects⟩ := fixed_of_solve solved
  constructor
  · intro constraint member kept
    cases linked : links? constraint with
    | some pairs =>
        obtain ⟨number, left, right⟩ := satisfied_of_links respects member kept linked
        exact ⟨⟨number, left⟩, ⟨number, right⟩, fun _ => ⟨number, left, right⟩⟩
    | none =>
        have remains : constraint ∈ remaining constraints :=
          List.mem_filter.mpr ⟨member, by rw [kept, linked]; rfl⟩
        obtain ⟨oriented, found, valued⟩ := oriented_of_swept swept remains
        obtain ⟨left, right⟩ := evaluable_of_oriented found valued
        refine ⟨(evaluates_iff_evaluable _ _).mpr left, (evaluates_iff_evaluable _ _).mpr right, ?_⟩
        intro some
        cases some
  · intro before constraint after split
    rw [split] at swept
    obtain ⟨oriented, found, _⟩ :=
      oriented_of_swept swept (List.mem_append_right _ List.mem_cons_self)
    refine ⟨oriented, found, fun last steady linkedLeft linkedRight => ?_⟩
    obtain ⟨number, left, right⟩ := satisfied_of_undisturbed swept found last steady
    rw [evaluate_representative respects linkedLeft] at left
    rw [evaluate_representative respects linkedRight] at right
    exact ⟨number, left, right⟩

theorem satisfied_of_solve_of_chain :
    let sequenced : CoeffectConstraint := ⟨.var "x", .seq (.var "a") (.past 1)⟩
    let merged : CoeffectConstraint := ⟨.past 3, .merge (.var "b") (.var "a")⟩
    let ordered : CoeffectConstraint := ⟨.merge (.var "y") (.var "x"), .past 2⟩
    ∃ solution, solve [⟨.var "a", .var "b"⟩, sequenced, merged, ordered] = .ok solution ∧
      Satisfied solution.assignment ⟨.var "a", .var "b"⟩ ∧
      Satisfied solution.assignment sequenced ∧ Satisfied solution.assignment merged ∧
      Satisfied solution.assignment ordered := by
  intro sequenced merged ordered
  have solved : solve [⟨.var "a", .var "b"⟩, sequenced, merged, ordered] =
      .ok ⟨NameMap.ofList [("a", 3), ("b", 3), ("x", 4), ("y", 2)]⟩ := by decide +kernel
  obtain ⟨each, settled⟩ := satisfied_of_solve solved
  obtain ⟨oriented, found, onSequence⟩ := settled [] sequenced [merged, ordered] rfl
  obtain ⟨oriented', found', onLinked⟩ := settled [sequenced] merged [ordered] rfl
  obtain ⟨oriented'', found'', onOrdered⟩ := settled [sequenced, merged] ordered [] rfl
  cases found
  cases found'
  cases found''
  refine ⟨_, solved, (each _ List.mem_cons_self rfl).2.2 rfl, ?_, ?_, ?_⟩
  · exact onSequence (by decide +kernel) (by decide +kernel) trivial trivial
  · exact onLinked (by decide +kernel) (by decide +kernel) trivial (.inl (by decide +kernel))
  · exact onOrdered (by decide +kernel) (by decide +kernel) (.inr (by decide +kernel)) trivial

/-- A constraint whose class a later constraint writes may be left unsatisfied, even where an
assignment exists that satisfies all constraints. So may a single constraint on a merge of two
variables that nothing links. -/
theorem unsatisfied_of_overwritten_or_unlinked :
    let overwritten : CoeffectConstraint := ⟨.var "v", .split (.var "w") .use⟩
    let unlinked : CoeffectConstraint := ⟨.merge (.var "a") (.var "b"), .past 3⟩
    (∃ solution, solve [overwritten, ⟨.var "v", .past 2⟩] = .ok solution ∧
      ¬ Satisfied solution.assignment overwritten) ∧
    (∃ assignment, Satisfied assignment overwritten ∧ Satisfied assignment ⟨.var "v", .past 2⟩) ∧
    (∃ solution, solve [unlinked] = .ok solution ∧ ¬ Satisfied solution.assignment unlinked) ∧
    ∃ assignment, Satisfied assignment unlinked :=
  ⟨⟨⟨NameMap.ofList [("v", 2)]⟩, by decide +kernel, by decide +kernel⟩,
    ⟨NameMap.ofList [("v", 2), ("w", 2)], by decide +kernel, by decide +kernel⟩,
    ⟨⟨NameMap.ofList [("a", 3)]⟩, by decide +kernel, by decide +kernel⟩,
    NameMap.ofList [("a", 3), ("b", 3)], by decide +kernel⟩

end CoeffectSolver.Dataflow
