import CoeffectSolver.Analysis.Implicit.Solution
import CoeffectSolver.Proofs.Analysis.Sweep

/-! Which rules an assignment of implicit parameters found by iteration obeys. A variable on the left
of a constraint only gains parameters, while the other rules replace what their class stood for, so
a rule holds of the found assignment unless a rule after it undoes it, or something it reads is not
yet what it becomes. -/

namespace CoeffectSolver.Implicit

deriving instance DecidableEq for Solution

/-- A coeffect that has a set of parameters: it holds no number, no gap and no unconstrained
position. -/
def evaluable : Coeffect → Bool
  | .absent => false
  | .unconstrained => false
  | .past _ => false
  | .merge left right => evaluable left && evaluable right
  | .split left right => evaluable left && evaluable right
  | .seq left right => evaluable left && evaluable right
  | _ => true

theorem evaluates_iff_evaluable (assignment : Assignment) : (coeffect : Coeffect) →
    ((∃ value, evaluate assignment coeffect = .ok value) ↔ evaluable coeffect = true)
  | .absent => by simp [evaluate, evaluable]
  | .use => by simp [evaluate, evaluable]
  | .ignore => by simp [evaluate, evaluable]
  | .unconstrained => by simp [evaluate, evaluable]
  | .past steps => by simp [evaluate, evaluable]
  | .param name payload => by simp [evaluate, evaluable]
  | .var name => by simp [evaluate, evaluable]
  | .merge left right => by
      rw [evaluate, evaluable, Bool.and_eq_true, Iteration.exists_combined_iff,
        evaluates_iff_evaluable assignment left, evaluates_iff_evaluable assignment right]
  | .split left right => by
      rw [evaluate, evaluable, Bool.and_eq_true, Iteration.exists_combined_iff,
        evaluates_iff_evaluable assignment left, evaluates_iff_evaluable assignment right]
  | .seq left right => by
      rw [evaluate, evaluable, Bool.and_eq_true, Iteration.exists_combined_iff,
        evaluates_iff_evaluable assignment left, evaluates_iff_evaluable assignment right]

/-- A coeffect requires a parameter under an assignment. -/
def Requires (assignment : Assignment) (parameter : String) : Coeffect → Prop
  | .param name _ => parameter = name
  | .var name => parameter ∈ assignment.value name
  | .merge left right => Requires assignment parameter left ∨ Requires assignment parameter right
  | .split left right => Requires assignment parameter left ∨ Requires assignment parameter right
  | .seq left right => Requires assignment parameter left ∨ Requires assignment parameter right
  | _ => False

private theorem mem_of_union {first second : Except Fault NameSet} {value : NameSet}
    (evaluated : (do
      let members ← first
      let members' ← second
      pure (members.union members')) = .ok value) :
    ∃ members members', first = .ok members ∧ second = .ok members' ∧
      ∀ parameter, parameter ∈ value ↔ parameter ∈ members ∨ parameter ∈ members' := by
  obtain ⟨members, onLeft, evaluated⟩ := Iteration.bind_eq_ok_iff.mp evaluated
  obtain ⟨members', onRight, same⟩ := Iteration.bind_eq_ok_iff.mp evaluated
  cases same
  exact ⟨members, members', onLeft, onRight, fun parameter => NameSet.mem_union⟩

/-- The value of a coeffect holds what the coeffect requires. -/
theorem mem_iff_requires {assignment : Assignment} {parameter : String} : (coeffect : Coeffect) →
    {value : NameSet} → evaluate assignment coeffect = .ok value →
    (parameter ∈ value ↔ Requires assignment parameter coeffect)
  | .use, value, evaluated => by
      cases evaluated
      exact iff_false_intro NameSet.not_mem_empty
  | .ignore, value, evaluated => by
      cases evaluated
      exact iff_false_intro NameSet.not_mem_empty
  | .param name payload, value, evaluated => by
      cases evaluated
      exact NameSet.mem_singleton
  | .var name, value, evaluated => by
      cases evaluated
      exact Iff.rfl
  | .merge left right, value, evaluated => by
      obtain ⟨members, members', onLeft, onRight, either⟩ := mem_of_union evaluated
      rw [either, mem_iff_requires left onLeft, mem_iff_requires right onRight, Requires]
  | .split left right, value, evaluated => by
      obtain ⟨members, members', onLeft, onRight, either⟩ := mem_of_union evaluated
      rw [either, mem_iff_requires left onLeft, mem_iff_requires right onRight, Requires]
  | .seq left right, value, evaluated => by
      obtain ⟨members, members', onLeft, onRight, either⟩ := mem_of_union evaluated
      rw [either, mem_iff_requires left onLeft, mem_iff_requires right onRight, Requires]
  | .absent, _, evaluated => by cases evaluated
  | .unconstrained, _, evaluated => by cases evaluated
  | .past _, _, evaluated => by cases evaluated

theorem requires_mono {first second : Assignment} {parameter : String} : (coeffect : Coeffect) →
    (∀ name ∈ coeffect.reads, parameter ∈ first.value name → parameter ∈ second.value name) →
    Requires first parameter coeffect → Requires second parameter coeffect
  | .use, _, required => required
  | .ignore, _, required => required
  | .param _ _, _, required => required
  | .absent, _, required => required
  | .unconstrained, _, required => required
  | .past _, _, required => required
  | .var name, larger, required => larger name List.mem_cons_self required
  | .merge left right, larger, required => required.imp
      (requires_mono left fun name read => larger name (List.mem_append_left _ read))
      (requires_mono right fun name read => larger name (List.mem_append_right _ read))
  | .split left right, larger, required => required.imp
      (requires_mono left fun name read => larger name (List.mem_append_left _ read))
      (requires_mono right fun name read => larger name (List.mem_append_right _ read))
  | .seq left right, larger, required => required.imp
      (requires_mono left fun name read => larger name (List.mem_append_left _ read))
      (requires_mono right fun name read => larger name (List.mem_append_right _ read))

theorem apply_eq_ok_iff {classes : Partition} {assignment next : Assignment}
    {constraint : CoeffectConstraint} :
    applyConstraint classes assignment constraint = .ok next ↔
      ∃ rule value, Rule.ofLeft? constraint.left = some rule ∧
        evaluate assignment constraint.right = .ok value ∧
        next = classes.assign rule.target (rule.written assignment value) assignment := by
  unfold applyConstraint
  cases found : Rule.ofLeft? constraint.left with
  | none =>
      constructor
      · intro failed
        cases failed
      · intro ⟨_, _, missing, _⟩
        cases missing
  | some rule =>
      dsimp only
      rw [Iteration.bind_eq_ok_iff]
      constructor
      · intro ⟨value, evaluated, same⟩
        exact ⟨rule, value, rfl, evaluated, (Except.ok.inj same).symm⟩
      · intro ⟨rule', value, same, evaluated, written⟩
        cases same
        exact ⟨value, evaluated, by rw [written]; rfl⟩

/-- The sweep that solving repeats. -/
def sweep (constraints : List CoeffectConstraint) : Sweep NameSet where
  classes := Partition.ofPairs (links constraints)
  target? := fun constraint => (Rule.ofLeft? constraint.left).map Rule.target
  apply := applyConstraint (Partition.ofPairs (links constraints))
  disjoint := Partition.disjoint_ofPairs (links constraints)
  apply_writes := by
    intro assignment next constraint applied
    obtain ⟨rule, value, found, _, written⟩ := apply_eq_ok_iff.mp applied
    exact ⟨rule.target, rule.written assignment value, by rw [found, Option.map_some], written⟩

theorem solve_succeeds_of_settled {constraints : List CoeffectConstraint}
    (settled : (Iteration.run agree
      (fun assignment => (remaining constraints).foldlM (sweep constraints).apply assignment)
      Iteration.defaultFuel NameMap.empty).halt = .settled) :
    ∃ solution, solve constraints = .ok solution := by
  change (Iteration.run agree
    (pass (Partition.ofPairs (links constraints)) (remaining constraints))
    Iteration.defaultFuel NameMap.empty).halt = .settled at settled
  unfold solve
  dsimp only
  rw [settled]
  exact ⟨_, rfl⟩

theorem fixed_of_solve {constraints : List CoeffectConstraint} {solution : Solution}
    (solved : solve constraints = .ok solution) :
    (remaining constraints).foldlM (sweep constraints).apply solution.assignment =
        .ok solution.assignment ∧
      (sweep constraints).classes.Respects solution.assignment := by
  unfold solve at solved
  dsimp only at solved
  split at solved
  · rename_i settled
    cases solved
    exact (sweep constraints).fixed_of_settled settled rfl
  · cases solved
  · cases solved

theorem visits_of_solve {constraints : List CoeffectConstraint} {solution : Solution}
    (solved : solve constraints = .ok solution) :
    Iteration.Visits (sweep constraints).apply (remaining constraints) NameMap.empty []
      solution.assignment := by
  unfold solve at solved
  dsimp only at solved
  split at solved
  · cases solved
    exact Iteration.visits_of_run
  · cases solved
  · cases solved

/-- Whether a constraint replaces what the class of its variable stood for. -/
def overwrites (constraint : CoeffectConstraint) : Bool :=
  match Rule.ofLeft? constraint.left with
  | some (.grow _) => false
  | _ => true

/-- The class of a variable is written by adding to it only. -/
def OnlyGrown (constraints swept : List CoeffectConstraint) (name : String) : Prop :=
  (sweep constraints).Untouched (swept.filter overwrites) name

instance (constraints swept : List CoeffectConstraint) (name : String) :
    Decidable (OnlyGrown constraints swept name) :=
  inferInstanceAs (Decidable ((sweep constraints).Untouched (swept.filter overwrites) name))

section Settled

variable {constraints : List CoeffectConstraint}

/-- A constraint that does not overwrite a class leaves the parameters in it. -/
private theorem grows_of_apply {assignment next : Assignment} {constraint : CoeffectConstraint}
    {name : String} (respects : (sweep constraints).classes.Respects assignment)
    (kept : overwrites constraint = true → ∀ target ∈ (sweep constraints).target? constraint,
      ¬ (sweep constraints).Equivalent name target)
    (applied : (sweep constraints).apply assignment constraint = .ok next) :
    ∀ parameter ∈ assignment.value name, parameter ∈ next.value name := by
  intro parameter member
  obtain ⟨rule, value, found, _, written⟩ := apply_eq_ok_iff.mp applied
  have targeted : (sweep constraints).target? constraint = some rule.target :=
    congrArg (Option.map Rule.target) found
  rw [written, Assignment.value, Partition.get?_assign (Partition.disjoint_ofPairs _)]
  by_cases same : (Partition.ofPairs (links constraints)).classOf name =
      (Partition.ofPairs (links constraints)).classOf rule.target
  · rw [if_pos same, Option.getD_some]
    cases rule with
    | grow target =>
        refine NameSet.mem_union.mpr (.inl ?_)
        rw [Assignment.value, ← respects name target same]
        exact member
    | remainder provider target =>
        exact absurd same (kept (by rw [overwrites, found]) target targeted)
    | allBut removed target =>
        exact absurd same (kept (by rw [overwrites, found]) target targeted)
  · rw [if_neg same]
    exact member

/-- A sweep in which nothing overwrites a class only adds parameters to it. -/
theorem grows_of_sweep {swept : List CoeffectConstraint} {start final : Assignment}
    {name : String} (respects : (sweep constraints).classes.Respects start)
    (grown : OnlyGrown constraints swept name)
    (success : swept.foldlM (sweep constraints).apply start = .ok final) :
    ∀ parameter ∈ start.value name, parameter ∈ final.value name := by
  -- Equivalent variables have to agree on the way: a rule adds to what its own variable stands for.
  induction swept generalizing start with
  | nil =>
      cases success
      exact fun _ member => member
  | cons constraint rest ih =>
      intro parameter member
      obtain ⟨next, applied, onward⟩ := Iteration.sweep_cons success
      have now : parameter ∈ Assignment.value next name := by
        refine grows_of_apply respects (fun overwriting => ?_) applied parameter member
        exact grown constraint (List.mem_filter.mpr ⟨List.mem_cons_self, overwriting⟩)
      have later : OnlyGrown constraints rest name := fun other listed =>
        grown other (List.mem_filter.mpr ⟨List.mem_cons_of_mem _ (List.mem_filter.mp listed).1,
          (List.mem_filter.mp listed).2⟩)
      exact ih (Sweep.respects_of_apply respects applied) later onward parameter now

/-- What a rule says of an assignment under which the right side has a value. -/
def Rule.Holds (assignment : Assignment) (value : NameSet) : Rule → Prop
  | .grow target => ∀ parameter ∈ value, parameter ∈ assignment.value target
  | .remainder provider target => ∀ parameter, parameter ∈ assignment.value target ↔
      parameter ∈ value ∧ ¬ parameter ∈ assignment.value provider
  | .allBut removed target => ∀ parameter, parameter ∈ assignment.value target ↔
      parameter ∈ value ∧ parameter ≠ removed

/-- The variables that a rule reads besides the right side. -/
def Rule.providers : Rule → List String
  | .grow _ => []
  | .remainder provider _ => [provider]
  | .allBut _ _ => []

/-- A variable that has its final value at the point between two lists of constraints. -/
def Steady (constraints before rest : List CoeffectConstraint) (name : String) : Prop :=
  (sweep constraints).Untouched before name ∨ (sweep constraints).Untouched rest name ∨
    OnlyGrown constraints before name ∧ OnlyGrown constraints rest name

instance (constraints before rest : List CoeffectConstraint) (name : String) :
    Decidable (Steady constraints before rest name) :=
  inferInstanceAs (Decidable (_ ∨ _ ∨ _ ∧ _))

/-- Nothing undoes a rule: where it adds to its variable, no later rule overwrites the class, and the
rule reads no less than what the variables end with; where it overwrites its variable, no later rule
writes the class, and what it reads has its final value. -/
def Rule.Undisturbed (constraints before after : List CoeffectConstraint)
    (constraint : CoeffectConstraint) : Rule → Prop
  | .grow target => OnlyGrown constraints after target ∧
      ∀ name ∈ constraint.right.reads, OnlyGrown constraints before name ∨
        (sweep constraints).Untouched (constraint :: after) name
  | rule => (sweep constraints).Untouched after rule.target ∧
      ∀ name ∈ constraint.right.reads ++ rule.providers,
        Steady constraints before (constraint :: after) name

section Point

variable {before rest : List CoeffectConstraint} {assignment reached : Assignment} {name : String}

private theorem final_subset_of_grown
    (respects : (sweep constraints).classes.Respects assignment)
    (early : before.foldlM (sweep constraints).apply assignment = .ok reached)
    (late : rest.foldlM (sweep constraints).apply reached = .ok assignment)
    (grown : OnlyGrown constraints before name ∨ (sweep constraints).Untouched rest name) :
    ∀ parameter ∈ assignment.value name, parameter ∈ reached.value name := by
  rcases grown with grown | untouched
  · exact grows_of_sweep respects grown early
  · intro parameter member
    rw [Assignment.value, ← Sweep.get?_of_untouched untouched late]
    exact member

private theorem final_iff_of_steady
    (respects : (sweep constraints).classes.Respects assignment)
    (early : before.foldlM (sweep constraints).apply assignment = .ok reached)
    (late : rest.foldlM (sweep constraints).apply reached = .ok assignment)
    (steady : Steady constraints before rest name) (parameter : String) :
    parameter ∈ reached.value name ↔ parameter ∈ assignment.value name := by
  have unchanged (sides : (sweep constraints).Untouched before name ∨
      (sweep constraints).Untouched rest name) :
      parameter ∈ reached.value name ↔ parameter ∈ assignment.value name := by
    rw [Assignment.value, Assignment.value, Sweep.get?_of_steady early late sides]
  rcases steady with untouched | untouched | ⟨grown, grown'⟩
  · exact unchanged (.inl untouched)
  · exact unchanged (.inr untouched)
  · -- A class that only gains parameters in a sweep that ends where it starts gains none.
    constructor
    · exact grows_of_sweep (Sweep.respects_of_sweep respects early) grown' late parameter
    · exact grows_of_sweep respects grown early parameter

private theorem mem_iff_of_steady {coeffect : Coeffect} {value value' : NameSet}
    (respects : (sweep constraints).classes.Respects assignment)
    (early : before.foldlM (sweep constraints).apply assignment = .ok reached)
    (late : rest.foldlM (sweep constraints).apply reached = .ok assignment)
    (steady : ∀ name ∈ coeffect.reads, Steady constraints before rest name)
    (evaluated : evaluate reached coeffect = .ok value)
    (evaluated' : evaluate assignment coeffect = .ok value') (parameter : String) :
    parameter ∈ value ↔ parameter ∈ value' := by
  rw [mem_iff_requires _ evaluated, mem_iff_requires _ evaluated']
  constructor
  · exact requires_mono _ fun name read =>
      (final_iff_of_steady respects early late (steady name read) parameter).mp
  · exact requires_mono _ fun name read =>
      (final_iff_of_steady respects early late (steady name read) parameter).mpr

end Point

/-- A rule that nothing undoes holds of an assignment that a sweep reproduces. -/
private theorem holds_of_undisturbed {before after : List CoeffectConstraint}
    {constraint : CoeffectConstraint} {assignment : Assignment} {rule : Rule} {value : NameSet}
    (respects : (sweep constraints).classes.Respects assignment)
    (swept : (before ++ constraint :: after).foldlM (sweep constraints).apply assignment =
      .ok assignment)
    (found : Rule.ofLeft? constraint.left = some rule)
    (evaluated : evaluate assignment constraint.right = .ok value)
    (undisturbed : rule.Undisturbed constraints before after constraint) :
    rule.Holds assignment value := by
  obtain ⟨reached, early, late⟩ := Iteration.sweep_append swept
  obtain ⟨next, applied, onward⟩ := Iteration.sweep_cons late
  obtain ⟨rule', value', found', evaluated', written⟩ := apply_eq_ok_iff.mp applied
  cases Option.some.inj (found.symm.trans found')
  have wrote : next.get? rule.target = some (rule.written reached value') := by
    rw [written, Partition.get?_assign (Partition.disjoint_ofPairs _), if_pos rfl]
  have kept (last : (sweep constraints).Untouched after rule.target) :
      assignment.value rule.target = rule.written reached value' := by
    rw [Assignment.value, Sweep.get?_of_untouched last onward, wrote, Option.getD_some]
  cases rule with
  | grow target =>
      obtain ⟨grown, reads⟩ := undisturbed
      intro parameter member
      have required : Requires reached parameter constraint.right :=
        requires_mono _ (fun name read =>
          final_subset_of_grown respects early late (reads name read) parameter)
          ((mem_iff_requires _ evaluated).mp member)
      have stored : next.get? target = some ((Assignment.value reached target).union value') :=
        wrote
      have added : parameter ∈ Assignment.value next target := by
        rw [Assignment.value, stored]
        exact NameSet.mem_union.mpr (.inr ((mem_iff_requires _ evaluated').mpr required))
      have agrees := Sweep.respects_of_apply (Sweep.respects_of_sweep respects early) applied
      exact grows_of_sweep agrees grown onward parameter added
  | remainder provider target =>
      obtain ⟨last, steady⟩ := undisturbed
      intro parameter
      have final : assignment.value target =
          value'.difference (Assignment.value reached provider) := kept last
      have provided := final_iff_of_steady respects early late
        (steady provider (List.mem_append_right _ List.mem_cons_self)) parameter
      have read := mem_iff_of_steady respects early late
        (fun name read => steady name (List.mem_append_left _ read)) evaluated' evaluated parameter
      rw [final, NameSet.mem_difference, provided, read]
  | allBut removed target =>
      obtain ⟨last, steady⟩ := undisturbed
      intro parameter
      have final : assignment.value target = value'.erase removed := kept last
      have read := mem_iff_of_steady respects early late
        (fun name read => steady name (List.mem_append_left _ read)) evaluated' evaluated parameter
      rw [final, NameSet.mem_erase, read]

end Settled

/-- What a solution obeys: every constraint that is neither skipped nor an equivalence is a rule with
a value, and the rule holds of the solution unless another one undoes it. -/
theorem holds_of_solve {constraints : List CoeffectConstraint} {solution : Solution}
    (solved : solve constraints = .ok solution) (before : List CoeffectConstraint)
    (constraint : CoeffectConstraint) (after : List CoeffectConstraint)
    (split : remaining constraints = before ++ constraint :: after) :
    ∃ rule value, Rule.ofLeft? constraint.left = some rule ∧
      evaluate solution.assignment constraint.right = .ok value ∧
      (rule.Undisturbed constraints before after constraint →
        rule.Holds solution.assignment value) := by
  obtain ⟨swept, respects⟩ := fixed_of_solve solved
  rw [split] at swept
  obtain ⟨state, next, applied⟩ :=
    Iteration.advances_of_mem (List.mem_append_right _ List.mem_cons_self) swept
  obtain ⟨rule, earlier, found, evaluatedEarlier, _⟩ := apply_eq_ok_iff.mp applied
  have valued := (evaluates_iff_evaluable state constraint.right).mp ⟨earlier, evaluatedEarlier⟩
  obtain ⟨value, evaluated⟩ := (evaluates_iff_evaluable solution.assignment _).mpr valued
  exact ⟨rule, value, found, evaluated, holds_of_undisturbed respects swept found evaluated⟩

theorem holds_of_solve_of_provided :
    ∃ solution, solve [⟨.merge (.var "decl") (.var "call"), .seq (.param "x" .absent) (.var "in")⟩,
        ⟨.var "decl", .var "other"⟩, ⟨.var "in", .param "y" .absent⟩,
        ⟨.var "other", .param "x" .absent⟩] = .ok solution ∧
      (Rule.remainder "decl" "call").Holds solution.assignment (NameSet.ofList ["x", "y"]) := by
  have solved : solve [⟨.merge (.var "decl") (.var "call"), .seq (.param "x" .absent) (.var "in")⟩,
      ⟨.var "decl", .var "other"⟩, ⟨.var "in", .param "y" .absent⟩,
      ⟨.var "other", .param "x" .absent⟩] =
        .ok ⟨NameMap.ofList [("call", NameSet.singleton "y"), ("decl", NameSet.singleton "x"),
          ("in", NameSet.singleton "y"), ("other", NameSet.singleton "x")], []⟩ := by decide +kernel
  obtain ⟨rule, value, found, evaluated, holds⟩ := holds_of_solve solved [] _ _ rfl
  cases found
  have valued : value = NameSet.ofList ["x", "y"] := by
    refine Except.ok.inj (evaluated.symm.trans ?_)
    decide +kernel
  rw [← valued]
  exact ⟨_, solved, holds ⟨by decide +kernel, by decide +kernel⟩⟩

/-- Parameters that a variable gained may be lost to a later rule that overwrites it, even where an
assignment exists that obeys both rules. -/
theorem lost_of_overwritten :
    (∃ solution, solve [⟨.var "v", .param "p" .absent⟩,
        ⟨.split (.param "q" .absent) (.var "v"), .merge (.var "w") .use⟩] = .ok solution ∧
      evaluate solution.assignment (.param "p" .absent) = .ok (NameSet.singleton "p") ∧
      ¬ (Rule.grow "v").Holds solution.assignment (NameSet.singleton "p")) ∧
    ∃ assignment, (Rule.grow "v").Holds assignment (NameSet.singleton "p") ∧
      evaluate assignment (.merge (.var "w") .use) = .ok (NameSet.singleton "p") ∧
      (Rule.allBut "q" "v").Holds assignment (NameSet.singleton "p") := by
  constructor
  · refine ⟨⟨NameMap.ofList [("v", ∅)], []⟩, by decide +kernel, rfl, fun holds => ?_⟩
    exact NameSet.not_mem_empty (holds "p" (NameSet.mem_singleton.mpr rfl))
  · refine ⟨NameMap.ofList [("v", NameSet.singleton "p"), ("w", NameSet.singleton "p")],
      fun parameter member => member, by decide +kernel, fun parameter => ?_⟩
    have apart (held : parameter ∈ NameSet.singleton "p") : parameter ≠ "q" := by
      rw [NameSet.mem_singleton.mp held]
      decide
    exact ⟨fun held => ⟨held, apart held⟩, fun both => both.1⟩

end CoeffectSolver.Implicit
