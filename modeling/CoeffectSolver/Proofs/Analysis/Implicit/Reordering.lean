import CoeffectSolver.Proofs.Analysis.Convergence
import CoeffectSolver.Proofs.Analysis.Implicit.LeastSolution

/-! What the order of constraints matters to, where every class of variables has one writer.

Most rules only hand on what they read, and what they lead to is a least solution in whatever order
they are applied. A rule that withholds the parameters of a provider is different: applied before the
provider is known it lets through too much, and a variable that feeds back into itself keeps what it
once got. Any other variable gets the same parameters in every order. -/

namespace CoeffectSolver.Implicit

open Relation (TransGen ReflTransGen)

/-- The variables that influence what a constraint writes: those that it reads, and the variable that
it adds to, which keeps what it has. -/
def influences (constraint : CoeffectConstraint) : List String :=
  inputs constraint ++
    match Rule.ofLeft? constraint.left with
    | some (.grow target) => [target]
    | _ => []

def DependsOn (constraints : List CoeffectConstraint) : String → String → Prop :=
  (sweep constraints).Depends influences (remaining constraints)

/-- The class of a variable gets what a provider does not provide, and a constraint writes the class
of the provider. -/
def Withheld (constraints : List CoeffectConstraint) (name : String) : Prop :=
  ∃ constraint ∈ remaining constraints, ∃ provider target,
    Rule.ofLeft? constraint.left = some (.remainder provider target) ∧
      (sweep constraints).Equivalent name target ∧
      ¬ (sweep constraints).Untouched (remaining constraints) provider

/-- A variable may have too many parameters for a while. -/
def Volatile (constraints : List CoeffectConstraint) (name : String) : Prop :=
  ∃ source, ReflTransGen (DependsOn constraints) name source ∧ Withheld constraints source

/-- A variable depends on no volatile variable that depends on itself. -/
def Determined (constraints : List CoeffectConstraint) (name : String) : Prop :=
  ∀ other, ReflTransGen (DependsOn constraints) name other → Volatile constraints other →
    ¬ TransGen (DependsOn constraints) other other

/-- An assignment that no constraint changes and that gives nothing to variables which no constraint
writes. -/
structure Balanced (constraints : List CoeffectConstraint) (assignment : Assignment) : Prop where
  respects : (sweep constraints).classes.Respects assignment
  fixed : ∀ constraint ∈ remaining constraints,
    (sweep constraints).apply assignment constraint = .ok assignment
  unassigned : ∀ name, (sweep constraints).Untouched (remaining constraints) name →
    assignment.get? name = none

section Dependence

variable {constraints : List CoeffectConstraint} {constraint : CoeffectConstraint} {rule : Rule}
  {name other : String}

theorem mem_influences_of_reads (read : name ∈ constraint.right.reads) :
    name ∈ influences constraint :=
  List.mem_append_left _ (List.mem_append_left _ read)

theorem mem_influences_of_remainder {provider target : String}
    (found : Rule.ofLeft? constraint.left = some (.remainder provider target)) :
    provider ∈ influences constraint := by
  rw [influences, inputs, found]
  exact List.mem_append_left _ (List.mem_append_right _ List.mem_cons_self)

theorem mem_influences_of_grow {target : String}
    (found : Rule.ofLeft? constraint.left = some (.grow target)) :
    target ∈ influences constraint := by
  rw [influences, found]
  exact List.mem_append_right _ List.mem_cons_self

theorem dependsOn_of_influences (member : constraint ∈ remaining constraints)
    (found : Rule.ofLeft? constraint.left = some rule)
    (same : (sweep constraints).Equivalent name rule.target)
    (read : other ∈ influences constraint) : DependsOn constraints name other :=
  ⟨constraint, member, ⟨rule.target, congrArg (Option.map Rule.target) found, same⟩, other, read, rfl⟩

theorem Volatile.of_dependsOn (volatile : Volatile constraints other)
    (edge : DependsOn constraints name other) : Volatile constraints name := by
  obtain ⟨source, path, withheld⟩ := volatile
  exact ⟨source, .head edge path, withheld⟩

theorem Determined.of_dependsOn (determined : Determined constraints name)
    (edge : DependsOn constraints name other) : Determined constraints other :=
  fun further path => determined further (.head edge path)

theorem Volatile.of_equivalent (volatile : Volatile constraints other)
    (same : (sweep constraints).Equivalent name other) : Volatile constraints name := by
  obtain ⟨source, path, withheld⟩ := volatile
  rcases path.cases_head with atStart | ⟨next, edge, onward⟩
  · subst atStart
    obtain ⟨constraint, member, provider, target, found, writes, touched⟩ := withheld
    exact ⟨name, .refl, constraint, member, provider, target, found, same.trans writes, touched⟩
  · exact ⟨source, .head (edge.of_equivalent same rfl) onward, withheld⟩

theorem Determined.of_equivalent (determined : Determined constraints name)
    (same : (sweep constraints).Equivalent other name) : Determined constraints other := by
  intro further path volatile cycle
  rcases path.cases_head with atStart | ⟨next, edge, onward⟩
  · subst atStart
    apply determined name .refl (volatile.of_equivalent same.symm)
    exact Sweep.transGen_of_equivalent cycle same.symm same.symm
  · exact determined further (.head (edge.of_equivalent same.symm rfl) onward) volatile cycle

/-- Where no constraint reads a class that another one overwrites, nothing volatile depends on
itself. -/
theorem not_dependsOn_self_of_unread
    (unread : ∀ constraint ∈ remaining constraints, overwrites constraint = true →
      ∀ target ∈ (sweep constraints).target? constraint, ∀ reader ∈ remaining constraints,
        ∀ read ∈ influences reader, ¬ (sweep constraints).Equivalent target read)
    (volatile : Volatile constraints name) : ¬ TransGen (DependsOn constraints) name name := by
  intro cycle
  obtain ⟨source, path, constraint, member, provider, target, found, writes, _⟩ := volatile
  -- The way round the cycle and on to the source ends with a constraint that reads the source.
  obtain ⟨_, _, reader, member', _, read, listed, reading⟩ :=
    TransGen.tail'_iff.mp (cycle.trans_left path)
  exact unread constraint member (by rw [overwrites, found]) target
    (congrArg (Option.map Rule.target) found) reader member' read listed (writes.symm.trans reading)

end Dependence

section Balance

variable {constraints : List CoeffectConstraint} {assignment assignment' next : Assignment}
  {constraint : CoeffectConstraint} {rule : Rule} {value : NameSet} {name : String}

/-- What holds at the start and is kept by every constraint holds after any number of passes. -/
theorem Reached.holds {motive : Assignment → Prop} (start : motive NameMap.empty)
    (kept : ∀ constraint ∈ remaining constraints, ∀ state next,
      (sweep constraints).apply state constraint = .ok next → motive state → motive next)
    (reached : Reached constraints assignment) : motive assignment := by
  induction reached with
  | start => exact start
  | next _ passed ih =>
      exact Iteration.sweep_relates (motive := fun first second => motive first → motive second)
        (fun _ => id) (fun _ _ _ early late => late ∘ early) kept passed ih

theorem balanced_of_solve {solution : Solution}
    (single : (sweep constraints).SingleWriters (remaining constraints))
    (solved : solve constraints = .ok solution) : Balanced constraints solution.assignment := by
  obtain ⟨swept, respects⟩ := fixed_of_solve solved
  refine ⟨respects, fun constraint member => single.apply_eq swept member, fun name untouched => ?_⟩
  refine (reached_of_solve solved).holds (motive := fun state => state.get? name = none) rfl ?_
  intro constraint member state next applied before
  obtain ⟨target, value, targeted, written⟩ := (sweep constraints).apply_writes applied
  rw [written, (sweep constraints).get?_assign, if_neg (untouched constraint member target targeted)]
  exact before

theorem Balanced.value_of_untouched (balanced : Balanced constraints assignment)
    (untouched : (sweep constraints).Untouched (remaining constraints) name) :
    assignment.value name = ∅ := by
  rw [Assignment.value, balanced.unassigned name untouched, Option.getD_none]

theorem value_of_written (written : next = (sweep constraints).classes.assign rule.target
      (rule.written assignment value) assignment) :
    next.value name = if (sweep constraints).Equivalent name rule.target then
      rule.written assignment value else assignment.value name := by
  rw [Assignment.value, written, (sweep constraints).get?_assign]
  split
  · rfl
  · rfl

/-- A constraint keeps variables that are not volatile below any balanced assignment. -/
theorem Balanced.above_of_apply (balanced : Balanced constraints assignment')
    (member : constraint ∈ remaining constraints)
    (below : ∀ name, ¬ Volatile constraints name →
      ∀ parameter ∈ assignment.value name, parameter ∈ assignment'.value name)
    (applied : (sweep constraints).apply assignment constraint = .ok next) :
    ∀ name, ¬ Volatile constraints name →
      ∀ parameter ∈ next.value name, parameter ∈ assignment'.value name := by
  intro name steady parameter held
  obtain ⟨rule, value, found, evaluated, written⟩ := apply_eq_ok_iff.mp applied
  obtain ⟨rule', value', found', evaluated', written'⟩ :=
    apply_eq_ok_iff.mp (balanced.fixed constraint member)
  cases Option.some.inj (found.symm.trans found')
  by_cases same : (sweep constraints).Equivalent name rule.target
  · have fed (other : String) (read : other ∈ influences constraint) :
        ∀ parameter ∈ assignment.value other, parameter ∈ assignment'.value other := by
      apply below
      intro volatile
      exact steady (volatile.of_dependsOn (dependsOn_of_influences member found same read))
    have larger : parameter ∈ value → parameter ∈ value' := by
      rw [mem_iff_requires _ evaluated, mem_iff_requires _ evaluated']
      exact requires_mono _ fun other read => fed other (mem_influences_of_reads read) parameter
    rw [value_of_written written, if_pos same] at held
    rw [value_of_written written', if_pos same]
    cases rule with
    | grow target =>
        rcases NameSet.mem_union.mp held with old | new
        · exact NameSet.mem_union.mpr (.inl (fed target (mem_influences_of_grow found) parameter old))
        · exact NameSet.mem_union.mpr (.inr (larger new))
    | remainder provider target =>
        -- A provider that some constraint writes would make the variable volatile.
        have untouched : (sweep constraints).Untouched (remaining constraints) provider := by
          by_contra touched
          exact steady ⟨name, .refl, constraint, member, provider, target, found, same, touched⟩
        obtain ⟨new, _⟩ := NameSet.mem_difference.mp held
        apply NameSet.mem_difference.mpr
        rw [balanced.value_of_untouched untouched]
        exact ⟨larger new, NameSet.not_mem_empty⟩
    | allBut removed target =>
        obtain ⟨new, kept⟩ := NameSet.mem_erase.mp held
        exact NameSet.mem_erase.mpr ⟨larger new, kept⟩
  · rw [value_of_written written, if_neg same] at held
    exact below name steady parameter held

/-- A balanced assignment gives the variable of a constraint what the influences of the constraint
determine. -/
theorem Balanced.value_eq_of_influences (balanced : Balanced constraints assignment)
    (balanced' : Balanced constraints assignment') (member : constraint ∈ remaining constraints)
    (found : Rule.ofLeft? constraint.left = some rule)
    (fed : ∀ other ∈ influences constraint, assignment.value other = assignment'.value other) :
    assignment.value rule.target = assignment'.value rule.target := by
  obtain ⟨rule₁, value, found₁, evaluated, written⟩ :=
    apply_eq_ok_iff.mp (balanced.fixed constraint member)
  obtain ⟨rule₂, value', found₂, evaluated', written'⟩ :=
    apply_eq_ok_iff.mp (balanced'.fixed constraint member)
  cases Option.some.inj (found.symm.trans found₁)
  cases Option.some.inj (found.symm.trans found₂)
  have equal := value_eq_of_reads (fun other read => fed other (mem_influences_of_reads read))
    evaluated evaluated'
  have self : (sweep constraints).Equivalent rule.target rule.target := rfl
  cases rule with
  | grow target => exact fed target (mem_influences_of_grow found)
  | remainder provider target =>
      rw [value_of_written written, if_pos self, value_of_written written', if_pos self,
        Rule.written, Rule.written, equal, fed provider (mem_influences_of_remainder found)]
  | allBut removed target =>
      rw [value_of_written written, if_pos self, value_of_written written', if_pos self,
        Rule.written, Rule.written, equal]

/-- Balanced assignments that agree on what is not volatile agree on every determined variable that is
written. A volatile one among these depends on fewer written variables than there are below it. -/
theorem Balanced.value_eq_of_target (balanced : Balanced constraints assignment)
    (balanced' : Balanced constraints assignment')
    (agree : ∀ name, ¬ Volatile constraints name → assignment.value name = assignment'.value name)
    {target : String} (written : target ∈ targets constraints)
    (determined : Determined constraints target) :
    assignment.value target = assignment'.value target := by
  induction size : ((sweep constraints).reachable influences (remaining constraints) target).card
    using Nat.strong_induction_on generalizing target with
  | _ size ih =>
      by_cases volatile : Volatile constraints target
      · have acyclic := determined target .refl volatile
        obtain ⟨constraint, member, targeted⟩ := List.mem_filterMap.mp (List.mem_toFinset.mp written)
        obtain ⟨rule, found, rfl⟩ := Option.map_eq_some_iff.mp targeted
        apply balanced.value_eq_of_influences balanced' member found
        intro other read
        have edge := dependsOn_of_influences member found rfl read
        rcases (sweep constraints).untouched_or_exists_target (remaining constraints) other with
          untouched | ⟨source, written', same⟩
        · rw [balanced.value_of_untouched untouched, balanced'.value_of_untouched untouched]
        · have onward : DependsOn constraints rule.target source := edge.of_equivalent rfl same.symm
          have fewer := Sweep.card_reachable_lt written onward acyclic
          rw [value_eq_of_equivalent balanced.respects same,
            value_eq_of_equivalent balanced'.respects same]
          exact ih _ (by omega) written' (determined.of_dependsOn onward) rfl
      · exact agree target volatile

theorem Balanced.value_eq_of_determined (balanced : Balanced constraints assignment)
    (balanced' : Balanced constraints assignment')
    (agree : ∀ name, ¬ Volatile constraints name → assignment.value name = assignment'.value name)
    (determined : Determined constraints name) : assignment.value name = assignment'.value name := by
  rcases (sweep constraints).untouched_or_exists_target (remaining constraints) name with
    untouched | ⟨target, written, same⟩
  · rw [balanced.value_of_untouched untouched, balanced'.value_of_untouched untouched]
  · rw [value_eq_of_equivalent balanced.respects same,
      value_eq_of_equivalent balanced'.respects same]
    exact balanced.value_eq_of_target balanced' agree written (determined.of_equivalent same.symm)

end Balance

section Permutation

variable {constraints reordered : List CoeffectConstraint} (same : constraints.Perm reordered)

include same

theorem remaining_of_perm : (remaining constraints).Perm (remaining reordered) := same.filter _

theorem equivalent_of_perm (first second : String) :
    (sweep reordered).Equivalent first second ↔ (sweep constraints).Equivalent first second := by
  rw [equivalent_iff_linked, equivalent_iff_linked, linked_of_perm same]

/-- The order of the constraints does not matter to what a single constraint does. -/
theorem apply_of_perm : (sweep reordered).apply = (sweep constraints).apply := by
  have classes : (sweep reordered).classes.classOf = (sweep constraints).classes.classOf := by
    funext name
    apply NameSet.ext_of_mem
    intro other
    rw [Partition.mem_classOf_iff (sweep reordered).disjoint,
      Partition.mem_classOf_iff (sweep constraints).disjoint]
    exact equivalent_of_perm same other name
  funext assignment constraint
  change applyConstraint (sweep reordered).classes assignment constraint =
    applyConstraint (sweep constraints).classes assignment constraint
  unfold applyConstraint Partition.assign
  rw [classes]

theorem untouched_of_perm {name : String}
    (untouched : (sweep constraints).Untouched (remaining constraints) name) :
    (sweep reordered).Untouched (remaining reordered) name := by
  intro constraint member target targeted equivalent
  apply untouched constraint ((remaining_of_perm same).mem_iff.mpr member) target targeted
  exact (equivalent_of_perm same name target).mp equivalent

theorem singleWriters_of_perm (single : (sweep constraints).SingleWriters (remaining constraints)) :
    (sweep reordered).SingleWriters (remaining reordered) := by
  refine (single.perm (remaining_of_perm same)).imp ?_
  intro first second apart target targeted other targeted' equivalent
  exact apart target targeted other targeted' ((equivalent_of_perm same target other).mp equivalent)

theorem Balanced.of_perm {assignment : Assignment} (balanced : Balanced reordered assignment) :
    Balanced constraints assignment := by
  refine ⟨fun first second equivalent => ?_, fun constraint member => ?_, fun name untouched => ?_⟩
  · exact balanced.respects first second ((equivalent_of_perm same first second).mpr equivalent)
  · rw [← apply_of_perm same]
    exact balanced.fixed constraint ((remaining_of_perm same).mem_iff.mp member)
  · exact balanced.unassigned name (untouched_of_perm same untouched)

/-- Whatever is not volatile ends with no more than any balanced assignment gives it, in every order of
the constraints. -/
theorem values_le_of_perm {assignment assignment' : Assignment}
    (balanced : Balanced constraints assignment') (reached : Reached reordered assignment) :
    ∀ name, ¬ Volatile constraints name →
      ∀ parameter ∈ assignment.value name, parameter ∈ assignment'.value name := by
  refine reached.holds (motive := fun state => ∀ name, ¬ Volatile constraints name →
    ∀ parameter ∈ state.value name, parameter ∈ assignment'.value name) ?_ ?_
  · intro name _ parameter held
    exact absurd held NameSet.not_mem_empty
  · intro constraint member state next applied below
    rw [apply_of_perm same] at applied
    exact balanced.above_of_apply ((remaining_of_perm same).mem_iff.mpr member) below applied

end Permutation

/-- Where no two constraints write the same class, solving assigns the same variables in every order
of the constraints, and the same sets to all variables except those that depend on a volatile variable
which depends on itself. -/
theorem assignments_agree_of_perm {constraints reordered : List CoeffectConstraint}
    (same : constraints.Perm reordered)
    (single : (sweep constraints).SingleWriters (remaining constraints))
    {solution solution' : Solution} (solved : solve constraints = .ok solution)
    (solved' : solve reordered = .ok solution') :
    (∀ name, solution.assignment.contains name = solution'.assignment.contains name) ∧
      (∀ name, Determined constraints name →
        solution.assignment.get? name = solution'.assignment.get? name) ∧
      ((∀ name, Volatile constraints name → ¬ TransGen (DependsOn constraints) name name) →
        solution.assignment = solution'.assignment) := by
  have balanced := balanced_of_solve single solved
  have balanced' : Balanced constraints solution'.assignment :=
    .of_perm same (balanced_of_solve (singleWriters_of_perm same single) solved')
  have assigned (name : String) :
      solution.assignment.contains name = solution'.assignment.contains name := by
    rw [Bool.eq_iff_iff, contains_iff_of_solve solved, contains_iff_of_solve solved',
      targets_of_perm same, linked_of_perm same]
  have agree (name : String) (steady : ¬ Volatile constraints name) :
      solution.assignment.value name = solution'.assignment.value name := by
    apply NameSet.ext_of_mem
    intro parameter
    constructor
    · exact values_le_of_perm (.refl _) balanced' (reached_of_solve solved) name steady parameter
    · exact values_le_of_perm same balanced (reached_of_solve solved') name steady parameter
  have equal (name : String) (determined : Determined constraints name) :
      solution.assignment.get? name = solution'.assignment.get? name :=
    get?_eq_of_value (assigned name) (balanced.value_eq_of_determined balanced' agree determined)
  refine ⟨assigned, equal, fun free => ?_⟩
  apply NameMap.ext_of_get?
  intro name
  exact equal name fun other _ => free other

theorem assignments_agree_of_perm_of_lambda :
    ∃ solution solution', solve [
        ⟨.merge (.var "decl") (.var "call"), .seq (.param "x" .absent) (.var "in")⟩,
        ⟨.var "decl", .var "other"⟩, ⟨.var "in", .param "y" .absent⟩,
        ⟨.var "other", .merge (.param "x" .absent) (.var "in")⟩] = .ok solution ∧
      solve [⟨.var "other", .merge (.param "x" .absent) (.var "in")⟩, ⟨.var "in", .param "y" .absent⟩,
        ⟨.var "decl", .var "other"⟩,
        ⟨.merge (.var "decl") (.var "call"), .seq (.param "x" .absent) (.var "in")⟩] =
          .ok solution' ∧
      solution.assignment = solution'.assignment := by
  have solved : solve [
      ⟨.merge (.var "decl") (.var "call"), .seq (.param "x" .absent) (.var "in")⟩,
      ⟨.var "decl", .var "other"⟩, ⟨.var "in", .param "y" .absent⟩,
      ⟨.var "other", .merge (.param "x" .absent) (.var "in")⟩] =
        .ok ⟨NameMap.ofList [("call", ∅), ("decl", NameSet.ofList ["x", "y"]),
          ("in", NameSet.singleton "y"), ("other", NameSet.ofList ["x", "y"])], []⟩ := by
    decide +kernel
  have solved' : solve [⟨.var "other", .merge (.param "x" .absent) (.var "in")⟩,
      ⟨.var "in", .param "y" .absent⟩, ⟨.var "decl", .var "other"⟩,
      ⟨.merge (.var "decl") (.var "call"), .seq (.param "x" .absent) (.var "in")⟩] =
        .ok ⟨NameMap.ofList [("call", ∅), ("decl", NameSet.ofList ["x", "y"]),
          ("in", NameSet.singleton "y"), ("other", NameSet.ofList ["x", "y"])], []⟩ := by
    decide +kernel
  have agree := assignments_agree_of_perm (by decide) (by decide +kernel) solved solved'
  exact ⟨_, _, solved, solved', agree.2.2 fun name =>
    not_dependsOn_self_of_unread (by decide +kernel)⟩

/-- A variable that gains parameters keeps what a rule let through before its provider was known, so
that its set depends on the order of the constraints although every class has one writer. -/
theorem kept_of_late_provider :
    let merged : CoeffectConstraint := ⟨.merge (.var "l") (.var "r"), .param "x" .absent⟩
    let reading : CoeffectConstraint := ⟨.var "d", .seq (.var "r") .use⟩
    let provider : CoeffectConstraint := ⟨.var "l", .param "x" .absent⟩
    let late := [merged, reading, provider]
    let early := [provider, merged, reading]
    (sweep late).SingleWriters (remaining late) ∧ late.Perm early ∧
      ∃ solution solution', solve late = .ok solution ∧ solve early = .ok solution' ∧
        solution.assignment.get? "d" = some (NameSet.singleton "x") ∧
        solution'.assignment.get? "d" = some ∅ :=
  ⟨by decide +kernel, by decide,
    ⟨NameMap.ofList [("d", NameSet.singleton "x"), ("l", NameSet.singleton "x"), ("r", ∅)], []⟩,
    ⟨NameMap.ofList [("d", ∅), ("l", NameSet.singleton "x"), ("r", ∅)], []⟩,
    by decide +kernel, by decide +kernel, by decide +kernel, by decide +kernel⟩

end CoeffectSolver.Implicit
