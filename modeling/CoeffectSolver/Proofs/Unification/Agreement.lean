import CoeffectSolver.Proofs.Iteration
import CoeffectSolver.Proofs.Unification.Correctness
import CoeffectSolver.Proofs.Unification.Gaps

/-! What unification finds is determined by the solutions of its constraints, up to the names of
variables, up to annotations in types, and up to what follows from the equalities between
annotations. So neither the order of the constraints matters nor how they are divided between
successive unifications. -/

namespace CoeffectSolver

/-- A replacement of variables that agrees with a substitution, modulo a relation that holds of the
sides of every equality. -/
structure Unified.SolvedBy (unified : Unified) (related : Coeffect → Coeffect → Prop)
    (image : String → Ty) : Prop where
  assigned : unified.assigned.RespectedBy related image
  equalities : ∀ equality ∈ unified.equalities, related equality.left equality.right

/-- A replacement of variables that also makes the sides of every constraint alike. -/
structure Unified.SolvedWith (start : Unified) (constraints : List TypeConstraint)
    (related : Coeffect → Coeffect → Prop) (image : String → Ty) : Prop where
  start : start.SolvedBy related image
  constraints : ∀ constraint ∈ constraints,
    Ty.AlikeUpTo related (constraint.left.replace image) (constraint.right.replace image)

/-- What the outcome of unification says about the solutions of constraints. -/
inductive Settles (start : Unified) (constraints : List TypeConstraint) :
    Except Fault Unified → Prop
  | success {unified : Unified} (acyclic : unified.assigned.Acyclic)
      (solutions : ∀ related, Equivalence related → ∀ image,
        unified.SolvedBy related image ↔ start.SolvedWith constraints related image) :
      Settles start constraints (.ok unified)
  | mismatch {fault : Fault} (kind : fault.kind = .typeMismatch)
      (unsolvable : ∀ related, Equivalence related → ∀ image,
        ¬ start.SolvedWith constraints related image) :
      Settles start constraints (.error fault)
  | exhausted {fault : Fault} (kind : fault.kind = .nonTermination) :
      Settles start constraints (.error fault)

/-- Two results whose equalities generate the same equivalence, and under which every type has the
same normal form once annotations are erased. -/
structure Unified.Agrees (first second : Unified) : Prop where
  equated : Coeffect.EquatedBy first.equalities = Coeffect.EquatedBy second.equalities
  normal : ∀ type, (normalise Normaliser.identity first.assigned type).map Ty.erase =
    (normalise Normaliser.identity second.assigned type).map Ty.erase

/-- Both outcomes are mismatches, or both are results and agree. -/
inductive Concordant : Except Fault Unified → Except Fault Unified → Prop
  | mismatch {fault fault' : Fault} (kind : fault.kind = .typeMismatch)
      (kind' : fault'.kind = .typeMismatch) : Concordant (.error fault) (.error fault')
  | success {first second : Unified} (agrees : first.Agrees second) :
      Concordant (.ok first) (.ok second)

theorem Concordant.exists_ok_iff {outcome outcome' : Except Fault Unified}
    (concordant : Concordant outcome outcome') :
    (∃ unified, outcome = .ok unified) ↔ ∃ unified, outcome' = .ok unified := by
  cases concordant with
  | mismatch =>
      constructor
      · rintro ⟨_, failed⟩
        cases failed
      · rintro ⟨_, failed⟩
        cases failed
  | success => exact ⟨fun _ => ⟨_, rfl⟩, fun _ => ⟨_, rfl⟩⟩

theorem Concordant.agrees {first second : Unified} {outcome outcome' : Except Fault Unified}
    (concordant : Concordant outcome outcome') (succeeded : outcome = .ok first)
    (succeeded' : outcome' = .ok second) : first.Agrees second := by
  rw [succeeded, succeeded'] at concordant
  cases concordant with
  | success agrees => exact agrees

/-- The outcome is not that the fuel was used up. -/
def Conclusive (outcome : Except Fault Unified) : Prop :=
  ∀ fault, outcome = .error fault → fault.kind ≠ .nonTermination

theorem conclusive_ok (unified : Unified) : Conclusive (.ok unified) := by
  intro fault failed
  cases failed

theorem Conclusive.bind {outcome : Except Fault Unified}
    {next : Unified → Except Fault Unified} (conclusive : Conclusive outcome)
    (onward : ∀ middle, outcome = .ok middle → Conclusive (next middle)) :
    Conclusive (outcome >>= next) := by
  cases outcome with
  | ok middle => exact onward middle rfl
  | error fault => exact conclusive

section Solutions

variable {related : Coeffect → Coeffect → Prop} {image : String → Ty}

private theorem Substitution.respectedBy_resolved_iff {assigned : Substitution}
    (acyclic : assigned.Acyclic) (equivalent : Equivalence related) :
    assigned.resolved.RespectedBy related image ↔ assigned.RespectedBy related image := by
  have alike := Ty.AlikeUpTo.equivalence equivalent
  constructor
  · intro respected name held found
    have assignment : Ty.AlikeUpTo related (image name) ((assigned.apply held).replace image) :=
      respected name _ (by rw [get?_resolved, found, Option.map_some])
    have applied : Ty.AlikeUpTo related (held.replace image)
        ((assigned.resolved.apply held).replace image) :=
      respected.replace_resolve equivalent _ held
    rw [apply_resolved acyclic] at applied
    exact alike.trans assignment (alike.symm applied)
  · intro respected name held found
    rw [get?_resolved] at found
    obtain ⟨original, before, rfl⟩ := Option.map_eq_some_iff.mp found
    exact alike.trans (respected name original before)
      (respected.replace_resolve equivalent _ original)

theorem equivalence_true : Equivalence fun _ _ : Coeffect => True :=
  ⟨fun _ => trivial, fun _ => trivial, fun _ _ => trivial⟩

theorem Unified.solvedBy_apply {unified : Unified} (acyclic : unified.assigned.Acyclic)
    (equivalent : Equivalence related)
    (equated : ∀ equality ∈ unified.equalities, related equality.left equality.right) :
    unified.SolvedBy related (fun name => unified.assigned.apply (.var name)) :=
  ⟨acyclic.respectedBy_apply equivalent, equated⟩

theorem Unified.solvedWith_append_iff {start : Unified} {first second : List TypeConstraint} :
    start.SolvedWith (first ++ second) related image ↔
      start.SolvedWith first related image ∧ ∀ constraint ∈ second,
        Ty.AlikeUpTo related (constraint.left.replace image) (constraint.right.replace image) := by
  constructor
  · intro solved
    have both := List.forall_mem_append.mp solved.constraints
    exact ⟨⟨solved.start, both.1⟩, both.2⟩
  · rintro ⟨solved, later⟩
    exact ⟨solved.start, List.forall_mem_append.mpr ⟨solved.constraints, later⟩⟩

end Solutions

section Settling

variable {start : Unified} {constraints : List TypeConstraint}

theorem run_of_unify_eq_error {assigned : Substitution}
    {equalities : List CoeffectConstraint} {fault : Fault}
    (failed : unify constraints assigned equalities = .error fault) :
    (Unifier.initial constraints assigned equalities).run (Unifier.budget constraints)
      (Unifier.budget constraints) = .error fault := by
  unfold unify at failed
  dsimp only at failed
  split at failed
  · rename_i ran
    cases failed
    exact ran
  · cases failed

private theorem kind_of_run {budget fuel : Nat} {state : Unifier.State} {fault : Fault}
    (ran : state.run budget fuel = .error fault) :
    fault.kind = .typeMismatch ∨ fault.kind = .nonTermination := by
  rcases @Unifier.State.run_failure (fun _ => True) (fun _ _ _ _ _ _ holds => holds) budget fuel
    state fault trivial ran with exhausted | ⟨last, pending, rest, _, _, failed⟩
  · exact .inr (by rw [exhausted]; rfl)
  · have outcome := Unifier.State.step_outcome { last with work := ⟨rest⟩ } pending
    rw [failed] at outcome
    cases outcome with
    | occurs => exact .inl rfl
    | clash => exact .inl rfl

private theorem solutions_of_unify {unified : Unified} (acyclic : start.assigned.Acyclic)
    (succeeded : unify constraints start.assigned start.equalities = .ok unified)
    (related : Coeffect → Coeffect → Prop) (equivalent : Equivalence related)
    (image : String → Ty) :
    unified.SolvedBy related image ↔ start.SolvedWith constraints related image := by
  obtain ⟨final, ran, resolved, collected⟩ := run_of_unify_eq_ok succeeded
  obtain ⟨finished, found, reduces⟩ := Unifier.State.reduces_of_run ran
  have finalAcyclic : final.assigned.Acyclic := Unifier.State.acyclic_of_run acyclic ran
  have respected : unified.assigned.RespectedBy related image ↔
      final.assigned.RespectedBy related image := by
    rw [resolved]
    exact Substitution.respectedBy_resolved_iff finalAcyclic equivalent
  have recorded : unified.equalities = start.equalities ++ found := by
    rw [collected, reduces.recorded]
    rfl
  have solutions := reduces.solutions related equivalent image
  rw [Unifier.initial_solvedBy_iff] at solutions
  constructor
  · intro solved
    have equated := solved.equalities
    rw [recorded, List.forall_mem_append] at equated
    have finalSolved : final.SolvedBy related image :=
      ⟨respected.mp solved.assigned, by rw [finished]; exact fun _ member => by cases member⟩
    obtain ⟨before, unifies⟩ := solutions.mp ⟨finalSolved, equated.2⟩
    exact ⟨⟨before, equated.1⟩, unifies⟩
  · intro solved
    obtain ⟨finalSolved, equated⟩ := solutions.mpr ⟨solved.start.assigned, solved.constraints⟩
    refine ⟨respected.mpr finalSolved.assigned, ?_⟩
    rw [recorded, List.forall_mem_append]
    exact ⟨solved.start.equalities, equated⟩

theorem unify_settles (acyclic : start.assigned.Acyclic) (constraints : List TypeConstraint) :
    Settles start constraints (unify constraints start.assigned start.equalities) := by
  cases outcome : unify constraints start.assigned start.equalities with
  | ok unified =>
      obtain ⟨final, ran, resolved, _⟩ := run_of_unify_eq_ok outcome
      refine .success ?_ (solutions_of_unify acyclic outcome)
      rw [resolved]
      exact (Unifier.State.acyclic_of_run acyclic ran).resolved
  | error fault =>
      have ran := run_of_unify_eq_error outcome
      rcases kind_of_run ran with mismatch | exhausted
      · refine .mismatch mismatch fun related equivalent image solved => ?_
        have initial : (Unifier.initial constraints start.assigned start.equalities).SolvedBy
            related image :=
          Unifier.initial_solvedBy_iff.mpr ⟨solved.start.assigned, solved.constraints⟩
        rw [Unifier.State.run_error_of_solvedBy equivalent initial ran] at mismatch
        cases mismatch
      · exact .exhausted exhausted

theorem Settles.acyclic {outcome : Except Fault Unified} {unified : Unified}
    (settled : Settles start constraints outcome) (succeeded : outcome = .ok unified) :
    unified.assigned.Acyclic := by
  rw [succeeded] at settled
  cases settled with
  | success acyclic _ => exact acyclic

theorem Settles.of_solutions {start' : Unified} {constraints' : List TypeConstraint}
    {outcome : Except Fault Unified} (settled : Settles start constraints outcome)
    (same : ∀ related, Equivalence related → ∀ image,
      start.SolvedWith constraints related image ↔ start'.SolvedWith constraints' related image) :
    Settles start' constraints' outcome := by
  cases settled with
  | success acyclic solutions =>
      refine .success acyclic fun related equivalent image => ?_
      rw [solutions related equivalent image, same related equivalent image]
  | mismatch kind unsolvable =>
      refine .mismatch kind fun related equivalent image => ?_
      rw [← same related equivalent image]
      exact unsolvable related equivalent image
  | exhausted kind => exact .exhausted kind

theorem Settles.of_perm {reordered : List TypeConstraint} {outcome : Except Fault Unified}
    (settled : Settles start constraints outcome) (same : constraints.Perm reordered) :
    Settles start reordered outcome := by
  refine settled.of_solutions fun related _ image => ?_
  exact ⟨fun solved => ⟨solved.start, fun constraint member =>
      solved.constraints constraint (same.mem_iff.mpr member)⟩,
    fun solved => ⟨solved.start, fun constraint member =>
      solved.constraints constraint (same.mem_iff.mp member)⟩⟩

end Settling

section Agreement

variable {first second : Unified}

private theorem equatedBy_of_solvedBy {related : Coeffect → Coeffect → Prop} {image : String → Ty}
    (equivalent : Equivalence related) (solved : first.SolvedBy related image)
    {left right : Coeffect} (equated : Coeffect.EquatedBy first.equalities left right) :
    related left right := by
  have included : (fun left right => { left, right } ∈ first.equalities) ≤ related :=
    fun left right member => solved.equalities { left, right } member
  exact equivalent.eqvGen_iff.mp (Relation.EqvGen.mono included left right equated)

/-- A type under a substitution is, annotations apart, an instance of what it is under another one
that has no fewer solutions. -/
private theorem erase_apply_eq_replace (acyclic : second.assigned.Acyclic)
    (solved : first.SolvedBy (fun _ _ => True) fun name => second.assigned.apply (.var name))
    (type : Ty) :
    (first.assigned.apply type).erase.replace
        (fun name => (second.assigned.apply (.var name)).erase) =
      (second.assigned.apply type).erase := by
  have alike := solved.assigned.replace_resolve equivalence_true first.assigned.size type
  rw [← Substitution.apply_eq_replace_apply_var acyclic] at alike
  rw [alike.erase_eq, Ty.erase_replace]
  rfl

/-- Results with the same solutions agree. -/
theorem Unified.agrees_of_solutions (acyclic : first.assigned.Acyclic)
    (acyclic' : second.assigned.Acyclic)
    (same : ∀ related, Equivalence related → ∀ image,
      first.SolvedBy related image ↔ second.SolvedBy related image) : first.Agrees second := by
  constructor
  · -- Each result is a solution of itself modulo its own equalities, and so one of the other.
    funext left right
    have equivalent := Coeffect.equatedBy_equivalence first.equalities
    have equivalent' := Coeffect.equatedBy_equivalence second.equalities
    have solved := solvedBy_apply acyclic equivalent fun _ => Coeffect.equatedBy_of_mem
    have solved' := solvedBy_apply acyclic' equivalent' fun _ => Coeffect.equatedBy_of_mem
    exact propext ⟨equatedBy_of_solvedBy equivalent' ((same _ equivalent' _).mpr solved'),
      equatedBy_of_solvedBy equivalent ((same _ equivalent _).mp solved)⟩
  · intro type
    have solved := solvedBy_apply acyclic equivalence_true fun _ _ => trivial
    have solved' := solvedBy_apply acyclic' equivalence_true fun _ _ => trivial
    have there := erase_apply_eq_replace acyclic' ((same _ equivalence_true _).mpr solved') type
    have back := erase_apply_eq_replace acyclic ((same _ equivalence_true _).mp solved) type
    obtain ⟨canonical, gapless⟩ := Ty.canonical_eq_of_instances there back
    rw [Ty.gapless_erase, Ty.gapless_erase] at gapless
    rw [← Ty.erase_canonical, ← Ty.erase_canonical] at canonical
    rw [normalise_identity acyclic, normalise_identity acyclic', gapless]
    cases (second.assigned.apply type).gapless with
    | false => rfl
    | true => exact congrArg Except.ok canonical

private theorem solvedWith_of_success {start unified : Unified} {constraints : List TypeConstraint}
    (acyclic : unified.assigned.Acyclic)
    (solutions : ∀ related, Equivalence related → ∀ image,
      unified.SolvedBy related image ↔ start.SolvedWith constraints related image) :
    start.SolvedWith constraints (fun _ _ => True) (fun name => unified.assigned.apply (.var name)) :=
  (solutions _ equivalence_true _).mp
    (Unified.solvedBy_apply acyclic equivalence_true fun _ _ => trivial)

theorem Settles.concordant {start : Unified} {constraints : List TypeConstraint}
    {outcome outcome' : Except Fault Unified} (settled : Settles start constraints outcome)
    (settled' : Settles start constraints outcome') (conclusive : Conclusive outcome)
    (conclusive' : Conclusive outcome') : Concordant outcome outcome' := by
  cases settled with
  | exhausted kind => exact absurd kind (conclusive _ rfl)
  | success acyclic solutions =>
      cases settled' with
      | exhausted kind => exact absurd kind (conclusive' _ rfl)
      | success acyclic' solutions' =>
          refine .success (Unified.agrees_of_solutions acyclic acyclic' ?_)
          intro related equivalent image
          rw [solutions related equivalent image, solutions' related equivalent image]
      | mismatch _ unsolvable =>
          exact absurd (solvedWith_of_success acyclic solutions) (unsolvable _ equivalence_true _)
  | mismatch kind unsolvable =>
      cases settled' with
      | exhausted kind' => exact absurd kind' (conclusive' _ rfl)
      | success acyclic solutions =>
          exact absurd (solvedWith_of_success acyclic solutions) (unsolvable _ equivalence_true _)
      | mismatch kind' _ => exact .mismatch kind kind'

end Agreement

/-- The order of the constraints makes no difference, as long as the fuel lasts. Where every type is
given, normal forms exist. -/
theorem unify_concordant_of_perm {constraints reordered : List TypeConstraint}
    (same : constraints.Perm reordered) {assigned : Substitution} (acyclic : assigned.Acyclic)
    {equalities : List CoeffectConstraint}
    (conclusive : Conclusive (unify constraints assigned equalities))
    (conclusive' : Conclusive (unify reordered assigned equalities)) :
    Concordant (unify constraints assigned equalities) (unify reordered assigned equalities) ∧
      ((∀ constraint ∈ constraints, constraint.gapless = true) → assigned.Gapless →
        ∀ unified, unify constraints assigned equalities = .ok unified →
          ∀ type, type.gapless = true →
            ∃ normal, normalise Normaliser.identity unified.assigned type = .ok normal) := by
  let start : Unified := ⟨assigned, equalities⟩
  have settled : Settles start constraints (unify constraints assigned equalities) :=
    unify_settles acyclic constraints
  have settled' : Settles start reordered (unify reordered assigned equalities) :=
    unify_settles acyclic reordered
  refine ⟨settled.concordant (settled'.of_perm same.symm) conclusive conclusive', ?_⟩
  intro given gapless unified succeeded type present
  exact exists_normal (settled.acyclic succeeded) (gapless_of_unify given gapless succeeded) present

theorem unify_concordant_of_perm_of_boxes :
    let constraints : List TypeConstraint := [⟨.var "x", .var "y"⟩, ⟨.var "x", .var "z"⟩,
      ⟨.var "v", .comonad .use (.var "x")⟩, ⟨.var "v", .comonad .ignore (.var "w")⟩]
    let reordered : List TypeConstraint := [⟨.var "v", .comonad .ignore (.var "w")⟩,
      ⟨.var "x", .var "z"⟩, ⟨.var "v", .comonad .use (.var "x")⟩, ⟨.var "x", .var "y"⟩]
    let assigned := NameMap.empty.insert "u" (.tuple [.var "v"])
    ∃ first second, unify constraints assigned [] = .ok first ∧
      unify reordered assigned [] = .ok second ∧
      first.equalities = [⟨.ignore, .use⟩] ∧ second.equalities = [⟨.use, .ignore⟩] ∧
      first.assigned.get? "v" = some (.comonad .use (.var "y")) ∧
      second.assigned.get? "v" = some (.comonad .ignore (.var "z")) ∧
      first.Agrees second ∧ ∃ normal,
        normalise Normaliser.identity first.assigned (.tuple [.var "u", .var "w"]) = .ok normal := by
  intro constraints reordered assigned
  have succeeded : unify constraints assigned [] =
      .ok ⟨NameMap.ofList [("u", .tuple [.comonad .use (.var "y")]), ("v", .comonad .use (.var "y")),
          ("w", .var "y"), ("x", .var "y"), ("z", .var "y")], [⟨.ignore, .use⟩]⟩ := by
    decide +kernel
  have succeeded' : unify reordered assigned [] =
      .ok ⟨NameMap.ofList [("u", .tuple [.comonad .ignore (.var "z")]),
          ("v", .comonad .ignore (.var "z")), ("w", .var "z"), ("x", .var "z"), ("y", .var "z")],
        [⟨.use, .ignore⟩]⟩ := by
    decide +kernel
  have acyclic : Substitution.Acyclic assigned :=
    Substitution.acyclic_empty.insert (by decide +kernel)
  have gapless : Substitution.Gapless assigned := Substitution.gapless_empty.insert rfl
  have same : constraints.Perm reordered := by decide +kernel
  have conclusive : Conclusive (unify constraints assigned []) := by
    rw [succeeded]
    exact conclusive_ok _
  have conclusive' : Conclusive (unify reordered assigned []) := by
    rw [succeeded']
    exact conclusive_ok _
  obtain ⟨concordant, exist⟩ := unify_concordant_of_perm same acyclic conclusive conclusive'
  refine ⟨_, _, succeeded, succeeded', rfl, rfl, by decide +kernel, by decide +kernel, ?_,
    exist (by decide +kernel) gapless _ succeeded _ rfl⟩
  exact concordant.agrees succeeded succeeded'

/-- Unifies batches of constraints one after the other, each on top of what was found before. -/
def unifyInTurn (start : Unified) : List (List TypeConstraint) → Except Fault Unified
  | [] => .ok start
  | batch :: rest => do
      let found ← unify batch start.assigned start.equalities
      unifyInTurn found rest

theorem unifyInTurn_settles {start : Unified} (acyclic : start.assigned.Acyclic)
    (batches : List (List TypeConstraint)) :
    Settles start batches.flatten (unifyInTurn start batches) := by
  induction batches generalizing start with
  | nil =>
      refine .success acyclic fun related _ image => ?_
      exact ⟨fun solved => ⟨solved, fun _ member => by cases member⟩, fun solved => solved.start⟩
  | cons batch rest ih =>
      have settled := unify_settles acyclic batch
      rw [List.flatten_cons, unifyInTurn]
      cases outcome : unify batch start.assigned start.equalities with
      | ok middle =>
          rw [outcome] at settled
          cases settled with
          | success middleAcyclic solutions =>
              refine (ih middleAcyclic).of_solutions fun related equivalent image => ?_
              rw [Unified.solvedWith_append_iff, ← solutions related equivalent image]
              exact ⟨fun solved => ⟨solved.start, solved.constraints⟩, fun both => ⟨both.1, both.2⟩⟩
      | error fault =>
          rw [outcome] at settled
          cases settled with
          | mismatch kind unsolvable =>
              refine .mismatch kind fun related equivalent image solved => ?_
              exact unsolvable related equivalent image (Unified.solvedWith_append_iff.mp solved).1
          | exhausted kind => exact .exhausted kind

private theorem gapless_of_unifyInTurn {start last : Unified} {batches : List (List TypeConstraint)}
    (given : ∀ constraint ∈ batches.flatten, constraint.gapless = true)
    (gapless : start.assigned.Gapless) (succeeded : unifyInTurn start batches = .ok last) :
    last.assigned.Gapless := by
  induction batches generalizing start with
  | nil =>
      cases succeeded
      exact gapless
  | cons batch rest ih =>
      rw [List.flatten_cons, List.forall_mem_append] at given
      rw [unifyInTurn, Iteration.bind_eq_ok_iff] at succeeded
      obtain ⟨middle, before, after⟩ := succeeded
      exact ih given.2 (gapless_of_unify given.1 gapless before) after

private theorem unifyInTurn_pair_eq_ok_iff {start last : Unified}
    {first second : List TypeConstraint} :
    unifyInTurn start [first, second] = .ok last ↔
      ∃ middle, unify first start.assigned start.equalities = .ok middle ∧
        unify second middle.assigned middle.equalities = .ok last := by
  rw [unifyInTurn, Iteration.bind_eq_ok_iff]
  refine exists_congr fun middle => and_congr_right fun _ => ?_
  rw [unifyInTurn, Iteration.bind_eq_ok_iff]
  constructor
  · rintro ⟨_, succeeded, same⟩
    cases same
    exact succeeded
  · intro succeeded
    exact ⟨last, succeeded, rfl⟩

private theorem conclusive_pair {start : Unified} {first second : List TypeConstraint}
    (conclusive : Conclusive (unify first start.assigned start.equalities))
    (onward : ∀ middle, unify first start.assigned start.equalities = .ok middle →
      Conclusive (unify second middle.assigned middle.equalities)) :
    Conclusive (unifyInTurn start [first, second]) := by
  rw [unifyInTurn]
  refine conclusive.bind fun middle before => ?_
  rw [unifyInTurn]
  exact (onward middle before).bind fun last _ => conclusive_ok last

theorem concordant_of_batches {start : Unified} (acyclic : start.assigned.Acyclic)
    {batches : List (List TypeConstraint)}
    (conclusive : Conclusive (unify batches.flatten start.assigned start.equalities))
    (conclusive' : Conclusive (unifyInTurn start batches)) :
    Concordant (unify batches.flatten start.assigned start.equalities)
      (unifyInTurn start batches) :=
  (unify_settles acyclic batches.flatten).concordant (unifyInTurn_settles acyclic batches)
    conclusive conclusive'

/-- Unifying two lists of constraints one after the other agrees with unifying them at once, and so
does unifying any division of a list into batches, as long as the fuel lasts. Where every type is
given, normal forms exist. -/
theorem unify_incremental {assigned : Substitution} (acyclic : assigned.Acyclic)
    (equalities : List CoeffectConstraint) :
    (∀ first second : List TypeConstraint,
      Conclusive (unify (first ++ second) assigned equalities) →
      Conclusive (unify first assigned equalities) →
      (∀ middle, unify first assigned equalities = .ok middle →
        Conclusive (unify second middle.assigned middle.equalities)) →
      ((∃ whole, unify (first ++ second) assigned equalities = .ok whole) ↔
        ∃ middle last, unify first assigned equalities = .ok middle ∧
          unify second middle.assigned middle.equalities = .ok last) ∧
      ∀ whole middle last, unify (first ++ second) assigned equalities = .ok whole →
        unify first assigned equalities = .ok middle →
        unify second middle.assigned middle.equalities = .ok last → whole.Agrees last) ∧
    ∀ batches : List (List TypeConstraint),
      (Conclusive (unify batches.flatten assigned equalities) →
        Conclusive (unifyInTurn ⟨assigned, equalities⟩ batches) →
        Concordant (unify batches.flatten assigned equalities)
          (unifyInTurn ⟨assigned, equalities⟩ batches)) ∧
      ((∀ constraint ∈ batches.flatten, constraint.gapless = true) → assigned.Gapless →
        ∀ last, unifyInTurn ⟨assigned, equalities⟩ batches = .ok last →
          ∀ type, type.gapless = true →
            ∃ normal, normalise Normaliser.identity last.assigned type = .ok normal) := by
  let start : Unified := ⟨assigned, equalities⟩
  have startAcyclic : start.assigned.Acyclic := acyclic
  constructor
  · intro first second conclusive conclusiveFirst conclusiveSecond
    have joined : [first, second].flatten = first ++ second := by
      rw [List.flatten_cons, List.flatten_cons, List.flatten_nil, List.append_nil]
    rw [← joined] at conclusive ⊢
    have concordant := concordant_of_batches startAcyclic conclusive
      (conclusive_pair conclusiveFirst conclusiveSecond)
    constructor
    · rw [concordant.exists_ok_iff, exists_comm]
      exact exists_congr fun last => unifyInTurn_pair_eq_ok_iff
    · intro whole middle last succeeded before after
      exact concordant.agrees succeeded (unifyInTurn_pair_eq_ok_iff.mpr ⟨middle, before, after⟩)
  · intro batches
    refine ⟨concordant_of_batches startAcyclic, ?_⟩
    intro given gapless last succeeded type present
    exact exists_normal ((unifyInTurn_settles startAcyclic batches).acyclic succeeded)
      (gapless_of_unifyInTurn given gapless succeeded) present

theorem unify_incremental_of_boxes :
    let first : List TypeConstraint := [⟨.var "a", .var "b"⟩,
      ⟨.var "b", .comonad .use (.var "c")⟩, ⟨.var "d", .comonad .ignore (.var "e")⟩]
    let second : List TypeConstraint := [⟨.var "a", .var "d"⟩]
    let assigned := NameMap.empty.insert "u" (.tuple [.var "a"])
    ∃ whole middle last, unify (first ++ second) assigned [⟨.var "r", .use⟩] = .ok whole ∧
      unify first assigned [⟨.var "r", .use⟩] = .ok middle ∧
      unify second middle.assigned middle.equalities = .ok last ∧
      whole.equalities = [⟨.var "r", .use⟩, ⟨.ignore, .use⟩] ∧
      last.equalities = [⟨.var "r", .use⟩, ⟨.use, .ignore⟩] ∧
      whole.assigned.get? "u" = some (.tuple [.comonad .use (.var "c")]) ∧
      last.assigned.get? "u" = some (.tuple [.comonad .use (.var "e")]) ∧
      whole.Agrees last ∧ ∃ normal,
        normalise Normaliser.identity whole.assigned (.tuple [.var "u", .var "e"]) = .ok normal := by
  intro first second assigned
  have atOnce : unify (first ++ second) assigned [⟨.var "r", .use⟩] =
      .ok ⟨NameMap.ofList [("a", .comonad .use (.var "c")), ("b", .comonad .use (.var "c")),
          ("d", .comonad .ignore (.var "c")), ("e", .var "c"),
          ("u", .tuple [.comonad .use (.var "c")])],
        [⟨.var "r", .use⟩, ⟨.ignore, .use⟩]⟩ := by
    decide +kernel
  have before : unify first assigned [⟨.var "r", .use⟩] =
      .ok ⟨NameMap.ofList [("a", .comonad .use (.var "c")), ("b", .comonad .use (.var "c")),
          ("d", .comonad .ignore (.var "e")), ("u", .tuple [.comonad .use (.var "c")])],
        [⟨.var "r", .use⟩]⟩ := by
    decide +kernel
  have after : unify second (NameMap.ofList [("a", .comonad .use (.var "c")),
        ("b", .comonad .use (.var "c")), ("d", .comonad .ignore (.var "e")),
        ("u", .tuple [.comonad .use (.var "c")])]) [⟨.var "r", .use⟩] =
      .ok ⟨NameMap.ofList [("a", .comonad .use (.var "e")), ("b", .comonad .use (.var "e")),
          ("c", .var "e"), ("d", .comonad .ignore (.var "e")),
          ("u", .tuple [.comonad .use (.var "e")])],
        [⟨.var "r", .use⟩, ⟨.use, .ignore⟩]⟩ := by
    decide +kernel
  have acyclic : Substitution.Acyclic assigned :=
    Substitution.acyclic_empty.insert (by decide +kernel)
  have gapless : Substitution.Gapless assigned := Substitution.gapless_empty.insert rfl
  obtain ⟨pairs, batches⟩ := unify_incremental acyclic [⟨.var "r", .use⟩]
  obtain ⟨_, agree⟩ := pairs first second (by rw [atOnce]; exact conclusive_ok _)
    (by rw [before]; exact conclusive_ok _) (fun middle reached => by
      rw [before] at reached
      cases reached
      rw [after]
      exact conclusive_ok _)
  have whole : unifyInTurn ⟨assigned, [⟨.var "r", .use⟩]⟩ [first ++ second] = .ok _ :=
    Iteration.bind_eq_ok_iff.mpr ⟨_, atOnce, rfl⟩
  refine ⟨_, _, _, atOnce, before, after, rfl, rfl, by decide +kernel, by decide +kernel,
    agree _ _ _ atOnce before after, ?_⟩
  exact (batches [first ++ second]).2 (by decide +kernel) gapless _ whole _ rfl

end CoeffectSolver
