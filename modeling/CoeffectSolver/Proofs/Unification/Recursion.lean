import CoeffectSolver.Proofs.Unification.Solutions

/-! Unification by recursion: a pair is unified, with all its parts and all that they lead to,
before the pair after it is looked at. The worklist does the same in the same order, since everything
that a pair leads to is handled before what lies below the pair in the worklist. -/

namespace CoeffectSolver

namespace Unifier

/-- What recursive unification has found so far. -/
structure Findings where
  assigned : Substitution
  equalities : List CoeffectConstraint

namespace Findings

def record (found : Findings) (left right : Coeffect) : Findings :=
  { found with equalities := found.equalities ++ [{ left, right }] }

def held? (found : Findings) : Ty → Option Ty
  | .var name => found.assigned.get? name
  | _ => none

/-- The state of the worklist algorithm with the same findings and some pairs left. -/
def withWork (found : Findings) (work : List Pending) : State :=
  { assigned := found.assigned, equalities := found.equalities.toArray, work := ⟨work⟩ }

end Findings

/-- An answer or a fault, or neither if a recursion would go deeper than it may. -/
abbrev Attempt := ExceptT Fault Option

def bindVariable (pending : Pending) (name : String) (type : Ty) (found : Findings) :
    Attempt Findings :=
  if found.assigned.occursIn name type then throw (pending.mismatch [.occurs name type])
  else pure { found with assigned := found.assigned.insert name type }

/-- Unifies a pair and everything that it leads to. -/
def unifyPair : (depth : Nat) → Pending → Findings → Attempt Findings
  | 0, _, _ => ExceptT.mk none
  | depth + 1, pending, found =>
      match found.held? pending.left, found.held? pending.right with
      | some held, _ => unifyPair depth (pending.successor pending.right held) found
      | none, some held => unifyPair depth (pending.successor pending.left held) found
      | none, none =>
          match pending.left, pending.right with
          | .var name, .var name' =>
              if name = name' then pure found else bindVariable pending name (.var name') found
          | .var name, type => bindVariable pending name type found
          | type, .var name => bindVariable pending name type found
          | left, right =>
              if left = right then pure found
              else
                match left, right with
                | .arrow declaration call argument result,
                  .arrow declaration' call' argument' result' => do
                    let found := (found.record declaration declaration').record call call'
                    let found ← unifyPair depth (pending.successor argument argument') found
                    unifyPair depth (pending.successor result result') found
                | .tuple elements, .tuple elements' =>
                    if elements.length = elements'.length then
                      (List.zipWith pending.successor elements elements').foldlM
                        (fun found part => unifyPair depth part found) found
                    else throw (pending.mismatch [])
                | .comonad requirement inner, .comonad requirement' inner' =>
                    unifyPair depth (pending.successor inner inner')
                      (found.record requirement requirement')
                | _, _ => throw (pending.mismatch [])

/-- Unifies pairs one after the other. -/
def unifyAll (depth : Nat) (batch : List Pending) (found : Findings) : Attempt Findings :=
  batch.foldlM (fun found pending => unifyPair depth pending found) found

end Unifier

/-- Unifies constraints by recursion, extending a substitution and a list of equalities. -/
def unifyRecursively (depth : Nat) (constraints : List TypeConstraint) (assigned : Substitution)
    (equalities : List CoeffectConstraint) : Unifier.Attempt Unified := do
  let found ← Unifier.unifyAll depth (constraints.map fun constraint =>
    { left := constraint.left, right := constraint.right, origin := constraint })
    { assigned, equalities }
  pure { assigned := found.assigned.resolved, equalities := found.equalities }

namespace Unifier

variable {depth deeper : Nat} {pending : Pending} {batch rest : List Pending} {found : Findings}
  {answer : Except Fault Findings}

theorem Findings.assignment?_withWork (type : Ty) :
    (found.withWork rest).assignment? type = found.held? type := by
  cases type <;> rfl

theorem Findings.schedule_withWork :
    (found.withWork rest).schedule batch = found.withWork (batch ++ rest) := by
  rw [State.schedule, Worklist.schedule, Worklist.push, List.reverse_reverse]
  rfl

theorem Findings.record_withWork (left right : Coeffect) :
    (found.withWork rest).record left right = (found.record left right).withWork rest := by
  rw [State.record, withWork, List.push_toArray]
  rfl

theorem unifyAll_cons : unifyAll depth (pending :: batch) found =
    unifyPair depth pending found >>= fun found' => unifyAll depth batch found' := by
  rw [unifyAll, List.foldlM_cons]
  rfl

theorem unifyAll_singleton : unifyAll depth [pending] found = unifyPair depth pending found := by
  rw [unifyAll_cons]
  exact bind_pure _

/-- What the rules do to a pair: they fail, or they leave pairs to unify, for the recursion as for
the worklist. -/
inductive Applies (pending : Pending) (found : Findings) : Prop
  | fails (fault : Fault)
      (recursion : ∀ depth, unifyPair (depth + 1) pending found = throw fault)
      (worklist : ∀ rest, (found.withWork rest).step pending = .error fault)
  | leaves (found' : Findings) (batch : List Pending)
      (recursion : ∀ depth, unifyPair (depth + 1) pending found = unifyAll depth batch found')
      (worklist : ∀ rest,
        (found.withWork rest).step pending = .ok (found'.withWork (batch ++ rest)))

theorem applies_of_bind {name : String} {type : Ty}
    (recursion : ∀ depth,
      unifyPair (depth + 1) pending found = bindVariable pending name type found)
    (worklist : ∀ rest, (found.withWork rest).step pending =
      (found.withWork rest).bind pending name type) : Applies pending found := by
  by_cases met : found.assigned.occursIn name type = true
  · apply Applies.fails (pending.mismatch [.occurs name type])
    · intro depth
      rw [recursion, bindVariable, if_pos met]
    · intro rest
      rw [worklist]
      exact if_pos met
  · apply Applies.leaves { found with assigned := found.assigned.insert name type } []
    · intro depth
      rw [recursion, bindVariable, if_neg met]
      rfl
    · intro rest
      rw [worklist]
      exact if_neg met

private theorem applies_of_same (leftFree : found.held? pending.left = none)
    (rightFree : found.held? pending.right = none) (same : pending.left = pending.right) :
    Applies pending found := by
  obtain ⟨left, right, origin⟩ := pending
  dsimp only at leftFree rightFree same
  subst same
  apply Applies.leaves found []
  · intro depth
    rw [unifyPair, leftFree]
    cases left <;> simp only [if_true] <;> rfl
  · intro rest
    rw [State.step, Findings.assignment?_withWork, leftFree]
    cases left <;> simp only [State.decompose, Ty.equal_iff_eq.mpr, if_true] <;> rfl

private theorem applies_of_different (leftFree : found.held? pending.left = none)
    (rightFree : found.held? pending.right = none) (different : pending.left ≠ pending.right) :
    Applies pending found := by
  -- Both sides are opened here, so that for every pair of constructors they are read off.
  have stepped (rest : List Pending) := State.step.eq_def (found.withWork rest) pending
  simp only [Findings.assignment?_withWork, leftFree, rightFree] at stepped
  have recursed (depth : Nat) := unifyPair.eq_def (depth + 1) pending found
  simp only [leftFree, rightFree] at recursed
  obtain ⟨left, right, origin⟩ := pending
  dsimp only at different stepped recursed
  have unequal : left.equal right = false := by
    rw [← Bool.not_eq_true, Ty.equal_iff_eq]
    exact different
  simp only [State.decompose, unequal, Bool.false_eq_true, if_false, Findings.record_withWork,
    Findings.schedule_withWork] at stepped
  cases left with
  | var name =>
      cases right with
      | var name' =>
          have names : name ≠ name' := fun same => different (congrArg Ty.var same)
          simp only [if_neg names] at stepped recursed
          exact applies_of_bind recursed stepped
      | _ => exact applies_of_bind recursed stepped
  | arrow declaration call argument result =>
      cases right with
      | var name => exact applies_of_bind recursed stepped
      | arrow declaration' call' argument' result' =>
          let found' := (found.record declaration declaration').record call call'
          apply Applies.leaves found' _ _ stepped
          intro depth
          rw [unifyAll_cons]
          simp only [unifyAll_singleton]
          exact (recursed depth).trans (if_neg different)
      | _ => exact .fails _ (fun depth => (recursed depth).trans (if_neg different)) stepped
  | tuple elements =>
      cases right with
      | var name => exact applies_of_bind recursed stepped
      | tuple elements' =>
          simp only [if_neg different] at recursed
          by_cases lengths : elements.length = elements'.length
          · simp only [if_pos lengths] at stepped recursed
            exact .leaves found _ recursed stepped
          · simp only [if_neg lengths] at stepped recursed
            exact .fails _ recursed stepped
      | _ => exact .fails _ (fun depth => (recursed depth).trans (if_neg different)) stepped
  | comonad requirement inner =>
      cases right with
      | var name => exact applies_of_bind recursed stepped
      | comonad requirement' inner' =>
          apply Applies.leaves (found.record requirement requirement') _ _ stepped
          intro depth
          rw [unifyAll_singleton]
          exact (recursed depth).trans (if_neg different)
      | _ => exact .fails _ (fun depth => (recursed depth).trans (if_neg different)) stepped
  | _ =>
      cases right with
      | var name => exact applies_of_bind recursed stepped
      | _ => exact .fails _ (fun depth => (recursed depth).trans (if_neg different)) stepped

theorem applies (pending : Pending) (found : Findings) : Applies pending found := by
  cases leftHeld : found.held? pending.left with
  | some held =>
      apply Applies.leaves found [pending.successor pending.right held]
      · intro depth
        rw [unifyAll_singleton, unifyPair, leftHeld]
      · intro rest
        rw [State.step, Findings.assignment?_withWork, leftHeld]
        rfl
  | none =>
      cases rightHeld : found.held? pending.right with
      | some held =>
          apply Applies.leaves found [pending.successor pending.left held]
          · intro depth
            rw [unifyAll_singleton, unifyPair, leftHeld, rightHeld]
          · intro rest
            rw [State.step, Findings.assignment?_withWork, leftHeld, Findings.assignment?_withWork,
              rightHeld]
            rfl
      | none =>
          by_cases same : pending.left = pending.right
          · exact applies_of_same leftHeld rightHeld same
          · exact applies_of_different leftHeld rightHeld same

private theorem run_bind_eq_some {α β : Type} {attempt : Attempt α} {next : α → Attempt β}
    {answer : Except Fault β} : (attempt >>= next).run = some answer ↔
      (∃ fault, attempt.run = some (.error fault) ∧ .error fault = answer) ∨
        ∃ value, attempt.run = some (.ok value) ∧ (next value).run = some answer := by
  rw [ExceptT.run_bind]
  cases attempt.run with
  | none => simp
  | some first =>
      cases first with
      | error fault => simp
      | ok value => simp

private theorem unifyAll_deeper_of_unifyPair
    (pairs : ∀ {pending found answer}, (unifyPair depth pending found).run = some answer →
      (unifyPair deeper pending found).run = some answer)
    (finished : (unifyAll depth batch found).run = some answer) :
    (unifyAll deeper batch found).run = some answer := by
  induction batch generalizing found with
  | nil => exact finished
  | cons pending batch ih =>
      rw [unifyAll_cons, run_bind_eq_some] at finished ⊢
      rcases finished with ⟨fault, failed, same⟩ | ⟨found', first, onward⟩
      · exact .inl ⟨fault, pairs failed, same⟩
      · exact .inr ⟨found', pairs first, ih onward⟩

theorem unifyPair_deeper (deep : depth ≤ deeper)
    (finished : (unifyPair depth pending found).run = some answer) :
    (unifyPair deeper pending found).run = some answer := by
  induction depth generalizing deeper pending found answer with
  | zero => cases finished
  | succ depth ih =>
      obtain ⟨deeper, rfl⟩ := Nat.exists_eq_add_one_of_ne_zero (Nat.ne_zero_of_lt deep)
      cases applies pending found with
      | fails fault recursion =>
          rw [recursion] at finished ⊢
          exact finished
      | leaves found' batch recursion =>
          rw [recursion] at finished ⊢
          exact unifyAll_deeper_of_unifyPair (ih (Nat.le_of_lt_succ deep)) finished

theorem unifyAll_deeper (deep : depth ≤ deeper)
    (finished : (unifyAll depth batch found).run = some answer) :
    (unifyAll deeper batch found).run = some answer :=
  unifyAll_deeper_of_unifyPair (unifyPair_deeper deep) finished

/-- A run handles the pairs on top as the recursion does, and what lies below them afterwards. -/
theorem run_withWork_append {budget fuel : Nat}
    (sufficient : (found.withWork (batch ++ rest)).run budget fuel ≠
      .error (.nonTermination "type unification" budget)) :
    ∃ depth answer left, left ≤ fuel ∧ (unifyAll depth batch found).run = some answer ∧
      (found.withWork (batch ++ rest)).run budget fuel =
        answer.bind fun found' => (found'.withWork rest).run budget left := by
  induction fuel using Nat.strong_induction_on generalizing batch rest found with
  | _ fuel ih =>
      cases batch with
      | nil => exact ⟨0, .ok found, fuel, le_rfl, rfl, rfl⟩
      | cons pending batch =>
          cases fuel with
          | zero => exact absurd rfl sufficient
          | succ fuel =>
              have ran : (found.withWork (pending :: batch ++ rest)).run budget (fuel + 1) =
                  ((found.withWork (batch ++ rest)).step pending).bind (State.run budget fuel) :=
                State.run_succ rfl
              rw [ran] at sufficient ⊢
              simp only [unifyAll_cons, run_bind_eq_some]
              cases applies pending found with
              | fails fault recursion worklist =>
                  rw [worklist]
                  refine ⟨1, .error fault, 0, Nat.zero_le _, .inl ⟨fault, ?_, rfl⟩, rfl⟩
                  rw [recursion]
                  rfl
              | leaves found' parts recursion worklist =>
                  rw [worklist, Except.bind] at sufficient ⊢
                  -- The parts are handled first, with all that follows the pair below them.
                  obtain ⟨depth, first, left, less, finished, onward⟩ :=
                    ih fuel (Nat.lt_succ_self fuel) sufficient
                  rw [← recursion] at finished
                  rw [onward] at sufficient ⊢
                  cases first with
                  | error fault =>
                      exact ⟨depth + 1, .error fault, 0, Nat.zero_le _, .inl ⟨fault, finished, rfl⟩,
                        rfl⟩
                  | ok found'' =>
                      rw [Except.bind] at sufficient ⊢
                      obtain ⟨depth', answer, left', less', finished', onward'⟩ :=
                        ih left (Nat.lt_succ_of_le less) sufficient
                      refine ⟨max (depth + 1) depth', answer, left', by omega,
                        .inr ⟨found'', ?_, ?_⟩, onward'⟩
                      · exact unifyPair_deeper (le_max_left _ _) finished
                      · exact unifyAll_deeper (le_max_right _ _) finished'

end Unifier

variable {constraints : List TypeConstraint} {assigned : Substitution}
  {equalities : List CoeffectConstraint}

theorem unifyRecursively_deeper {depth deeper : Nat} (deep : depth ≤ deeper)
    {outcome : Except Fault Unified}
    (finished : (unifyRecursively depth constraints assigned equalities).run = some outcome) :
    (unifyRecursively deeper constraints assigned equalities).run = some outcome := by
  unfold unifyRecursively at finished ⊢
  rw [Unifier.run_bind_eq_some] at finished ⊢
  rcases finished with ⟨fault, failed, same⟩ | ⟨found, first, onward⟩
  · exact .inl ⟨fault, Unifier.unifyAll_deeper deep failed, same⟩
  · exact .inr ⟨found, Unifier.unifyAll_deeper deep first, onward⟩

private theorem exists_unifyRecursively
    (sufficient : unify constraints assigned equalities ≠
      .error (.nonTermination "type unification" (Unifier.budget constraints))) :
    ∃ depth, (unifyRecursively depth constraints assigned equalities).run =
      some (unify constraints assigned equalities) := by
  have start : Unifier.initial constraints assigned equalities =
      Unifier.Findings.withWork { assigned, equalities } (constraints.map (fun constraint =>
        { left := constraint.left, right := constraint.right, origin := constraint }) ++ []) := by
    rw [List.append_nil]
    rfl
  have completed : (Unifier.initial constraints assigned equalities).run
      (Unifier.budget constraints) (Unifier.budget constraints) ≠
        .error (.nonTermination "type unification" (Unifier.budget constraints)) := by
    intro exhausted
    rw [unify_eq_map_run, exhausted] at sufficient
    exact sufficient rfl
  rw [start] at completed
  obtain ⟨depth, answer, left, _, finished, ran⟩ := Unifier.run_withWork_append completed
  refine ⟨depth, ?_⟩
  rw [unify_eq_map_run, start, ran, unifyRecursively, Unifier.run_bind_eq_some]
  cases answer with
  | error fault => exact .inl ⟨fault, finished, rfl⟩
  | ok found =>
      refine .inr ⟨found, finished, ?_⟩
      rw [Except.bind, Unifier.State.run_of_done rfl]
      rfl

/-- Where the budget suffices, the worklist gives what the recursion gives, the order of the
equalities and of their sides included: the recursion has no answer as long as it may not go deep
enough, and the answer of the worklist from then on. -/
theorem unifyRecursively_eq_unify
    (sufficient : unify constraints assigned equalities ≠
      .error (.nonTermination "type unification" (Unifier.budget constraints))) :
    ∃ enough, ∀ depth, (unifyRecursively depth constraints assigned equalities).run =
      if enough ≤ depth then some (unify constraints assigned equalities) else none := by
  have answered := exists_unifyRecursively sufficient
  refine ⟨Nat.find answered, fun depth => ?_⟩
  by_cases deep : Nat.find answered ≤ depth
  · rw [if_pos deep]
    exact unifyRecursively_deeper deep (Nat.find_spec answered)
  · rw [if_neg deep, Option.eq_none_iff_forall_ne_some]
    intro outcome finished
    obtain ⟨enough, found⟩ := answered
    -- An answer at this depth is the one at every larger depth, so that it is found here already.
    have early := unifyRecursively_deeper (le_max_left depth enough) finished
    have late := unifyRecursively_deeper (le_max_right depth enough) found
    apply deep
    apply Nat.find_min'
    rw [finished, ← early, late]

theorem unifyRecursively_eq_unify_of_order :
    let constraints : List TypeConstraint :=
      [⟨.tuple [.var "a", .arrow (.var "d") .use (.var "a") (.prim "Int")],
        .tuple [.comonad .use (.var "b"),
          .arrow .ignore .use (.comonad .ignore (.prim "Int")) (.var "b")]⟩]
    let unified : Unified :=
      ⟨NameMap.ofList [("a", .comonad .use (.prim "Int")), ("b", .prim "Int")],
        [⟨.var "d", .ignore⟩, ⟨.use, .use⟩, ⟨.ignore, .use⟩]⟩
    unify constraints NameMap.empty [] = .ok unified ∧
      ∃ depth, (unifyRecursively depth constraints NameMap.empty []).run = some (.ok unified) := by
  intro constraints unified
  have succeeded : unify constraints NameMap.empty [] = .ok unified := by decide +kernel
  have sufficient : unify constraints NameMap.empty [] ≠
      .error (.nonTermination "type unification" (Unifier.budget constraints)) := by
    rw [succeeded]
    exact nofun
  obtain ⟨enough, answers⟩ := unifyRecursively_eq_unify sufficient
  refine ⟨succeeded, enough, ?_⟩
  rw [answers, if_pos le_rfl, succeeded]

end CoeffectSolver
