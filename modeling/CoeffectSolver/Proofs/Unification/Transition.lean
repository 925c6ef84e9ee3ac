import CoeffectSolver.Proofs.Term.Likeness
import CoeffectSolver.Proofs.Unification.Acyclicity
import CoeffectSolver.Unification.Unifier

/-! What one step of unification can do, and induction along a whole run: failures, acyclicity, and
properties that types hand on to their parts. -/

namespace CoeffectSolver.Unifier

theorem State.items_schedule (state : State) (pairs : List Pending) :
    (state.schedule pairs).work.items = pairs ++ state.work.items :=
  Worklist.items_schedule _ _

theorem State.toList_record (state : State) (left right : Coeffect) :
    (state.record left right).equalities.toList =
      state.equalities.toList ++ [⟨left, right⟩] :=
  Array.toList_push

/-- The possible results of handling a pair. -/
inductive State.Outcome (state : State) (pending : Pending) : Except Fault State → Prop
  | followLeft {name : String} {held : Ty} (side : pending.left = .var name)
      (found : state.assigned.get? name = some held) :
      Outcome state pending (.ok (state.schedule [pending.successor pending.right held]))
  | followRight {name : String} {held : Ty} (side : pending.right = .var name)
      (found : state.assigned.get? name = some held) :
      Outcome state pending (.ok (state.schedule [pending.successor pending.left held]))
  | drop (same : pending.left = pending.right) : Outcome state pending (.ok state)
  | bind {name : String} {type : Ty}
      (sides : pending.left = .var name ∧ pending.right = type ∨
        pending.left = type ∧ pending.right = .var name)
      (unassigned : state.assigned.get? name = none)
      (absent : state.assigned.occursIn name type = false) :
      Outcome state pending (.ok { state with assigned := state.assigned.insert name type })
  | arrow {declaration call declaration' call' : Coeffect}
      {argument result argument' result' : Ty}
      (left : pending.left = .arrow declaration call argument result)
      (right : pending.right = .arrow declaration' call' argument' result') :
      Outcome state pending
        (.ok (((state.record declaration declaration').record call call').schedule
          [pending.successor argument argument', pending.successor result result']))
  | tuple {elements elements' : List Ty} (left : pending.left = .tuple elements)
      (right : pending.right = .tuple elements') (lengths : elements.length = elements'.length) :
      Outcome state pending
        (.ok (state.schedule (List.zipWith pending.successor elements elements')))
  | comonad {requirement requirement' : Coeffect} {inner inner' : Ty}
      (left : pending.left = .comonad requirement inner)
      (right : pending.right = .comonad requirement' inner') :
      Outcome state pending
        (.ok ((state.record requirement requirement').schedule [pending.successor inner inner']))
  | occurs {name : String} {type : Ty}
      (sides : pending.left = .var name ∧ pending.right = type ∨
        pending.left = type ∧ pending.right = .var name)
      (structured : ∀ other, type ≠ .var other)
      (met : state.assigned.occursIn name type = true) :
      Outcome state pending (.error (pending.mismatch [.occurs name type]))
  | clash (apart : ∀ related image, ¬ Ty.AlikeUpTo related (pending.left.replace image)
        (pending.right.replace image)) :
      Outcome state pending (.error (pending.mismatch []))

private theorem State.assignment?_eq_some {state : State} {type held : Ty}
    (found : state.assignment? type = some held) :
    ∃ name, type = .var name ∧ state.assigned.get? name = some held := by
  cases type with
  | var name => exact ⟨name, rfl, found⟩
  | _ => cases found

theorem occursIn_var_eq_false {assigned : Substitution} {name other : String}
    (unassigned : assigned.get? other = none) (different : other ≠ name) :
    assigned.occursIn name (.var other) = false := by
  unfold Substitution.occursIn
  cases assigned.size with
  | zero => simp [Substitution.meets, different]
  | succ hops => simp [Substitution.meets, different, unassigned]

private theorem State.bind_outcome {state : State} {pending : Pending} {name : String} {type : Ty}
    (sides : pending.left = .var name ∧ pending.right = type ∨
      pending.left = type ∧ pending.right = .var name)
    (unassigned : state.assigned.get? name = none) (structured : ∀ other, type ≠ .var other) :
    state.Outcome pending (state.bind pending name type) := by
  unfold State.bind
  split
  · rename_i met
    exact .occurs sides structured met
  · rename_i absent
    exact .bind sides unassigned (Bool.eq_false_iff.mpr absent)

private theorem State.decompose_outcome {state : State} {pending : Pending}
    (leftStructured : ∀ name, pending.left ≠ .var name)
    (rightStructured : ∀ name, pending.right ≠ .var name) :
    state.Outcome pending (state.decompose pending) := by
  unfold State.decompose
  split
  · rename_i same
    exact .drop (Ty.equal_iff_eq.mp same)
  · rename_i different
    have different : pending.left ≠ pending.right := fun same =>
      different (Ty.equal_iff_eq.mpr same)
    split
    · rename_i left right
      exact .arrow left right
    · rename_i left right
      split
      · rename_i lengths
        exact .tuple left right lengths
      · rename_i lengths
        refine .clash fun related image alike => lengths ?_
        rw [left, right, Ty.replace_tuple, Ty.replace_tuple, Ty.AlikeUpTo.tuple_iff] at alike
        simpa only [List.length_map] using alike.length_eq
    · rename_i left right
      exact .comonad left right
    · rename_i notArrows notTuples notComonads
      refine .clash fun related image alike => ?_
      -- Replacing variables keeps the outermost constructor of everything but a variable.
      cases left : pending.left <;> cases right : pending.right <;> grind [Ty.AlikeUpTo]

theorem State.step_outcome (state : State) (pending : Pending) :
    state.Outcome pending (state.step pending) := by
  unfold State.step
  cases leftFound : state.assignment? pending.left with
  | some held =>
      obtain ⟨name, side, found⟩ := State.assignment?_eq_some leftFound
      exact .followLeft side found
  | none =>
      cases rightFound : state.assignment? pending.right with
      | some held =>
          obtain ⟨name, side, found⟩ := State.assignment?_eq_some rightFound
          exact .followRight side found
      | none =>
          dsimp only
          split
          · rename_i name name' left right
            rw [left] at leftFound
            rw [right] at rightFound
            split
            · rename_i same
              exact .drop (by rw [left, right, same])
            · rename_i different
              unfold State.bind
              rw [occursIn_var_eq_false rightFound (Ne.symm different), if_neg Bool.false_ne_true]
              exact .bind (.inl ⟨left, right⟩) leftFound
                (occursIn_var_eq_false rightFound (Ne.symm different))
          · rename_i name left structured
            rw [left] at leftFound
            exact State.bind_outcome (.inl ⟨left, rfl⟩) leftFound structured
          · rename_i name right structured
            rw [right] at rightFound
            exact State.bind_outcome (.inr ⟨rfl, right⟩) rightFound structured
          · rename_i leftStructured rightStructured _
            exact State.decompose_outcome leftStructured rightStructured

theorem State.run_of_done {budget fuel : Nat} {state : State} (done : state.work.items = []) :
    state.run budget fuel = .ok state := by
  cases fuel with
  | zero => simp only [State.run, Worklist.pop?, done]
  | succ fuel => simp only [State.run, Worklist.pop?, done]

theorem State.run_succ {budget fuel : Nat} {state : State} {pending : Pending}
    {rest : List Pending} (items : state.work.items = pending :: rest) :
    state.run budget (fuel + 1) =
      (State.step { state with work := ⟨rest⟩ } pending).bind (State.run budget fuel) := by
  simp only [State.run, Worklist.pop?, items]
  cases State.step { state with work := ⟨rest⟩ } pending with
  | error fault => rfl
  | ok next => rfl

/-- Induction along a run that ends well, from its final state backwards. -/
theorem State.run_induction {motive : State → Prop} {final : State}
    (done : final.work.items = [] → motive final)
    (step : ∀ state pending rest next, state.work.items = pending :: rest →
      State.step { state with work := ⟨rest⟩ } pending = .ok next → motive next → motive state)
    {budget fuel : Nat} {state : State} (ran : state.run budget fuel = .ok final) :
    motive state := by
  induction fuel generalizing state with
  | zero =>
      unfold State.run Worklist.pop? at ran
      cases items : state.work.items with
      | nil =>
          rw [items] at ran
          cases ran
          exact done items
      | cons pending rest => rw [items] at ran; cases ran
  | succ fuel ih =>
      unfold State.run Worklist.pop? at ran
      cases items : state.work.items with
      | nil =>
          rw [items] at ran
          cases ran
          exact done items
      | cons pending rest =>
          rw [items] at ran
          dsimp only at ran
          cases handled : State.step { state with work := ⟨rest⟩ } pending with
          | error fault => rw [handled] at ran; cases ran
          | ok next =>
              rw [handled] at ran
              exact step state pending rest next items handled (ih ran)

/-- A failed run has used up its fuel or has met a pair that a step fails on; a property that holds
at the start and is kept by steps holds there. -/
theorem State.run_failure {invariant : State → Prop}
    (kept : ∀ state pending rest next, state.work.items = pending :: rest →
      State.step { state with work := ⟨rest⟩ } pending = .ok next → invariant state →
      invariant next)
    {budget fuel : Nat} {state : State} {fault : Fault} (holds : invariant state)
    (ran : state.run budget fuel = .error fault) :
    fault = .nonTermination "type unification" budget ∨
      ∃ last pending rest, invariant last ∧ last.work.items = pending :: rest ∧
        State.step { last with work := ⟨rest⟩ } pending = .error fault := by
  induction fuel generalizing state with
  | zero =>
      unfold State.run at ran
      split at ran
      · cases ran
      · cases ran
        exact .inl rfl
  | succ fuel ih =>
      unfold State.run Worklist.pop? at ran
      cases items : state.work.items with
      | nil => rw [items] at ran; cases ran
      | cons pending rest =>
          rw [items] at ran
          dsimp only at ran
          cases handled : State.step { state with work := ⟨rest⟩ } pending with
          | error reported =>
              rw [handled] at ran
              cases ran
              exact .inr ⟨state, pending, rest, holds, items, handled⟩
          | ok next =>
              rw [handled] at ran
              exact ih (kept state pending rest next items handled holds) ran

theorem State.acyclic_of_step {state next : State} {pending : Pending}
    (acyclic : state.assigned.Acyclic) (handled : state.step pending = .ok next) :
    next.assigned.Acyclic := by
  have outcome := state.step_outcome pending
  rw [handled] at outcome
  cases outcome with
  | bind _ _ absent => exact acyclic.insert absent
  | _ => exact acyclic

/-- Handling the next pair leads from one state to another. -/
def State.Advances (state next : State) : Prop :=
  ∃ pending rest, state.work.items = pending :: rest ∧
    State.step { state with work := ⟨rest⟩ } pending = .ok next

theorem State.reaches_of_run {budget fuel : Nat} {state final : State}
    (ran : state.run budget fuel = .ok final) :
    Relation.ReflTransGen State.Advances state final := by
  apply State.run_induction
    (motive := fun state => Relation.ReflTransGen State.Advances state final) _ _ ran
  · intro _
    exact .refl
  · intro state pending rest next items handled onward
    exact .head ⟨pending, rest, items, handled⟩ onward

theorem State.acyclic_of_reaches {state later : State} (acyclic : state.assigned.Acyclic)
    (path : Relation.ReflTransGen State.Advances state later) : later.assigned.Acyclic := by
  induction path with
  | refl => exact acyclic
  | tail _ edge ih =>
      obtain ⟨pending, rest, _, handled⟩ := edge
      apply State.acyclic_of_step _ handled
      exact ih

theorem State.acyclic_of_run {budget fuel : Nat} {state final : State}
    (acyclic : state.assigned.Acyclic) (ran : state.run budget fuel = .ok final) :
    final.assigned.Acyclic :=
  State.acyclic_of_reaches acyclic (State.reaches_of_run ran)

section Heredity

variable {types : Ty → Prop} {coeffects : Coeffect → Prop} {state next : State}

/-- A type hands a property on to its parts, and another one to its annotations. -/
structure Hereditary (types : Ty → Prop) (coeffects : Coeffect → Prop) : Prop where
  arrow : ∀ {declaration call argument result}, types (.arrow declaration call argument result) →
    (coeffects declaration ∧ coeffects call) ∧ types argument ∧ types result
  tuple : ∀ {elements}, types (.tuple elements) → ∀ element ∈ elements, types element
  comonad : ∀ {requirement inner}, types (.comonad requirement inner) →
    coeffects requirement ∧ types inner

/-- All types of a state have a property, and all recorded annotations have another one. -/
structure State.Throughout (types : Ty → Prop) (coeffects : Coeffect → Prop) (state : State) :
    Prop where
  assigned : ∀ name held, state.assigned.get? name = some held → types held
  work : ∀ pending ∈ state.work.items, types pending.left ∧ types pending.right
  equalities : ∀ equality ∈ state.equalities.toList,
    coeffects equality.left ∧ coeffects equality.right

private theorem State.Throughout.schedule {pairs : List Pending}
    (throughout : state.Throughout types coeffects)
    (each : ∀ pending ∈ pairs, types pending.left ∧ types pending.right) :
    (state.schedule pairs).Throughout types coeffects := by
  refine ⟨throughout.assigned, ?_, throughout.equalities⟩
  rw [State.items_schedule]
  exact List.forall_mem_append.mpr ⟨each, throughout.work⟩

private theorem State.Throughout.record {left right : Coeffect}
    (throughout : state.Throughout types coeffects) (onLeft : coeffects left)
    (onRight : coeffects right) : (state.record left right).Throughout types coeffects := by
  refine ⟨throughout.assigned, throughout.work, ?_⟩
  rw [State.toList_record]
  exact List.forall_mem_append.mpr ⟨throughout.equalities,
    List.forall_mem_singleton.mpr ⟨onLeft, onRight⟩⟩

variable (hereditary : Hereditary types coeffects)

include hereditary

theorem State.throughout_of_step {pending : Pending}
    (throughout : state.Throughout types coeffects)
    (sides : types pending.left ∧ types pending.right)
    (handled : state.step pending = .ok next) : next.Throughout types coeffects := by
  have outcome := state.step_outcome pending
  rw [handled] at outcome
  obtain ⟨onLeft, onRight⟩ := sides
  cases outcome with
  | followLeft side found =>
      apply throughout.schedule
      exact List.forall_mem_singleton.mpr ⟨onRight, throughout.assigned _ _ found⟩
  | followRight side found =>
      apply throughout.schedule
      exact List.forall_mem_singleton.mpr ⟨onLeft, throughout.assigned _ _ found⟩
  | drop => exact throughout
  | @bind name type sides =>
      have bound : types type := by
        rcases sides with ⟨_, right⟩ | ⟨left, _⟩
        · rw [← right]
          exact onRight
        · rw [← left]
          exact onLeft
      refine ⟨fun other held found => ?_, throughout.work, throughout.equalities⟩
      rw [NameMap.get?_insert] at found
      split at found
      · cases found
        exact bound
      · exact throughout.assigned other held found
  | arrow left right =>
      rw [left] at onLeft
      rw [right] at onRight
      obtain ⟨⟨declaration, call⟩, argument, result⟩ := hereditary.arrow onLeft
      obtain ⟨⟨declaration', call'⟩, argument', result'⟩ := hereditary.arrow onRight
      apply ((throughout.record declaration declaration').record call call').schedule
      rw [List.forall_mem_cons, List.forall_mem_singleton]
      exact ⟨⟨argument, argument'⟩, result, result'⟩
  | tuple left right =>
      rw [left] at onLeft
      rw [right] at onRight
      apply throughout.schedule
      intro part member
      rw [← List.map_uncurry_zip_eq_zipWith] at member
      obtain ⟨both, inside, rfl⟩ := List.mem_map.mp member
      obtain ⟨leftMember, rightMember⟩ := List.of_mem_zip inside
      exact ⟨hereditary.tuple onLeft _ leftMember, hereditary.tuple onRight _ rightMember⟩
  | comonad left right =>
      rw [left] at onLeft
      rw [right] at onRight
      obtain ⟨requirement, inner⟩ := hereditary.comonad onLeft
      obtain ⟨requirement', inner'⟩ := hereditary.comonad onRight
      apply (throughout.record requirement requirement').schedule
      exact List.forall_mem_singleton.mpr ⟨inner, inner'⟩

theorem State.throughout_of_advances (throughout : state.Throughout types coeffects)
    (edge : state.Advances next) : next.Throughout types coeffects := by
  obtain ⟨pending, rest, items, handled⟩ := edge
  have work := throughout.work
  rw [items, List.forall_mem_cons] at work
  apply State.throughout_of_step hereditary _ work.1 handled
  exact ⟨throughout.assigned, work.2, throughout.equalities⟩

theorem State.throughout_of_run {budget fuel : Nat} (throughout : state.Throughout types coeffects)
    (ran : state.run budget fuel = .ok next) : next.Throughout types coeffects := by
  have path := State.reaches_of_run ran
  clear ran
  induction path with
  | refl => exact throughout
  | tail _ edge ih => exact State.throughout_of_advances hereditary ih edge

end Heredity

end CoeffectSolver.Unifier
