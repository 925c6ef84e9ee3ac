import CoeffectSolver.Iteration.FixedPoint

/-! Runs of a bounded iteration and sweeps over a list of items, for functions that may fail. -/

namespace CoeffectSolver.Iteration

theorem bind_eq_ok_iff {α β ε : Type} {first : Except ε α} {second : α → Except ε β} {result : β} :
    (first >>= second) = .ok result ↔ ∃ value, first = .ok value ∧ second value = .ok result := by
  cases first with
  | error error =>
      constructor
      · intro failed
        cases failed
      · intro ⟨_, failed, _⟩
        cases failed
  | ok value =>
      constructor
      · intro succeeded
        exact ⟨value, rfl, succeeded⟩
      · intro ⟨_, same, succeeded⟩
        cases same
        exact succeeded

/-- Combining two results succeeds when there are two results. -/
theorem exists_combined_iff {α β γ ε : Type} {combine : α → β → γ} {first : Except ε α}
    {second : Except ε β} :
    (∃ result, (do
        let value ← first
        let value' ← second
        pure (combine value value')) = .ok result) ↔
      (∃ value, first = .ok value) ∧ ∃ value, second = .ok value := by
  cases first with
  | error error =>
      constructor
      · intro ⟨_, failed⟩
        cases failed
      · intro ⟨⟨_, failed⟩, _⟩
        cases failed
  | ok value =>
      cases second with
      | error error =>
          constructor
          · intro ⟨_, failed⟩
            cases failed
          · intro ⟨_, _, failed⟩
            cases failed
      | ok value' => exact ⟨fun _ => ⟨⟨value, rfl⟩, value', rfl⟩, fun _ => ⟨combine value value', rfl⟩⟩

section Runs

variable {σ ε : Type} {agree : σ → σ → Bool} {advance : σ → Except ε σ}

/-- What holds at the start and is kept by the function holds where a run stops. -/
theorem run_invariant {motive : σ → Prop}
    (kept : ∀ state next, motive state → advance state = .ok next → motive next)
    {fuel : Nat} {start : σ} (holds : motive start) :
    motive (run agree advance fuel start).state := by
  induction fuel generalizing start with
  | zero => exact holds
  | succ fuel ih =>
      unfold run
      cases advanced : advance start with
      | error error => exact holds
      | ok next =>
          dsimp only
          split
          · exact kept start next holds advanced
          · exact ih (kept start next holds advanced)

/-- A settled run stops in the second of two consecutive states that agree. -/
theorem exists_agreeing_of_settled {fuel : Nat} {start : σ}
    (settled : (run agree advance fuel start).halt = .settled) :
    ∃ previous, advance previous = .ok (run agree advance fuel start).state ∧
      agree previous (run agree advance fuel start).state = true := by
  induction fuel generalizing start with
  | zero => cases settled
  | succ fuel ih =>
      unfold run at settled ⊢
      cases advanced : advance start with
      | error error => rw [advanced] at settled; cases settled
      | ok next =>
          rw [advanced] at settled
          dsimp only at settled ⊢
          split
          · rename_i agreed
            exact ⟨start, advanced, agreed⟩
          · rename_i different
            rw [if_neg different] at settled
            exact ih settled

/-- A run settles within its bound if every application that changes the state lowers a measure. -/
theorem settled_of_measure (measure : σ → Nat)
    (progress : ∀ state, ∃ next, advance state = .ok next ∧
      (agree state next = true ∨ measure next < measure state))
    {fuel : Nat} {start : σ} (bounded : measure start < fuel) :
    (run agree advance fuel start).halt = .settled := by
  induction fuel generalizing start with
  | zero => exact absurd bounded (Nat.not_lt_zero _)
  | succ fuel ih =>
      obtain ⟨next, advanced, agreed | lower⟩ := progress start
      · unfold run
        rw [advanced]
        dsimp only
        rw [if_pos agreed]
      · unfold run
        rw [advanced]
        dsimp only
        split
        · rfl
        · exact ih (by omega)

/-- A run settles within its bound if its states pass through stages, the last of which agrees with
what follows it. -/
theorem settled_of_stages {motive : Nat → σ → Prop} {last : Nat}
    (advances : ∀ count state, motive count state →
      ∃ next, advance state = .ok next ∧ motive (count + 1) next)
    (agrees : ∀ state next, motive last state → advance state = .ok next → agree state next = true)
    {fuel count : Nat} {start : σ} (begins : motive count start) (early : count ≤ last)
    (enough : last < count + fuel) : (run agree advance fuel start).halt = .settled := by
  induction fuel generalizing count start with
  | zero => omega
  | succ fuel ih =>
      obtain ⟨next, advanced, follows⟩ := advances count start begins
      unfold run
      rw [advanced]
      dsimp only
      split
      · rfl
      · rename_i different
        have before : count ≠ last := by
          intro same
          subst same
          exact different (agrees start next begins advanced)
        exact ih follows (by omega) (by omega)

theorem halt_of_failure {fuel : Nat} {start : σ} {error : ε} (positive : 0 < fuel)
    (failed : advance start = .error error) :
    (run agree advance fuel start).halt = .failed error := by
  cases fuel with
  | zero => exact absurd positive (Nat.lt_irrefl 0)
  | succ fuel =>
      unfold run
      rw [failed]

theorem halt_of_success (succeeds : ∀ state, ∃ next, advance state = .ok next) (fuel : Nat)
    (start : σ) :
    (run agree advance fuel start).halt = .settled ∨
      (run agree advance fuel start).halt = .exhausted := by
  induction fuel generalizing start with
  | zero => exact .inr rfl
  | succ fuel ih =>
      obtain ⟨next, advanced⟩ := succeeds start
      unfold run
      rw [advanced]
      dsimp only
      split
      · exact .inl rfl
      · exact ih next

end Runs

/-- A function fails on a list as it fails on the first item that it fails on. -/
theorem mapM_eq_error_iff {ι κ ε : Type} {function : ι → Except ε κ} {accepts : ι → Bool}
    (each : ∀ item, (∃ value, function item = .ok value) ↔ accepts item = true) {items : List ι}
    {error : ε} :
    items.mapM function = .error error ↔
      ∃ item, items.find? (fun item => !accepts item) = some item ∧
        function item = .error error := by
  induction items with
  | nil =>
      constructor
      · intro failed
        cases failed
      · rintro ⟨_, found, _⟩
        cases found
  | cons first rest ih =>
      rw [List.mapM_cons]
      cases outcome : function first with
      | ok value =>
          have accepted : accepts first = true := (each first).mp ⟨value, outcome⟩
          rw [List.find?_cons_of_neg (by rw [accepted]; exact Bool.false_ne_true), ← ih]
          cases rest.mapM function with
          | ok values =>
              constructor
              · intro failed
                cases failed
              · intro failed
                cases failed
          | error reported => exact Iff.rfl
      | error reported =>
          have rejected : accepts first = false := by
            rw [Bool.eq_false_iff]
            intro accepted
            obtain ⟨value, succeeded⟩ := (each first).mpr accepted
            rw [outcome] at succeeded
            cases succeeded
          rw [List.find?_cons_of_pos (by rw [rejected]; rfl)]
          constructor
          · intro failed
            cases failed
            exact ⟨first, rfl, outcome⟩
          · rintro ⟨_, found, failed⟩
            cases found
            rw [outcome] at failed
            cases failed
            rfl

section Sweeps

variable {σ ι ε : Type} {advance : σ → ι → Except ε σ}

theorem sweep_cons {item : ι} {rest : List ι} {start final : σ}
    (swept : (item :: rest).foldlM advance start = .ok final) :
    ∃ next, advance start item = .ok next ∧ rest.foldlM advance next = .ok final := by
  rw [List.foldlM_cons] at swept
  exact bind_eq_ok_iff.mp swept

/-- What relates the states before and after each item relates those before and after a sweep. -/
theorem sweep_relates {motive : σ → σ → Prop} (reflexive : ∀ state, motive state state)
    (transitive : ∀ first second third, motive first second → motive second third →
      motive first third)
    {items : List ι} {start final : σ}
    (each : ∀ item ∈ items, ∀ state next, advance state item = .ok next → motive state next)
    (swept : items.foldlM advance start = .ok final) : motive start final := by
  induction items generalizing start with
  | nil =>
      cases swept
      exact reflexive final
  | cons item rest ih =>
      obtain ⟨next, advanced, onward⟩ := sweep_cons swept
      have first := each item List.mem_cons_self start next advanced
      have later := ih (fun other member => each other (List.mem_cons_of_mem _ member)) onward
      exact transitive start next final first later

theorem sweep_append {first second : List ι} {start final : σ}
    (swept : (first ++ second).foldlM advance start = .ok final) :
    ∃ reached, first.foldlM advance start = .ok reached ∧
      second.foldlM advance reached = .ok final := by
  rw [List.foldlM_append] at swept
  exact bind_eq_ok_iff.mp swept

theorem sweep_failure {before after : List ι} {item : ι} {start reached : σ} {error : ε}
    (early : before.foldlM advance start = .ok reached)
    (failed : advance reached item = .error error) :
    (before ++ item :: after).foldlM advance start = .error error := by
  rw [List.foldlM_append, early]
  change (item :: after).foldlM advance reached = .error error
  rw [List.foldlM_cons, failed]
  rfl

theorem advances_of_mem {items : List ι} {item : ι} {start final : σ} (member : item ∈ items)
    (swept : items.foldlM advance start = .ok final) :
    ∃ state next, advance state item = .ok next := by
  obtain ⟨before, after, split⟩ := List.append_of_mem member
  rw [split] at swept
  obtain ⟨reached, _, onward⟩ := sweep_append swept
  obtain ⟨next, advanced, _⟩ := sweep_cons onward
  exact ⟨reached, next, advanced⟩

/-- Items that are prepared before a sweep may as well be prepared on the way. -/
theorem sweep_prepared {κ : Type} {prepare : κ → Except ε ι} {items : List κ} {prepared : List ι}
    (ready : items.mapM prepare = .ok prepared) (start : σ) :
    prepared.foldlM advance start =
      items.foldlM (fun state item => prepare item >>= advance state) start := by
  induction items generalizing prepared start with
  | nil =>
      cases ready
      rfl
  | cons item rest ih =>
      rw [List.mapM_cons] at ready
      obtain ⟨value, first, ready⟩ := bind_eq_ok_iff.mp ready
      obtain ⟨values, later, same⟩ := bind_eq_ok_iff.mp ready
      cases same
      rw [List.foldlM_cons, List.foldlM_cons, first]
      exact bind_congr fun next => ih later next

/-- The states that repeated sweeps over a list go through, each with the items that the sweep going
on has handled so far. -/
inductive Visits (advance : σ → ι → Except ε σ) (items : List ι) (start : σ) : List ι → σ → Prop
  | start : Visits advance items start [] start
  | item {handled rest : List ι} {item : ι} {state next : σ}
      (before : Visits advance items start handled state) (split : items = handled ++ item :: rest)
      (advanced : advance state item = .ok next) :
      Visits advance items start (handled ++ [item]) next
  | sweep {state : σ} (before : Visits advance items start items state) :
      Visits advance items start [] state

theorem Visits.invariant {motive : σ → Prop} {items handled : List ι} {start state : σ}
    (kept : ∀ item ∈ items, ∀ state next, motive state → advance state item = .ok next →
      motive next)
    (begins : motive start) (visited : Visits advance items start handled state) :
    motive state := by
  induction visited with
  | start => exact begins
  | item _ split advanced ih =>
      apply kept _ _ _ _ ih advanced
      simp only [split, List.mem_append, List.mem_cons, true_or, or_true]
  | sweep _ ih => exact ih

private theorem Visits.onward {items handled rest : List ι} {start state final : σ}
    (visited : Visits advance items start handled state) (split : items = handled ++ rest)
    (swept : rest.foldlM advance state = .ok final) : Visits advance items start items final := by
  induction rest generalizing handled state with
  | nil =>
      cases swept
      rw [List.append_nil] at split
      rw [← split] at visited
      exact visited
  | cons item rest ih =>
      obtain ⟨next, advanced, onward⟩ := sweep_cons swept
      apply ih (visited.item split advanced) _ onward
      rw [split, List.append_cons]

/-- Where repeated sweeps stop is one of the states that they go through. -/
theorem visits_of_run {agree : σ → σ → Bool} {items : List ι} {start : σ} {fuel : Nat} :
    Visits advance items start []
      (run agree (fun state => items.foldlM advance state) fuel start).state := by
  apply run_invariant (motive := Visits advance items start [])
  · intro state next visited swept
    exact .sweep (visited.onward rfl swept)
  · exact .start

end Sweeps

end CoeffectSolver.Iteration
