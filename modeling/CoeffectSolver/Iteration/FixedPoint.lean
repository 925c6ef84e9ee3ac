/-!
Bounded iteration of a function on a state until two consecutive states agree.

The bound counts applications of the function. A run reports the state it stopped in, how often the
function was applied, and why it stopped.
-/

namespace CoeffectSolver.Iteration

/-- The number of applications allowed where a caller states no bound of its own. -/
def defaultFuel : Nat := 10000

/-- Why an iteration stopped. -/
inductive Halt (ε : Type) where
  /-- Two consecutive states agreed. -/
  | settled
  /-- The function failed on the current state. -/
  | failed (error : ε)
  /-- The bound was used up before two consecutive states agreed. -/
  | exhausted
  deriving DecidableEq, Repr

/-- What an iteration leaves behind. -/
structure Run (σ ε : Type) where
  /-- The last state: the agreeing one, or the one the function failed on. -/
  state : σ
  /-- How often the function was applied, a failing application included. -/
  applications : Nat
  /-- Why the iteration stopped. -/
  halt : Halt ε

/-- Applies a function to its own result until two consecutive states agree. -/
def run {σ ε : Type} (agree : σ → σ → Bool) (advance : σ → Except ε σ) : Nat → σ → Run σ ε
  | 0, current => ⟨current, 0, .exhausted⟩
  | fuel + 1, current =>
      match advance current with
      | .error error => ⟨current, 1, .failed error⟩
      | .ok next =>
          if agree current next then ⟨next, 1, .settled⟩
          else
            let rest := run agree advance fuel next
            ⟨rest.state, rest.applications + 1, rest.halt⟩

/-- What is said of an iteration that used up its bound. -/
def exhaustedMessage : String := "no fixed point reached"

/-- The number of applications never exceeds the bound. -/
theorem applications_le {σ ε : Type} (agree : σ → σ → Bool) (advance : σ → Except ε σ)
    (fuel : Nat) (current : σ) : (run agree advance fuel current).applications ≤ fuel := by
  induction fuel generalizing current with
  | zero => simp [run]
  | succ fuel ih =>
      unfold run
      split
      · simp
      · split
        · simp
        · exact Nat.succ_le_succ (ih _)

end CoeffectSolver.Iteration
