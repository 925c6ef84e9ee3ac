import CoeffectSolver.Proofs.Term.Erasure
import CoeffectSolver.Proofs.Unification.Transition
import Mathlib.Algebra.GroupWithZero.Nat
import Mathlib.Data.Finset.Card
import Mathlib.Data.Finset.Filter
import Mathlib.Order.WellFounded

/-! Unification ends by itself. A step that binds a variable leaves fewer variables to bind. Every
other step replaces a pair by lighter ones, where the weight of a type counts the nodes of the type
with all assigned variables replaced, and one more for each replacement: following a variable to its
type does away with one replacement, although it may put a larger type in place of the variable. -/

namespace CoeffectSolver

open Relation (TransGen)

theorem Ty.nodes_pos (type : Ty) : 0 < type.nodes := by
  cases type <;> simp only [nodes] <;> omega

theorem Ty.nodesOfElements_eq_sum (elements : List Ty) :
    nodesOfElements elements = (elements.map nodes).sum := by
  induction elements with
  | nil => rfl
  | cons first rest ih => rw [nodesOfElements, ih, List.map_cons, List.sum_cons]

namespace Substitution

variable {assigned : Substitution}

/-- The same assignments with a layer around every assigned type, which stays as a mark wherever a
variable is replaced. -/
def layered (assigned : Substitution) : Substitution := assigned.mapValues (.comonad .unconstrained)

theorem get?_layered (name : String) :
    assigned.layered.get? name = (assigned.get? name).map (.comonad .unconstrained) :=
  NameMap.get?_mapValues

theorem leads_layered : assigned.layered.Leads = assigned.Leads := by
  funext name other
  simp only [Leads, get?_layered, Option.map_eq_some_iff, eq_iff_iff]
  constructor
  · rintro ⟨_, ⟨held, found, rfl⟩, mentioned⟩
    exact ⟨held, found, Ty.mentions_comonad.mp mentioned⟩
  · rintro ⟨held, found, mentioned⟩
    exact ⟨_, ⟨held, found, rfl⟩, Ty.mentions_comonad.mpr mentioned⟩

theorem Acyclic.layered (acyclic : assigned.Acyclic) : Acyclic assigned.layered := by
  unfold Acyclic
  rw [leads_layered]
  exact acyclic

/-- The nodes of a type with all assigned variables replaced, and one for each replacement. -/
def weight (assigned : Substitution) (type : Ty) : Nat := (assigned.layered.apply type).nodes

theorem weight_pos (assigned : Substitution) (type : Ty) : 0 < assigned.weight type :=
  Ty.nodes_pos _

section Weights

variable (acyclic : assigned.Acyclic)

include acyclic

theorem weight_comonad (requirement : Coeffect) (inner : Ty) :
    assigned.weight (.comonad requirement inner) = 1 + assigned.weight inner := by
  rw [weight, apply_comonad acyclic.layered, Ty.nodes, weight]

theorem weight_arrow (declaration call : Coeffect) (argument result : Ty) :
    assigned.weight (.arrow declaration call argument result) =
      1 + assigned.weight argument + assigned.weight result := by
  rw [weight, apply_arrow acyclic.layered, Ty.nodes, weight, weight]

theorem weight_tuple (elements : List Ty) :
    assigned.weight (.tuple elements) = 1 + (elements.map assigned.weight).sum := by
  rw [weight, apply_tuple acyclic.layered, Ty.nodes, Ty.nodesOfElements_eq_sum, List.map_map]
  rfl

theorem weight_var {name : String} {held : Ty} (found : assigned.get? name = some held) :
    assigned.weight (.var name) = 1 + assigned.weight held := by
  have layer : assigned.layered.get? name = some (.comonad .unconstrained held) := by
    rw [get?_layered, found, Option.map_some]
  rw [weight, apply_var_of_some acyclic.layered layer]
  exact weight_comonad acyclic .unconstrained held

end Weights

end Substitution

namespace Unifier

variable {state next : State} {pending : Pending} {names : Finset String}

def Pending.weight (assigned : Substitution) (pending : Pending) : Nat :=
  assigned.weight pending.left + assigned.weight pending.right

def State.load (state : State) : Nat :=
  (state.work.items.map (Pending.weight state.assigned)).sum

/-- The variables among some names that are not assigned yet. -/
def State.unbound (names : Finset String) (state : State) : Finset String :=
  {name ∈ names | state.assigned.get? name = none}

/-- All variables of a state, outside annotations, are among some names. -/
def State.Within (names : Finset String) (state : State) : Prop :=
  state.Throughout (fun type => ∀ name, type.Mentions name → name ∈ names) (fun _ => True)

private theorem hereditary_within (names : Finset String) :
    Hereditary (fun type => ∀ name, type.Mentions name → name ∈ names) (fun _ => True) := by
  refine ⟨?_, ?_, ?_⟩
  · intro declaration call argument result inside
    refine ⟨⟨trivial, trivial⟩, fun name mentioned => ?_, fun name mentioned => ?_⟩
    · exact inside name (Ty.mentions_arrow.mpr (.inl mentioned))
    · exact inside name (Ty.mentions_arrow.mpr (.inr mentioned))
  · intro elements inside element member name mentioned
    exact inside name (Ty.mentions_tuple.mpr ⟨element, member, mentioned⟩)
  · intro requirement inner inside
    exact ⟨trivial, fun name mentioned => inside name (Ty.mentions_comonad.mpr mentioned)⟩

theorem State.exists_within (state : State) : ∃ names, state.Within names := by
  let inAssigned := state.assigned.entries.flatMap fun entry => entry.2.occurrences
  let inWork := state.work.items.flatMap fun pending =>
    pending.left.occurrences ++ pending.right.occurrences
  refine ⟨(inAssigned ++ inWork).toFinset, ?_, ?_, fun _ _ => ⟨trivial, trivial⟩⟩
  · intro name held found other mentioned
    apply List.mem_toFinset.mpr
    apply List.mem_append_left
    exact List.mem_flatMap.mpr ⟨(name, held), NameMap.get?_eq_some_iff.mp found,
      Ty.mem_occurrences_iff.mpr mentioned⟩
  · intro pending member
    have listed {other : String}
        (occurs : other ∈ pending.left.occurrences ++ pending.right.occurrences) :
        other ∈ (inAssigned ++ inWork).toFinset := by
      apply List.mem_toFinset.mpr
      apply List.mem_append_right
      exact List.mem_flatMap.mpr ⟨pending, member, occurs⟩
    constructor
    · intro other mentioned
      exact listed (List.mem_append_left _ (Ty.mem_occurrences_iff.mpr mentioned))
    · intro other mentioned
      exact listed (List.mem_append_right _ (Ty.mem_occurrences_iff.mpr mentioned))

private theorem sum_weight_zipWith {assigned : Substitution} {elements elements' : List Ty}
    (lengths : elements.length = elements'.length) :
    ((List.zipWith pending.successor elements elements').map (Pending.weight assigned)).sum =
      (elements.map assigned.weight).sum + (elements'.map assigned.weight).sum := by
  induction elements generalizing elements' with
  | nil =>
      cases elements' with
      | nil => rfl
      | cons first' rest' => cases lengths
  | cons first rest ih =>
      cases elements' with
      | nil => cases lengths
      | cons first' rest' =>
          simp only [List.zipWith_cons_cons, List.map_cons, List.sum_cons,
            ih (Nat.succ.inj lengths), Pending.weight, Pending.successor]
          omega

/-- A step binds a variable of its pair or replaces the pair by pairs that are lighter together. -/
theorem State.binds_or_lightens (handled : state.step pending = .ok next)
    (acyclic : state.assigned.Acyclic) :
    (∃ name type, next.assigned = state.assigned.insert name type ∧
      state.assigned.get? name = none ∧
      (pending.left.Mentions name ∨ pending.right.Mentions name)) ∨
    next.assigned = state.assigned ∧ ∃ batch, next.work.items = batch ++ state.work.items ∧
      (batch.map (Pending.weight state.assigned)).sum < pending.weight state.assigned := by
  have outcome := state.step_outcome pending
  rw [handled] at outcome
  cases outcome with
  | @followLeft name held side found =>
      -- What the variable stands for may be larger, but a replacement less is left in it.
      refine .inr ⟨rfl, [pending.successor pending.right held], State.items_schedule _ _, ?_⟩
      have hop := Substitution.weight_var acyclic found
      simp only [List.map_cons, List.map_nil, List.sum_cons, List.sum_nil, Pending.weight,
        Pending.successor, side]
      omega
  | @followRight name held side found =>
      refine .inr ⟨rfl, [pending.successor pending.left held], State.items_schedule _ _, ?_⟩
      have hop := Substitution.weight_var acyclic found
      simp only [List.map_cons, List.map_nil, List.sum_cons, List.sum_nil, Pending.weight,
        Pending.successor, side]
      omega
  | drop =>
      refine .inr ⟨rfl, [], rfl, ?_⟩
      have positive := state.assigned.weight_pos pending.left
      simp only [List.map_nil, List.sum_nil, Pending.weight]
      omega
  | @bind name type sides unassigned =>
      refine .inl ⟨name, type, rfl, unassigned, ?_⟩
      rcases sides with ⟨left, _⟩ | ⟨_, right⟩
      · rw [left]
        exact .inl (Ty.mentions_var.mpr rfl)
      · rw [right]
        exact .inr (Ty.mentions_var.mpr rfl)
  | @arrow declaration call declaration' call' argument result argument' result' left right =>
      refine .inr ⟨rfl, [pending.successor argument argument', pending.successor result result'],
        State.items_schedule _ _, ?_⟩
      simp only [List.map_cons, List.map_nil, List.sum_cons, List.sum_nil, Pending.weight,
        Pending.successor, left, right, Substitution.weight_arrow acyclic]
      omega
  | @tuple elements elements' left right lengths =>
      refine .inr ⟨rfl, List.zipWith pending.successor elements elements',
        State.items_schedule _ _, ?_⟩
      rw [sum_weight_zipWith lengths]
      simp only [Pending.weight, left, right, Substitution.weight_tuple acyclic]
      omega
  | @comonad requirement requirement' inner inner' left right =>
      refine .inr ⟨rfl, [pending.successor inner inner'], State.items_schedule _ _, ?_⟩
      simp only [List.map_cons, List.map_nil, List.sum_cons, List.sum_nil, Pending.weight,
        Pending.successor, left, right, Substitution.weight_comonad acyclic]
      omega

/-- What is left to do: variables to bind first, then the load. -/
def State.measure (names : Finset String) (state : State) : Nat × Nat :=
  ((state.unbound names).card, state.load)

theorem State.measure_lt_of_advances (edge : state.Advances next)
    (acyclic : state.assigned.Acyclic) (within : state.Within names) :
    Prod.Lex (· < ·) (· < ·) (next.measure names) (state.measure names) := by
  obtain ⟨pending, rest, items, handled⟩ := edge
  rcases State.binds_or_lightens handled acyclic with
    ⟨name, type, bound, unassigned, mentioned⟩ | ⟨same, batch, scheduled, lighter⟩
  · have known : name ∈ names := by
      have sides := within.work pending (by rw [items]; exact List.mem_cons_self)
      exact mentioned.elim (sides.1 name) (sides.2 name)
    apply Prod.Lex.left
    apply Finset.card_lt_card
    constructor
    · intro other member
      simp only [State.unbound, Finset.mem_filter, bound, NameMap.get?_insert] at member ⊢
      refine ⟨member.1, ?_⟩
      by_cases same : other = name
      · rw [if_pos same] at member
        cases member.2
      · rw [if_neg same] at member
        exact member.2
    · intro back
      have member : name ∈ next.unbound names :=
        back (Finset.mem_filter.mpr ⟨known, unassigned⟩)
      simp only [State.unbound, Finset.mem_filter, bound, NameMap.get?_insert, if_pos] at member
      cases member.2
  · have unchanged : next.unbound names = state.unbound names := by
      simp only [State.unbound, same]
    have before : state.load = pending.weight state.assigned +
        (rest.map (Pending.weight state.assigned)).sum := by
      rw [State.load, items, List.map_cons, List.sum_cons]
    have after : next.load = (batch.map (Pending.weight state.assigned)).sum +
        (rest.map (Pending.weight state.assigned)).sum := by
      rw [State.load, scheduled, same, List.map_append, List.sum_append]
    unfold State.measure
    rw [unchanged]
    apply Prod.Lex.right
    dsimp only at lighter
    omega

theorem State.acc_of_acyclic (acyclic : state.assigned.Acyclic) :
    Acc (fun next state => State.Advances state next) state := by
  obtain ⟨names, within⟩ := state.exists_within
  have founded : WellFounded (InvImage (Prod.Lex (· < ·) (· < ·)) (State.measure names)) :=
    InvImage.wf _ (WellFounded.prod_lex wellFounded_lt wellFounded_lt)
  induction state using founded.induction with
  | _ state ih =>
      refine ⟨state, fun next edge => ?_⟩
      apply ih next (State.measure_lt_of_advances edge acyclic within)
      · exact State.acyclic_of_reaches acyclic (.single edge)
      · exact State.throughout_of_advances (hereditary_within names) within edge

theorem State.mismatch_of_step {fault : Fault} (failed : state.step pending = .error fault) :
    ∃ remarks, fault = pending.mismatch remarks := by
  have outcome := state.step_outcome pending
  rw [failed] at outcome
  cases outcome with
  | occurs => exact ⟨_, rfl⟩
  | clash => exact ⟨_, rfl⟩

/-- From some fuel on, a run that cannot go on for ever has one and the same outcome. -/
theorem State.exists_outcome (ends : Acc (fun next state => State.Advances state next) state) :
    ∃ enough outcome, (∀ budget fuel, enough ≤ fuel → state.run budget fuel = outcome) ∧
      ((∃ final, outcome = .ok final ∧ final.work.items = []) ∨
        ∃ first second remarks, outcome = .error (.typeMismatch first second remarks)) := by
  induction ends with
  | intro state _ ih =>
      cases items : state.work.items with
      | nil => exact ⟨0, .ok state, fun _ _ _ => State.run_of_done items, .inl ⟨state, rfl, items⟩⟩
      | cons pending rest =>
          cases handled : State.step { state with work := ⟨rest⟩ } pending with
          | error fault =>
              obtain ⟨remarks, rfl⟩ := State.mismatch_of_step handled
              refine ⟨1, .error (pending.mismatch remarks), fun budget fuel enough => ?_,
                .inr ⟨_, _, _, rfl⟩⟩
              cases fuel with
              | zero => omega
              | succ fuel => rw [State.run_succ items, handled, Except.bind]
          | ok next =>
              obtain ⟨enough, outcome, runs, conclusive⟩ := ih next ⟨pending, rest, items, handled⟩
              refine ⟨enough + 1, outcome, fun budget fuel more => ?_, conclusive⟩
              cases fuel with
              | zero => omega
              | succ fuel =>
                  rw [State.run_succ items, handled, Except.bind]
                  exact runs budget fuel (by omega)

/-- From a state whose substitution is free of cycles no infinite sequence of steps is possible, so
that from some fuel on a run comes to an end, with nothing left to unify or with a mismatch, and
more fuel makes no difference. -/
theorem State.run_terminates (acyclic : state.assigned.Acyclic) :
    (¬ ∃ trace : Nat → State, trace 0 = state ∧
      ∀ count, (trace count).Advances (trace (count + 1))) ∧
    ∃ enough outcome, (∀ budget fuel, enough ≤ fuel → state.run budget fuel = outcome) ∧
      ((∃ final, outcome = .ok final ∧ final.work.items = []) ∨
        ∃ first second remarks, outcome = .error (.typeMismatch first second remarks)) := by
  have ends := State.acc_of_acyclic acyclic
  constructor
  · rintro ⟨trace, starts, advances⟩
    exact (acc_iff_isEmpty_descending_chain.mp ends).false ⟨trace, starts, advances⟩
  · exact State.exists_outcome ends

theorem State.run_terminates_of_shared :
    let assigned := NameMap.empty.insert "a" (.tuple [.var "b", .var "b"])
    let state := initial [⟨.var "c", .tuple [.var "a", .var "a"]⟩, ⟨.var "d", .var "c"⟩] assigned []
    state.assigned.Acyclic ∧
      (¬ ∃ trace : Nat → State, trace 0 = state ∧
        ∀ count, (trace count).Advances (trace (count + 1))) ∧
      ∃ enough, ∀ budget fuel, enough ≤ fuel →
        state.run budget fuel ≠ .error (.nonTermination "type unification" budget) := by
  intro assigned state
  have acyclic : state.assigned.Acyclic := Substitution.acyclic_empty.insert (by decide +kernel)
  obtain ⟨finite, enough, outcome, ends, conclusive⟩ := State.run_terminates acyclic
  refine ⟨acyclic, finite, enough, fun budget fuel more => ?_⟩
  rw [ends budget fuel more]
  rcases conclusive with ⟨final, rfl, _⟩ | ⟨first, second, remarks, rfl⟩
  · exact nofun
  · exact nofun

end Unifier

end CoeffectSolver
