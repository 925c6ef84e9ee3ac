import CoeffectSolver.Proofs.Unification.Agreement

/-! The annotations that unification equates. Each of them is an annotation of the constraints; and
where the substitution found makes the sides of every constraint the same, annotations included, an
annotation is equated with itself only. -/

namespace CoeffectSolver

namespace Ty

mutual

/-- The annotations of a type from the outside in and from left to right: those of an arrow before
its argument and result, that of a comonadic type before its inner type. -/
def annotations : Ty → List Coeffect
  | .absent => []
  | .var _ => []
  | .prim _ => []
  | .tuple elements => annotationsInElements elements
  | .arrow declaration call argument result =>
      declaration :: call :: (argument.annotations ++ result.annotations)
  | .comonad requirement inner => requirement :: inner.annotations

def annotationsInElements : List Ty → List Coeffect
  | [] => []
  | first :: rest => first.annotations ++ annotationsInElements rest

end

private theorem annotationsInElements_eq_flatMap (elements : List Ty) :
    annotationsInElements elements = elements.flatMap annotations := by
  induction elements with
  | nil => rfl
  | cons first rest ih => exact congrArg (first.annotations ++ ·) ih

@[simp] theorem annotations_tuple (elements : List Ty) :
    (Ty.tuple elements).annotations = elements.flatMap annotations :=
  annotationsInElements_eq_flatMap elements

@[simp] theorem annotations_arrow (declaration call : Coeffect) (argument result : Ty) :
    (Ty.arrow declaration call argument result).annotations =
      declaration :: call :: (argument.annotations ++ result.annotations) := rfl

@[simp] theorem annotations_comonad (requirement : Coeffect) (inner : Ty) :
    (Ty.comonad requirement inner).annotations = requirement :: inner.annotations := rfl

end Ty

/-- The annotations of both sides of a constraint. -/
def TypeConstraint.annotations (constraint : TypeConstraint) : List Coeffect :=
  constraint.left.annotations ++ constraint.right.annotations

namespace Unifier

variable {given : Coeffect → Prop}

def Pending.AnnotatedBy (given : Coeffect → Prop) (pending : Pending) : Prop :=
  (∀ coeffect ∈ pending.left.annotations, given coeffect) ∧
    ∀ coeffect ∈ pending.right.annotations, given coeffect

/-- All annotations of a state are among those given. -/
structure State.AnnotatedBy (given : Coeffect → Prop) (state : State) : Prop where
  assigned : ∀ name held, state.assigned.get? name = some held →
    ∀ coeffect ∈ held.annotations, given coeffect
  work : ∀ pending ∈ state.work.items, pending.AnnotatedBy given
  equalities : ∀ equality ∈ state.equalities.toList, given equality.left ∧ given equality.right

private theorem hereditary_annotated :
    Hereditary (fun type => ∀ coeffect ∈ type.annotations, given coeffect) given := by
  refine ⟨?_, ?_, ?_⟩
  · intro declaration call argument result all
    rw [Ty.annotations_arrow, List.forall_mem_cons, List.forall_mem_cons,
      List.forall_mem_append] at all
    exact ⟨⟨all.1, all.2.1⟩, all.2.2⟩
  · intro elements all
    rw [Ty.annotations_tuple, List.forall_mem_flatMap] at all
    exact all
  · intro requirement inner all
    rw [Ty.annotations_comonad, List.forall_mem_cons] at all
    exact all

theorem State.annotatedBy_of_run {budget fuel : Nat} {state final : State}
    (annotated : state.AnnotatedBy given) (ran : state.run budget fuel = .ok final) :
    final.AnnotatedBy given := by
  obtain ⟨assigned, work, equalities⟩ := State.throughout_of_run hereditary_annotated
    ⟨annotated.assigned, annotated.work, annotated.equalities⟩ ran
  exact ⟨assigned, work, equalities⟩

end Unifier

section Unifying

variable {constraints : List TypeConstraint} {unified : Unified}
  (succeeded : unify constraints NameMap.empty [] = .ok unified)

include succeeded

theorem settles_of_unify : Settles ⟨NameMap.empty, []⟩ constraints (.ok unified) := by
  have settled : Settles ⟨NameMap.empty, []⟩ constraints (unify constraints NameMap.empty []) :=
    unify_settles Substitution.acyclic_empty constraints
  rw [succeeded] at settled
  exact settled

theorem mem_annotations_of_unify {equality : CoeffectConstraint}
    (member : equality ∈ unified.equalities) :
    equality.left ∈ constraints.flatMap TypeConstraint.annotations ∧
      equality.right ∈ constraints.flatMap TypeConstraint.annotations := by
  obtain ⟨final, ran, _, collected⟩ := run_of_unify_eq_ok succeeded
  have initial : (Unifier.initial constraints NameMap.empty []).AnnotatedBy
      (· ∈ constraints.flatMap TypeConstraint.annotations) := by
    refine ⟨fun _ _ found => (by cases found), fun pending listed => ?_,
      fun _ listed => (by cases listed)⟩
    obtain ⟨constraint, inside, rfl⟩ := List.mem_map.mp listed
    constructor
    · intro coeffect onLeft
      exact List.mem_flatMap.mpr ⟨constraint, inside, List.mem_append_left _ onLeft⟩
    · intro coeffect onRight
      exact List.mem_flatMap.mpr ⟨constraint, inside, List.mem_append_right _ onRight⟩
  rw [collected] at member
  exact (Unifier.State.annotatedBy_of_run initial ran).equalities equality member

theorem left_eq_right_of_unify
    (identical : ∀ constraint ∈ constraints,
      unified.assigned.apply constraint.left = unified.assigned.apply constraint.right)
    {equality : CoeffectConstraint} (member : equality ∈ unified.equalities) :
    equality.left = equality.right := by
  cases settles_of_unify succeeded with
  | success acyclic solutions =>
      -- The substitution found is itself a solution with equal annotations, and every solution with
      -- related annotations relates what is equated.
      have solved : (⟨NameMap.empty, []⟩ : Unified).SolvedWith constraints Eq
          (fun name => unified.assigned.apply (.var name)) := by
        refine ⟨⟨fun _ _ found => (by cases found), fun _ listed => (by cases listed)⟩, ?_⟩
        intro constraint listed
        rw [← Substitution.apply_eq_replace_apply_var acyclic,
          ← Substitution.apply_eq_replace_apply_var acyclic, identical constraint listed]
        exact Ty.AlikeUpTo.refl eq_equivalence _
      exact ((solutions Eq eq_equivalence _).mpr solved).equalities equality member

end Unifying
end CoeffectSolver
