import CoeffectSolver.Checking
import CoeffectSolver.Log.Logger

/-!
What is logged about unifying, solving, checking and normalising.

Each trace is determined by what an operation was given and what it returned.
-/

namespace CoeffectSolver.Trace

open Log

/-- A record for tracing that belongs to a section. -/
def debugRecord (sectionName message : String) (fields : List (String × String)) : Record where
  level := debug
  message := message
  fields := Field.plain sectionKey sectionName ::
    fields.map (fun field => Field.plain field.1 field.2)

/-- A list as a field value. -/
def listText (items : List String) : String :=
  "[" ++ String.intercalate "; " items ++ "]"

/-- What is logged about unifying constraints. -/
def unification (constraints : List TypeConstraint) (result : Except Fault Unified) :
    List Record :=
  let record := debugRecord "inference.unify"
  let announcement := record "solving type constraints"
    [("constraints", listText (constraints.map TypeConstraint.display))]
  match result with
  | .ok unified =>
      [announcement,
        record "solved type constraints"
          [("assigned", toString unified.assigned.size),
            ("coeffects", listText (unified.equalities.map CoeffectConstraint.display))]]
  | .error (.typeMismatch first second remarks) =>
      [announcement,
        record "unification failed"
          [("left", first.display), ("right", second.display),
            ("error", (Fault.typeMismatch first second remarks).message)]]
  | .error _ => [announcement]

/-- What is logged about solving equalities between annotations. -/
def solving (analysis : Analysis) (constraints : List CoeffectConstraint) : List Record :=
  match analysis with
  | .implicit =>
      [debugRecord "coeffects.implicit" "solving implicit parameter constraints"
        [("equivalences", toString (Implicit.links constraints).length),
          ("constraints",
            listText ((Implicit.remaining constraints).map CoeffectConstraint.display))]]
  | .dataflow =>
      match Dataflow.plan constraints with
      | .ok oriented =>
          [debugRecord "coeffects.dataflow" "solving dataflow constraints"
            [("equivalences", toString (Dataflow.links constraints).length),
              ("constraints", toString oriented.length)]]
      | .error _ => []

/-- What is logged about checking constraints. -/
def checking (analysis : Analysis) (constraints : List TypeConstraint) : List Record :=
  let unified := unify constraints NameMap.empty []
  unification constraints unified ++
    match unified with
    | .error _ => []
    | .ok unified =>
        solving analysis unified.equalities ++
          match analysis.solve unified.equalities with
          | .error _ => []
          | .ok _ =>
              [debugRecord "inference.check" "checked constraints"
                [("analysis", analysis.name), ("types", toString unified.assigned.size),
                  ("coeffects", toString unified.equalities.length)]]

/-- What is logged about normalising a type. -/
def normalising (type : Ty) (result : Except Fault Ty) : List Record :=
  let (normal, error) :=
    match result with
    | .ok normal => (normal.display, absentText)
    | .error fault => (absentText, fault.message)
  [debugRecord "inference.normalise" "normalised type"
    [("type", type.display), ("result", normal), ("error", error)]]

end CoeffectSolver.Trace
