import CoeffectSolver.Analysis.Dataflow.Solution
import CoeffectSolver.Analysis.Implicit.Solution
import CoeffectSolver.Fault.Failure

/-!
The analyses that can interpret coeffects, and what they have in common.
-/

namespace CoeffectSolver

/-- An interpretation of coeffects that can solve equalities between them. -/
inductive Analysis where
  /-- Coeffects are the implicit parameters that a computation needs. -/
  | implicit
  /-- Coeffects are the number of past values that a computation needs. -/
  | dataflow
  deriving DecidableEq, Repr

namespace Analysis

/-- All analyses, in the order in which they are listed. -/
def all : List Analysis := [.implicit, .dataflow]

/-- The name of an analysis. -/
def name : Analysis → String
  | .implicit => "implicit"
  | .dataflow => "dataflow"

/-- The analysis with a name. -/
def ofName? (name : String) : Option Analysis :=
  all.find? (fun analysis => analysis.name == name)

/-- What is said of a name that no analysis has. -/
def unknownMessage (name : String) : String :=
  "unknown analysis '" ++ name ++ "', expected one of: " ++
    String.intercalate ", " (all.map Analysis.name)

/-- The analysis with a name, or a report that there is none. -/
def ofName (name : String) : Except Failure Analysis :=
  match ofName? name with
  | some analysis => .ok analysis
  | none => .error (.report (unknownMessage name))

end Analysis

/-- What an analysis found for a list of equalities. -/
inductive Solution where
  | implicit (found : Implicit.Solution)
  | dataflow (found : Dataflow.Solution)

namespace Solution

/-- The value of a coeffect under a solution, written as a coeffect again. -/
def display : Solution → Coeffect → Except Fault Coeffect
  | .implicit found => found.display
  | .dataflow found => found.display

/-- The assigned variables in ascending order, each with its value written as a coeffect. -/
def assigned : Solution → List (String × Coeffect)
  | .implicit found => found.assigned
  | .dataflow found => found.assigned

end Solution

/-- Solves equalities between coeffects under an analysis. -/
def Analysis.solve (analysis : Analysis) (constraints : List CoeffectConstraint) :
    Except Fault Solution :=
  match analysis with
  | .implicit => (Implicit.solve constraints).map .implicit
  | .dataflow => (Dataflow.solve constraints).map .dataflow

end CoeffectSolver
