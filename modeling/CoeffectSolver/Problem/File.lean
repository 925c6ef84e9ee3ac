import CoeffectSolver.Problem.Basic
import CoeffectSolver.Problem.Term
import CoeffectSolver.Yaml.Document

/-!
Problem files: YAML texts that list problems.

The shape of the whole file is checked first. Keys that mean nothing here are passed over, but no
key may be repeated. On the way the nodes that are visited are counted, since a short file can grow
without measure through aliases. After that the problems are read one after the other, and the first
fault ends the reading.
-/

namespace CoeffectSolver.Problem

open Yaml (Node)

/-- Why a problem cannot be read. -/
inductive ProblemFault where
  | analysisMissing
  | analysisUnknown (name : String)
  | inConstraint (place : Nat) (fault : TermFault)
  | inShown (place : Nat) (fault : TermFault)
  deriving DecidableEq, Repr

/-- Why a problem file cannot be read. -/
inductive FileFault where
  /-- The text is not YAML, or has too many aliases in it. -/
  | malformed
  /-- The document does not have the shape of a problem file. -/
  | misshapen
  /-- A problem has no name. -/
  | unnamed (place : Nat)
  /-- A problem cannot be read. -/
  | inProblem (name : String) (fault : ProblemFault)
  deriving DecidableEq, Repr

/-- The wording of a fault in a problem. -/
def ProblemFault.message : ProblemFault → String
  | .analysisMissing => "missing analysis"
  | .analysisUnknown name => Analysis.unknownMessage name
  | .inConstraint place fault => "constraint " ++ toString place ++ ": " ++ fault.message
  | .inShown place fault => "show " ++ toString place ++ ": " ++ fault.message

/-- The wording of a fault in a file. -/
def FileFault.message : FileFault → String
  | .malformed => "invalid problem file"
  | .misshapen => "invalid problem file"
  | .unnamed place => "problem " ++ toString place ++ " has no name"
  | .inProblem name fault => "problem '" ++ name ++ "': " ++ fault.message

/-- Whether two keys are written alike. -/
def sameKey : Node → Node → Bool
  | .scalar _ text _, .scalar _ text' _ => text == text'
  | .alias anchor _, .alias anchor' _ => anchor == anchor'
  | .sequence _ _, .sequence _ _ => true
  | .mapping _ _, .mapping _ _ => true
  | _, _ => false

/-- Whether no two keys of a list of entries are written alike. -/
def keysDistinct : List (Node × Node) → Bool
  | [] => true
  | entry :: rest =>
      !rest.any (fun other => sameKey entry.1 other.1) && keysDistinct rest

/-- What is known of the nodes of a file while its shape is checked. -/
structure Survey where
  /-- The number of nodes visited so far. -/
  visited : Nat
  /-- How many of them were visited through an alias. -/
  aliased : Nat
  /-- Whether some node has the wrong shape. -/
  misshapen : Bool

namespace Survey

/-- The survey before the first node. -/
def start : Survey where
  visited := 0
  aliased := 0
  misshapen := false

/-- Whether too large a share of the visits is due to aliases. In a file of ordinary size that share
may be 99 in 100; between 400000 and 4000000 visits it falls evenly to 10 in 100. Small numbers are
always allowed. -/
def isExcessive (survey : Survey) : Bool :=
  let { visited, aliased, .. } := survey
  decide (100 < aliased) && decide (1000 < visited) &&
    if visited ≤ 400000 then decide (99 * visited < 100 * aliased)
    else if visited < 4000000 then
      decide (visited * (356400000 - 89 * (visited - 400000)) < 360000000 * aliased)
    else decide (visited < 10 * aliased)

end Survey

/-- A computation that visits nodes. It goes on after a node of the wrong shape, but ends as soon as
too many nodes were visited through aliases. -/
abbrev Shaping := StateT Survey Option

namespace Shaping

/-- Visits one node. -/
def visit (throughAlias : Bool) : Shaping Unit := fun survey =>
  let survey :=
    { survey with
      visited := survey.visited + 1
      aliased := if throughAlias then survey.aliased + 1 else survey.aliased }
  if survey.isExcessive then none else some ((), survey)

/-- Notes that a node has the wrong shape. -/
def misshapen : Shaping Unit := modify fun survey => { survey with misshapen := true }

/-- Visits a node and, if it is an alias, the node it stands for. The answer is the latter, and
whether it was reached through an alias. -/
def enter (throughAlias : Bool) : Node → Shaping (Node × Bool)
  | .alias _ target => do
      visit throughAlias
      enter true target
  | .scalar line text plain => do
      visit throughAlias
      pure (.scalar line text plain, throughAlias)
  | .sequence line items => do
      visit throughAlias
      pure (.sequence line items, throughAlias)
  | .mapping line entries => do
      visit throughAlias
      pure (.mapping line entries, throughAlias)

/-- The text of a scalar, if there is a value. -/
def text? (throughAlias : Bool) (node : Node) : Shaping (Option String) := do
  let (node, _) ← enter throughAlias node
  match node with
  | .scalar line text plain =>
      pure (if Node.isNull (.scalar line text plain) then none else some text)
  | _ =>
      misshapen
      pure none

/-- A text, which is empty if there is no value. -/
def text (throughAlias : Bool) (node : Node) : Shaping String := do
  pure ((← text? throughAlias node).getD "")

/-- The items of a sequence, if there is a value, and whether they are reached through an alias. -/
def items? (throughAlias : Bool) (node : Node) : Shaping (Option (List Node) × Bool) := do
  let (node, throughAlias) ← enter throughAlias node
  match node with
  | .sequence _ items => pure (some items, throughAlias)
  | other =>
      if !other.isNull then misshapen
      pure (none, throughAlias)

/-- The entries of a mapping, if there is a value, and whether they are reached through an alias. No
two keys may be written alike. -/
def entries? (throughAlias : Bool) (node : Node) :
    Shaping (Option (List (Node × Node)) × Bool) := do
  let (node, throughAlias) ← enter throughAlias node
  match node with
  | .mapping _ entries =>
      if keysDistinct entries then pure (some entries, throughAlias)
      else
        misshapen
        pure (none, throughAlias)
  | other =>
      if !other.isNull then misshapen
      pure (none, throughAlias)

/-- How the value of a key is taken over into a record, or none for a key that means nothing. -/
abbrev FieldReader (α : Type) := String → Option (Bool → Node → α → Shaping α)

/-- Takes over the entries of a mapping into a record. A key that means something may be given once;
`given` lists those that were. Entries without a key are passed over. -/
def fields {α : Type} (reader : FieldReader α) (throughAlias : Bool) :
    (given : List String) → α → List (Node × Node) → Shaping α
  | _, record, [] => pure record
  | given, record, (key, value) :: rest => do
      match ← text? throughAlias key with
      | none => fields reader throughAlias given record rest
      | some name =>
          match reader name with
          | none => fields reader throughAlias given record rest
          | some take =>
              if given.contains name then
                misshapen
                fields reader throughAlias given record rest
              else
                let record ← take throughAlias value record
                fields reader throughAlias (name :: given) record rest

/-- The texts of a list, from which missing items are dropped. -/
def texts (throughAlias : Bool) : List Node → Shaping (List String)
  | [] => pure []
  | item :: rest => do
      let text ← text? throughAlias item
      let further ← texts throughAlias rest
      pure (text.toList ++ further)

/-- The texts of the keys and values of a mapping. Entries without a key are passed over, and a
missing value is an empty text. -/
def textEntries (throughAlias : Bool) (map : NameMap String) :
    List (Node × Node) → Shaping (NameMap String)
  | [] => pure map
  | (key, value) :: rest => do
      match ← text? throughAlias key with
      | none => textEntries throughAlias map rest
      | some name =>
          let text ← text throughAlias value
          textEntries throughAlias (map.insert name text) rest

/-- A mapping from texts to texts. -/
def textMap (throughAlias : Bool) (node : Node) : Shaping (NameMap String) := do
  let (entries, throughAlias) ← entries? throughAlias node
  textEntries throughAlias NameMap.empty (entries.getD [])

/-- Visits nodes that are read later. -/
def visitEach (throughAlias : Bool) : List Node → Shaping Unit
  | [] => pure ()
  | _ :: rest => do
      visit throughAlias
      visitEach throughAlias rest

/-- A list of nodes that are read later. -/
def nodes (throughAlias : Bool) (node : Node) : Shaping (List Node) := do
  let (items, throughAlias) ← items? throughAlias node
  visitEach throughAlias (items.getD [])
  pure (items.getD [])

/-- The entries of an expectation. -/
def expectationField : FieldReader Expectation
  | "error" => some fun throughAlias node record => do
      pure { record with fault := ← text throughAlias node }
  | "types" => some fun throughAlias node record => do
      let (items, throughAlias) ← items? throughAlias node
      match items with
      | none => pure { record with types := none }
      | some items => pure { record with types := some (← texts throughAlias items) }
  | "subst" => some fun throughAlias node record => do
      pure { record with assigned := ← textMap throughAlias node }
  | "coeffects" => some fun throughAlias node record => do
      pure { record with coeffects := ← textMap throughAlias node }
  | _ => none

/-- An expectation, if there is a value. -/
def expectation? (throughAlias : Bool) (node : Node) : Shaping (Option Expectation) := do
  let (entries, throughAlias) ← entries? throughAlias node
  match entries with
  | none => pure none
  | some entries =>
      let nothing : Expectation :=
        { fault := "", types := none, assigned := NameMap.empty, coeffects := NameMap.empty }
      pure (some (← fields expectationField throughAlias [] nothing entries))

end Shaping

/-- A problem of which the terms have not been read yet. -/
structure Outline where
  name : String
  analysis : String
  constraints : List Node
  shown : List Node
  expectation : Option Expectation

namespace Shaping

/-- The entries of a problem. -/
def outlineField : FieldReader Outline
  | "name" => some fun throughAlias node record => do
      pure { record with name := ← text throughAlias node }
  | "analysis" => some fun throughAlias node record => do
      pure { record with analysis := ← text throughAlias node }
  | "constraints" => some fun throughAlias node record => do
      pure { record with constraints := ← nodes throughAlias node }
  | "show" => some fun throughAlias node record => do
      pure { record with shown := ← nodes throughAlias node }
  | "expect" => some fun throughAlias node record => do
      pure { record with expectation := ← expectation? throughAlias node }
  | _ => none

/-- The problems of a list, from which missing items are dropped. -/
def outlines (throughAlias : Bool) : List Node → Shaping (List Outline)
  | [] => pure []
  | item :: rest => do
      let (entries, inside) ← entries? throughAlias item
      let blank : Outline :=
        { name := "", analysis := "", constraints := [], shown := [], expectation := none }
      let outline ←
        match entries with
        | none => pure none
        | some entries => some <$> fields outlineField inside [] blank entries
      let further ← outlines throughAlias rest
      pure (outline.toList ++ further)

/-- The entries of a problem file. -/
def fileField : FieldReader (List Outline)
  | "problems" => some fun throughAlias node _ => do
      let (items, throughAlias) ← items? throughAlias node
      outlines throughAlias (items.getD [])
  | _ => none

/-- A problem file. The document counts as a node around its root. -/
def file (root : Node) : Shaping (List Outline) := do
  visit false
  let (entries, throughAlias) ← entries? false root
  fields fileField throughAlias [] [] (entries.getD [])

end Shaping

/-- Reads the terms of a list one after the other, keeping count of their places. -/
def readEach {α : Type} (read : Node → Except TermFault α) (place : Nat) :
    List Node → Except (Nat × TermFault) (List α)
  | [] => .ok []
  | node :: rest =>
      match read node with
      | .error fault => .error (place, fault)
      | .ok value => (readEach read (place + 1) rest).map (fun values => value :: values)

/-- Reads the analysis and the terms of a problem. -/
def Outline.read (outline : Outline) : Except ProblemFault Problem := do
  if outline.analysis.isEmpty then throw .analysisMissing
  match Analysis.ofName? outline.analysis with
  | none => throw (.analysisUnknown outline.analysis)
  | some analysis =>
      let constraints ← (readEach decodeConstraint 0 outline.constraints).mapError
        (fun fault => .inConstraint fault.1 fault.2)
      let shown ← (readEach decodeType 0 outline.shown).mapError
        (fun fault => .inShown fault.1 fault.2)
      pure { name := outline.name, analysis, constraints, shown,
             expectation := outline.expectation }

/-- Reads the problems of a list one after the other, keeping count of their places. -/
def readOutlines (place : Nat) : List Outline → Except FileFault (List Problem)
  | [] => .ok []
  | outline :: rest => do
      if outline.name.isEmpty then throw (.unnamed place)
      let problem ← outline.read.mapError (.inProblem outline.name)
      let problems ← readOutlines (place + 1) rest
      pure (problem :: problems)

/-- Reads a problem file. -/
def parse (text : String) : Except FileFault (List Problem) :=
  match Yaml.parse text with
  | .malformed => .error .malformed
  | .empty => .ok []
  | .root node =>
      match Shaping.file node Survey.start with
      | none => .error .malformed
      | some (outlines, survey) =>
          if survey.misshapen then .error .misshapen else readOutlines 0 outlines

end CoeffectSolver.Problem
