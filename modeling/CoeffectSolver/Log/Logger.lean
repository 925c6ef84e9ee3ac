import CoeffectSolver.Log.Record

/-!
Loggers that drop records of sections nobody asked for.

Below the level of warnings a record is written only if one of the sections attached to the logger
or given in the record itself is enabled. A section is enabled if it starts with one of a few names.
-/

namespace CoeffectSolver.Log

/-- The starts of the names of enabled sections. -/
def enabledSections : List String := ["inference", "coeffects", "problem"]

/-- Whether a section is enabled. -/
def sectionEnabled (name : String) : Bool :=
  enabledSections.any (fun enabled => enabled.toList.isPrefixOf name.toList)

/-- Whether a key and value name an enabled section. -/
def namesEnabledSection (key value : String) : Bool :=
  key == sectionKey && sectionEnabled value

/-- A logger with attached fields and open groups. -/
structure Logger where
  /-- The open groups, outermost first. -/
  groups : List String
  /-- The fields written with every record. -/
  attached : List Field
  /-- Whether an enabled section is attached. -/
  hasSection : Bool
  deriving DecidableEq, Repr

namespace Logger

/-- The logger without fields and groups. -/
def default : Logger := { groups := [], attached := [], hasSection := false }

/-- A field inside the open groups. -/
def place (logger : Logger) (field : Field) : Field :=
  { field with groups := logger.groups ++ field.groups }

/-- Attaches fields. -/
def attach (logger : Logger) (fields : List Field) : Logger where
  groups := logger.groups
  attached := logger.attached ++ fields.map logger.place
  hasSection := logger.hasSection ||
    fields.any (fun field => namesEnabledSection field.key field.value)

/-- Opens a group. An empty name opens none. -/
def openGroup (logger : Logger) (name : String) : Logger :=
  if name.isEmpty then logger else { logger with groups := logger.groups ++ [name] }

/-- Whether records of a level are written when a threshold is set. -/
def enabled (threshold level : Level) : Bool := decide (threshold ≤ level)

/-- Whether the section of a record lets it pass. -/
def passes (logger : Logger) (record : Record) : Bool :=
  decide (warning ≤ record.level) || logger.hasSection ||
    record.fields.any (fun field => namesEnabledSection field.key field.value)

/-- The line written for a record, if it is written. -/
def write (logger : Logger) (threshold : Level) (record : Record) : Option String :=
  if enabled threshold record.level && logger.passes record then
    some { record with fields := logger.attached ++ record.fields.map logger.place }.line
  else none

end Logger

/-- The lines written for records by the default logger. -/
def lines (threshold : Level) (records : List Record) : List String :=
  records.filterMap (Logger.default.write threshold)

end CoeffectSolver.Log
