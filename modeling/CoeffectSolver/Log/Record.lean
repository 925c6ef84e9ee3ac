import CoeffectSolver.Text.Quoted

/-!
Log records and the lines they are written as.

A line is a sequence of `key=value` items: the level, the message, and then the fields. A key or
value is put between quotes where it could not be read back otherwise.
-/

namespace CoeffectSolver.Log

/-- How severe a record is. Named levels are four apart. -/
abbrev Level := Int

/-- The level of details for tracing. -/
def debug : Level := -4

/-- The level of ordinary events. -/
def info : Level := 0

/-- The level from which records pass every filter. -/
def warning : Level := 4

/-- A named level and the distance from it. -/
def levelText (name : String) (offset : Int) : String :=
  if offset = 0 then name
  else if 0 < offset then name ++ "+" ++ toString offset
  else name ++ toString offset

/-- The name of a level: the nearest name at or below it, with the distance. -/
def levelName (level : Level) : String :=
  if level < 0 then levelText "DEBUG" (level + 4)
  else if level < 4 then levelText "INFO" level
  else if level < 8 then levelText "WARN" (level - 4)
  else levelText "ERROR" (level - 8)

/-- A named item of information, possibly inside groups, outermost first. -/
structure Field where
  groups : List String
  key : String
  value : String
  deriving DecidableEq, Repr

/-- A field in no group. -/
def Field.plain (key value : String) : Field := { groups := [], key, value }

/-- The key under which the part of a program that a record belongs to is given. -/
def sectionKey : String := "section"

/-- Whether a character forces the text it stands in between quotes. -/
def forcesQuotes (character : Char) : Bool :=
  let code := character.toNat
  if code < 0x80 then
    decide (code ≤ 0x20) || character == '=' || character == '"'
  else code == 0xfffd || !Text.isPrintable character

/-- Whether a text has to be put between quotes. -/
def needsQuotes (text : String) : Bool := text.isEmpty || text.toList.any forcesQuotes

/-- A text, between quotes if it has to be. -/
def itemText (text : String) : String := if needsQuotes text then Text.quoted text else text

/-- The names of groups as they stand in front of a key. -/
def groupText (groups : List String) : String :=
  String.join (groups.map (fun group => group ++ "."))

/-- The key of a field with the names of its groups in front, between quotes if a part
needs them. -/
def Field.keyText (field : Field) : String :=
  if field.groups.isEmpty then itemText field.key
  else
    let groups := groupText field.groups
    if needsQuotes groups || needsQuotes field.key then Text.quoted (groups ++ field.key)
    else groups ++ field.key

/-- A field as it stands in a line. -/
def Field.text (field : Field) : String := field.keyText ++ "=" ++ itemText field.value

/-- Whether a field is written; times are left out so that lines are reproducible. -/
def Field.isWritten (field : Field) : Bool := field.key != "time"

/-- An event to be logged. -/
structure Record where
  level : Level
  message : String
  fields : List Field
  deriving DecidableEq, Repr

/-- The line of a record. -/
def Record.line (record : Record) : String :=
  String.intercalate " "
    (["level=" ++ levelName record.level, "msg=" ++ itemText record.message] ++
      (record.fields.filter Field.isWritten).map Field.text)

end CoeffectSolver.Log
