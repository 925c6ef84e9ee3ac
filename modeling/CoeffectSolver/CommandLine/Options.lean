import CoeffectSolver.CommandLine.Integer
import CoeffectSolver.Log.Record

/-!
The options of the command that solves problem files.

Options and paths may be given in any order; after two dashes alone everything is a path.
-/

namespace CoeffectSolver.CommandLine

/-- What a command was told to do. -/
structure Options where
  /-- Whether outcomes are compared with what was expected. -/
  check : Bool
  /-- The level from which records are logged. -/
  logLevel : Int
  /-- The paths of the problem files. -/
  paths : List String
  deriving DecidableEq, Repr

/-- What holds where no option says otherwise. -/
def Options.initial : Options := { check := false, logLevel := Log.warning, paths := [] }

/-- The options there are. -/
inductive Flag where
  | check
  | dump
  | logLevel
  deriving DecidableEq, Repr

namespace Flag

/-- All options. -/
def all : List Flag := [.check, .dump, .logLevel]

/-- The long name of an option. -/
def name : Flag → String
  | .check => "check"
  | .dump => "dump"
  | .logLevel => "log-level"

/-- The option with a long name. -/
def ofName? (name : String) : Option Flag := all.find? (fun flag => flag.name == name)

/-- Whether an option can stand without a value, which then means that it is on. -/
def isSwitch : Flag → Bool
  | .check => true
  | .dump => true
  | .logLevel => false

/-- How an option is referred to in messages. -/
def label : Flag → String
  | .logLevel => "-l, --log-level"
  | flag => "--" ++ flag.name

end Flag

/-- Why arguments are refused. -/
inductive UsageFault where
  | badSyntax (argument : String)
  | unknownFlag (name : String)
  | unknownShorthand (byte : UInt8) (letters : String)
  | valueMissing (argument : String)
  | shorthandValueMissing (letters : String)
  | notBoolean (flag : Flag) (value : String)
  | notInteger (flag : Flag) (value : String) (fault : IntegerFault)
  | noPath
  deriving DecidableEq, Repr

/-- A byte as a character between single quotes. -/
def quotedByte (byte : UInt8) : String :=
  let character := Char.ofNat byte.toNat
  let written :=
    if character == '\'' || character == '\\' then ['\\', character]
    else if Text.isPrintable character then [character]
    else Text.escapeControl character
  "'" ++ String.ofList written ++ "'"

/-- The wording of a refused value. -/
def refusedValue (flag : Flag) (value reader detail : String) : String :=
  "invalid argument " ++ Text.quoted value ++ " for " ++ Text.quoted flag.label ++ " flag: " ++
    reader ++ ": parsing " ++ Text.quoted value ++ ": " ++ detail

/-- The wording of a fault. -/
def UsageFault.message : UsageFault → String
  | .badSyntax argument => "bad flag syntax: " ++ argument
  | .unknownFlag name => "unknown flag: --" ++ name
  | .unknownShorthand byte letters =>
      "unknown shorthand flag: " ++ quotedByte byte ++ " in -" ++ letters
  | .valueMissing argument => "flag needs an argument: " ++ argument
  | .shorthandValueMissing letters => "flag needs an argument: 'l' in -" ++ letters
  | .notBoolean flag value =>
      refusedValue flag value "strconv.ParseBool" IntegerFault.malformed.message
  | .notInteger flag value fault => refusedValue flag value "strconv.ParseInt" fault.message
  | .noPath => "requires at least 1 arg(s), only received 0"

/-- Reads a truth value. -/
def readBoolean? (text : String) : Option Bool :=
  if ["1", "t", "T", "TRUE", "true", "True"].contains text then some true
  else if ["0", "f", "F", "FALSE", "false", "False"].contains text then some false
  else none

/-- Gives an option a value. -/
def Options.set (options : Options) (flag : Flag) (value : String) : Except UsageFault Options :=
  match flag with
  | .check =>
      match readBoolean? value with
      | some check => .ok { options with check }
      | none => .error (.notBoolean flag value)
  | .dump =>
      match readBoolean? value with
      | some _ => .ok options
      | none => .error (.notBoolean flag value)
  | .logLevel =>
      match readInteger value with
      | .ok logLevel => .ok { options with logLevel }
      | .error fault => .error (.notInteger flag value fault)

/-- Splits a text at the first equals sign. -/
def splitValue (characters : List Char) : String × Option String :=
  let name := characters.takeWhile (fun character => character != '=')
  match characters.dropWhile (fun character => character != '=') with
  | [] => (String.ofList name, none)
  | _ :: value => (String.ofList name, some (String.ofList value))

/-- Adds a path. -/
def Options.addPath (options : Options) (path : String) : Options :=
  { options with paths := options.paths ++ [path] }

/-- The start of arguments that belong to a test run and are passed over. -/
def testStart : List Char := ['t', 'e', 's', 't', '.']

/-- An argument as the reader of options sees it. -/
inductive Argument where
  | path (text : String)
  /-- Two dashes alone. -/
  | terminator
  /-- Two dashes and a text that starts like no name. -/
  | nameless (text : String)
  /-- Two dashes and a name, perhaps with a value. -/
  | long (text name : String) (value : Option String)
  /-- One dash and the letter that stands for the log level, perhaps with a value. -/
  | level (value : Option String)
  /-- One dash and other letters. -/
  | letters (text : String)
  | passedOver

/-- The value that follows the letter of an option directly. -/
def attachedValue? : List Char → Option String
  | [] => none
  | '=' :: first :: rest => some (String.ofList (first :: rest))
  | value => some (String.ofList value)

/-- Sorts an argument. -/
def Argument.of (text : String) : Argument :=
  match text.toList with
  | ['-', '-'] => .terminator
  | '-' :: '-' :: '-' :: _ => .nameless text
  | '-' :: '-' :: '=' :: _ => .nameless text
  | '-' :: '-' :: rest =>
      let (name, value) := splitValue rest
      .long text name value
  | '-' :: 'l' :: rest => .level (attachedValue? rest)
  | '-' :: first :: rest =>
      if testStart.isPrefixOf (first :: rest) then .passedOver
      else .letters (String.ofList (first :: rest))
  | _ => .path text

/-- Carries out one argument. An option without a value may take the next argument as one; the
answer tells whether it did. -/
def Options.carryOut (options : Options) (next : Option String) :
    Argument → Except UsageFault (Options × Bool)
  | .path text => .ok (options.addPath text, false)
  | .terminator => .ok (options, false)
  | .passedOver => .ok (options, false)
  | .nameless text => .error (.badSyntax text)
  | .letters text => .error (.unknownShorthand (text.toUTF8.data[0]?.getD 0) text)
  | .level (some value) => (options.set .logLevel value).map (fun options => (options, false))
  | .level none =>
      match next with
      | some value => (options.set .logLevel value).map (fun options => (options, true))
      | none => .error (.shorthandValueMissing "l")
  | .long text name value =>
      match Flag.ofName? name, value with
      | none, _ => .error (.unknownFlag name)
      | some flag, some value => (options.set flag value).map (fun options => (options, false))
      | some flag, none =>
          if flag.isSwitch then (options.set flag "true").map (fun options => (options, false))
          else
            match next with
            | some value => (options.set flag value).map (fun options => (options, true))
            | none => .error (.valueMissing text)

/-- Reads arguments from left to right. -/
def readArguments (options : Options) : List String → Except UsageFault Options
  | [] => .ok options
  | argument :: others =>
      match Argument.of argument with
      | .terminator => .ok (others.foldl Options.addPath options)
      | sorted =>
          match options.carryOut others.head? sorted with
          | .error fault => .error fault
          | .ok (options, takesNext) =>
              match others with
              | [] => .ok options
              | next :: further =>
                  if takesNext then readArguments options further
                  else readArguments options (next :: further)

/-- Reads the arguments of a command, which has to be given a path. -/
def Options.ofArguments (arguments : List String) : Except UsageFault Options := do
  let options ← readArguments Options.initial arguments
  if options.paths.isEmpty then throw .noPath
  pure options

end CoeffectSolver.CommandLine
