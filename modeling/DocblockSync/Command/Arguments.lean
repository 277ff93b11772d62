import DocblockSync.Number.Power
import DocblockSync.Text.Basic

/-! The arguments of the command line. Options are read from left to right; the value of an option is
settled only when the next option or path follows, so an unknown argument is reported before a bad
value in front of it. -/

namespace DocblockSync.Command

open Text

inductive Flag where
  | check
  | fix
  | verbose
  | json
  | noConfig
  | help
  | version
  deriving Repr, DecidableEq

inductive Field where
  | line
  | format
  | config
  | settingsCache
  | importDescriptions
  deriving Repr, DecidableEq

namespace Flag

def name : Flag → String
  | .check => "check"
  | .fix => "fix"
  | .verbose => "verbose"
  | .json => "json"
  | .noConfig => "no-config"
  | .help => "help"
  | .version => "version"

def all : List Flag := [.check, .fix, .verbose, .json, .noConfig, .help, .version]

def ofName? (name : Text) : Option Flag := all.find? fun flag => flag.name.toList == name

def ofLetter? (letter : Char) : Option Flag :=
  if letter == 'v' then some .verbose
  else if letter == 'h' then some .help
  else if letter == 'V' then some .version
  else none

def label (flag : Flag) : Text := "--".toList ++ flag.name.toList

end Flag

namespace Field

def name : Field → String
  | .line => "line"
  | .format => "format"
  | .config => "config"
  | .settingsCache => "settings-cache"
  | .importDescriptions => "import-descriptions"

def valueName : Field → String
  | .line => "N"
  | .format => "FORMAT"
  | .config => "PATH"
  | .settingsCache => "PATH"
  | .importDescriptions => "JSON"

def all : List Field := [.line, .format, .config, .settingsCache, .importDescriptions]

def ofName? (name : Text) : Option Field := all.find? fun field => field.name.toList == name

def label (field : Field) : Text :=
  "--".toList ++ field.name.toList ++ " <".toList ++ field.valueName.toList ++ ['>']

end Field

inductive NumberError where
  | empty
  | invalidDigit
  | tooLarge
  deriving Repr, DecidableEq

def NumberError.message : NumberError → Text
  | .empty => "cannot parse integer from empty string".toList
  | .invalidDigit => "invalid digit found in string".toList
  | .tooLarge => "number too large to fit in target type".toList

inductive UsageError where
  | unexpectedArgument (argument : Text)
  | unexpectedValue (value label : Text)
  | missingValue (label : Text)
  | invalidLine (value : Text) (error : NumberError)
  | repeated (label : Text)
  | conflict (first second : Text)
  | noPaths
  deriving Repr, DecidableEq

def UsageError.message : UsageError → Text
  | .unexpectedArgument argument => "unexpected argument '".toList ++ argument ++ "' found".toList
  | .unexpectedValue value label =>
      "unexpected value '".toList ++ value ++ "' for '".toList ++ label ++
        "' found; no more were expected".toList
  | .missingValue label =>
      "a value is required for '".toList ++ label ++ "' but none was supplied".toList
  | .invalidLine value error =>
      "invalid value '".toList ++ value ++ "' for '".toList ++ Field.line.label ++ "': ".toList ++
        error.message
  | .repeated label =>
      "the argument '".toList ++ label ++ "' cannot be used multiple times".toList
  | .conflict first second =>
      "the argument '".toList ++ first ++ "' cannot be used with '".toList ++ second ++ ['\'']
  | .noPaths => "the following required arguments were not provided:\n  <PATHS>...".toList

def addDigits (value : Nat) : Text → Except NumberError Nat
  | [] => .ok value
  | c :: rest =>
      if !c.isDigit then .error .invalidDigit
      else
        let next := 10 * value + (c.toNat - '0'.toNat)
        if next < twoTo 64 then addDigits next rest else .error .tooLarge

def readNumber (t : Text) : Except NumberError Nat :=
  match t with
  | [] => .error .empty
  | ['+'] => .error .invalidDigit
  | '+' :: digits => addDigits 0 digits
  | digits => addDigits 0 digits

structure Arguments where
  paths : List Text := []
  /-- The options that were given, from first to last. -/
  flags : List Flag := []
  /-- The options with a value that were given, from first to last. -/
  values : List (Field × Text) := []
  line : Option Nat := none
  deriving Repr, DecidableEq

namespace Arguments

def has (arguments : Arguments) (flag : Flag) : Bool := arguments.flags.contains flag

def value? (arguments : Arguments) (field : Field) : Option Text := arguments.values.lookup field

end Arguments

inductive Stop where
  | usage (error : UsageError)
  | help
  | version
  deriving Repr, DecidableEq

inductive Pending where
  | nothing
  | value (field : Field) (given : Option Text)
  | paths (given : List Text)
  deriving Repr, DecidableEq

structure Reading where
  arguments : Arguments := {}
  pending : Pending := .nothing
  /-- The labels of the options so far, from first to last. -/
  labels : List Text := []
  deriving Repr, DecidableEq

namespace Reading

def pathsLabel : Text := "[PATHS]...".toList

def note (reading : Reading) (label : Text) : Except UsageError Reading :=
  if reading.labels.contains label then .error (.repeated label)
  else .ok { reading with labels := reading.labels ++ [label] }

def isPath : Field → Bool
  | .config | .settingsCache | .importDescriptions => true
  | .line | .format => false

def setValue (reading : Reading) (field : Field) (value : Text) : Except UsageError Reading := do
  let reading ← reading.note field.label
  if isPath field && value.isEmpty then throw (.missingValue field.label)
  let line ←
    if field == .line then (readNumber value).map some |>.mapError (.invalidLine value)
    else .ok reading.arguments.line
  return { reading with
    arguments :=
      { reading.arguments with line, values := reading.arguments.values ++ [(field, value)] } }

def settle (reading : Reading) : Except UsageError Reading :=
  match reading.pending with
  | .nothing => .ok reading
  | .value field none => .error (.missingValue field.label)
  | .value field (some value) => { reading with pending := .nothing }.setValue field value
  | .paths given =>
      if given.any List.isEmpty then .error (.missingValue pathsLabel)
      else
        .ok { reading with
          pending := .nothing
          arguments := { reading.arguments with paths := reading.arguments.paths ++ given } }

def readFlag (reading : Reading) (flag : Flag) : Except Stop Reading := do
  let reading ← reading.settle.mapError .usage
  match flag with
  | .help => throw .help
  | .version => throw .version
  | _ =>
      let reading ← (reading.note flag.label).mapError .usage
      return { reading with
        arguments := { reading.arguments with flags := reading.arguments.flags ++ [flag] } }

def readNamed (reading : Reading) (t : Text) : Except Stop Reading := do
  let (name, value) :=
    match splitOnce? ['='] t with
    | some (name, value) => (name, some value)
    | none => (t, none)
  match Flag.ofName? name, Field.ofName? name, value with
  | some flag, _, none => reading.readFlag flag
  | some flag, _, some value => throw (.usage (.unexpectedValue value flag.label))
  | none, some field, some value =>
      let reading ← reading.settle.mapError .usage
      (reading.setValue field value).mapError .usage
  | none, some field, none =>
      let reading ← reading.settle.mapError .usage
      return { reading with pending := .value field none }
  | none, none, _ => throw (.usage (.unexpectedArgument ("--".toList ++ name)))

def readLetters (reading : Reading) : Text → Except Stop Reading
  | [] => .ok reading
  | letter :: rest => do
      match Flag.ofLetter? letter with
      | some flag => (← reading.readFlag flag).readLetters rest
      | none => throw (.usage (.unexpectedArgument ['-', letter]))

def readPath (reading : Reading) (path : Text) : Except UsageError Reading := do
  match reading.pending with
  | .paths given => return { reading with pending := .paths (given ++ [path]) }
  | _ => return { ← reading.settle with pending := .paths [path] }

def readPlain (reading : Reading) (t : Text) : Except UsageError Reading :=
  match reading.pending with
  | .value field none => .ok { reading with pending := .value field (some t) }
  | _ => reading.readPath t

def readArgument (reading : Reading) (t : Text) : Except Stop Reading :=
  match t with
  | '-' :: '-' :: name => reading.readNamed name
  | '-' :: letter :: rest => reading.readLetters (letter :: rest)
  | _ => (reading.readPlain t).mapError .usage

def readAll (reading : Reading) : List Text → Except Stop Reading
  | [] => reading.settle.mapError .usage
  | t :: rest => do
      if t == "--".toList then
        (← (rest.foldlM readPath reading).mapError .usage).settle.mapError .usage
      else (← reading.readArgument t).readAll rest

def rival? (label : Text) : Option Text :=
  [(Flag.check.label, Flag.fix.label), (Flag.fix.label, Flag.check.label),
    (Flag.json.label, Field.format.label), (Field.format.label, Flag.json.label)].lookup label

def conflict? (reading : Reading) : Option UsageError :=
  reading.labels.findSome? fun label =>
    match rival? label with
    | some rival => if reading.labels.contains rival then some (.conflict label rival) else none
    | none => none

end Reading

def Arguments.read (given : List Text) : Except Stop Arguments := do
  let reading ← Reading.readAll {} given
  match reading.conflict? with
  | some error => throw (.usage error)
  | none =>
      let arguments := reading.arguments
      if arguments.paths.isEmpty && (arguments.value? .importDescriptions).isNone then
        throw (.usage .noPaths)
      return arguments

end DocblockSync.Command
