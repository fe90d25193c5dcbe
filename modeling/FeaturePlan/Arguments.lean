/-
The command line.

The arguments name one file and may set options, each at most once and in any order.  They are read
**from left to right**: the first mistake ends the reading, and so does a request for help or for
the version, whatever comes after it.  After `--` every argument is a file name.

Main definitions: `Request`, `ArgumentError`, `Request.ofArguments`.
-/

import FeaturePlan.Settings
import FeaturePlan.Text.Search

set_option relaxedAutoImplicit false
set_option autoImplicit false

namespace FeaturePlan

/-! ### Options -/

/-- The options that take a value. -/
inductive ValueOption where
  | first
  | last
  | format
  | heuristic
  | level
deriving Repr, DecidableEq

namespace ValueOption

/-- All options that take a value. -/
def all : List ValueOption := [first, last, format, heuristic, level]

/-- The name of an option on the command line, without its dashes. -/
def name : ValueOption → String
  | first => "start"
  | last => "end"
  | format => "format"
  | heuristic => "heuristic"
  | level => "log-level"

end ValueOption

/-- What the command line asks for. -/
inductive Request where
  | help
  | version
  /-- A plan for the lines of a file from `first` on, to `last` or to the end. -/
  | plan (file : String) (first : Nat) (last : Option Nat) (overrides : Overrides)
deriving Repr, DecidableEq

/-- A mistake in the arguments. -/
inductive ArgumentError where
  | unknownOption (name : String)
  | repeatedOption (option : ValueOption)
  | missingValue (option : ValueOption)
  | invalidValue (option : ValueOption) (value : String)
  /-- A value for an option that takes none. -/
  | needlessValue (name : String)
  | unexpectedArgument (argument : String)
  | emptyFileName
  | missingFile
deriving Repr, DecidableEq

/-- The complaint about a mistake in the arguments. -/
def ArgumentError.message : ArgumentError → String
  | unknownOption name => "unexpected argument '" ++ name ++ "'"
  | repeatedOption option => "the option '--" ++ option.name ++ "' cannot be used multiple times"
  | missingValue option => "the option '--" ++ option.name ++ "' needs a value"
  | invalidValue option value =>
    "invalid value '" ++ value ++ "' for the option '--" ++ option.name ++ "'"
  | needlessValue name => "the option '" ++ name ++ "' takes no value"
  | unexpectedArgument argument => "unexpected argument '" ++ argument ++ "'"
  | emptyFileName => "the name of the feature file is empty"
  | missingFile => "no feature file is given"

/-! ### Values -/

/-- The number that some decimal digits write, counted on from `sofar`. -/
def digitsValue? (sofar : Nat) : List Char → Option Nat
  | [] => some sofar
  | c :: rest =>
    if c.isDigit then digitsValue? (sofar * 10 + (c.toNat - '0'.toNat)) rest else none

/-- The first number that is too large for a line. -/
def lineLimit : Nat := UInt64.size

/-- The line number that a text writes: decimal digits, with a plus sign or without. -/
def lineNumber? (text : String) : Option Nat :=
  let digits := match text.toList with
    | '+' :: rest => rest
    | cs => cs
  if digits.isEmpty then none else (digitsValue? 0 digits).filter (· < lineLimit)

/-- What the arguments read so far have set. -/
structure Reading where
  file : Option String := none
  first : Option Nat := none
  last : Option Nat := none
  overrides : Overrides := {}
deriving Repr, DecidableEq

namespace Reading

/-- Whether an option has been set. -/
def isSet (reading : Reading) : ValueOption → Bool
  | .first => reading.first.isSome
  | .last => reading.last.isSome
  | .format => reading.overrides.format.isSome
  | .heuristic => reading.overrides.heuristic.isSome
  | .level => reading.overrides.level.isSome

/-- Sets an option to the value that a text writes, if it writes one. -/
def assign? (reading : Reading) (option : ValueOption) (text : String) : Option Reading :=
  match option with
  | .first => (lineNumber? text).map fun line => { reading with first := some line }
  | .last => (lineNumber? text).map fun line => { reading with last := some line }
  | .format => (PlanFormat.ofName text).toOption.map fun format =>
    { reading with overrides := { reading.overrides with format := some format } }
  | .heuristic => (Heuristic.ofName text).toOption.map fun heuristic =>
    { reading with overrides := { reading.overrides with heuristic := some heuristic } }
  | .level => (Level.ofName text).toOption.map fun level =>
    { reading with overrides := { reading.overrides with level := some level } }

/-- Sets an option that has not been set. -/
def set (reading : Reading) (option : ValueOption) (text : String) :
    Except ArgumentError Reading :=
  if reading.isSet option then .error (.repeatedOption option)
  else
    match reading.assign? option text with
    | some updated => .ok updated
    | none => .error (.invalidValue option text)

/-- Takes an argument as the name of the file. -/
def setFile (reading : Reading) (argument : String) : Except ArgumentError Reading :=
  if reading.file.isSome then .error (.unexpectedArgument argument)
  else if argument.isEmpty then .error .emptyFileName
  else .ok { reading with file := some argument }

/-- The request once all arguments are read. -/
def finish (reading : Reading) : Except ArgumentError Request :=
  match reading.file with
  | none => .error .missingFile
  | some file => .ok (.plan file (reading.first.getD 1) reading.last reading.overrides)

end Reading

/-! ### Reading the arguments -/

/-- An argument by its form. -/
inductive Form where
  /-- A plain argument: a value or the name of a file. -/
  | plain
  /-- The two dashes after which all arguments are plain. -/
  | separator
  /-- An option by its name, perhaps with a value behind an equals sign. -/
  | long (name : List Char) (value : Option (List Char))
  /-- A dash with letters. -/
  | short (letters : List Char)

/-- A text cut at its first equals sign. -/
def cutAtEquals : List Char → List Char × Option (List Char)
  | [] => ([], none)
  | '=' :: rest => ([], some rest)
  | c :: rest =>
    let (name, value) := cutAtEquals rest
    (c :: name, value)

/-- The form of an argument. -/
def Form.ofArgument (argument : String) : Form :=
  match argument.toList with
  | ['-', '-'] => separator
  | '-' :: '-' :: text =>
    let (name, value) := cutAtEquals text
    long name value
  | '-' :: letter :: letters => short (letter :: letters)
  | _ => plain

/-- Reads arguments none of which is an option. -/
def readFiles (reading : Reading) : List String → Except ArgumentError Request
  | [] => reading.finish
  | argument :: rest =>
    match reading.setFile argument with
    | .ok updated => readFiles updated rest
    | .error e => .error e

/-- Whether an argument can be the value of the option before it. -/
def isValue (argument : String) : Bool :=
  match Form.ofArgument argument with
  | .plain => true
  | _ => false

/-- The option that takes a value and has the given name. -/
def ValueOption.ofName? (name : List Char) : Option ValueOption :=
  all.find? fun option => option.name.toList == name

/-- The request that a flag makes by its name. -/
def flagNamed? (name : List Char) : Option Request :=
  if name = "help".toList then some .help
  else if name = "version".toList then some .version
  else none

/-- The request that a flag makes by its letter. -/
def flagLettered? (letter : Char) : Option Request :=
  if letter = 'h' then some .help else if letter = 'V' then some .version else none

/-- Reads arguments from left to right. -/
def readArguments (reading : Reading) : List String → Except ArgumentError Request
  | [] => reading.finish
  | argument :: rest =>
    match Form.ofArgument argument with
    | .plain =>
      match reading.setFile argument with
      | .ok updated => readArguments updated rest
      | .error e => .error e
    | .separator => readFiles reading rest
    | .short letters =>
      match letters.head?.bind flagLettered? with
      | some request => .ok request
      | none => .error (.unknownOption argument)
    | .long name attached =>
      match ValueOption.ofName? name, attached, rest with
      | some option, some value, rest =>
        match reading.set option (String.ofList value) with
        | .ok updated => readArguments updated rest
        | .error e => .error e
      | some option, none, value :: others =>
        if isValue value then
          match reading.set option value with
          | .ok updated => readArguments updated others
          | .error e => .error e
        else .error (.missingValue option)
      | some option, none, [] => .error (.missingValue option)
      | none, none, _ =>
        match flagNamed? name with
        | some request => .ok request
        | none => .error (.unknownOption argument)
      | none, some _, _ =>
        match flagNamed? name with
        | some _ => .error (.needlessValue argument)
        | none => .error (.unknownOption argument)

/-- The request that the arguments of a command line make. -/
def Request.ofArguments (arguments : List String) : Except ArgumentError Request :=
  readArguments {} arguments

end FeaturePlan
