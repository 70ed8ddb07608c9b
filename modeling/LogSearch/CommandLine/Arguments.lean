import LogSearch.CommandLine.Options
import LogSearch.Text.Numeral
import LogSearch.Text.Split
import LogSearch.Time.Reader

/-!
# Reading the command line

Arguments are taken from left to right.  An option behind two dashes is written out in full; behind
one dash stand letters, and the first letter of an option with a value ends the group.  The value
follows in the same argument, perhaps behind an equals sign, or is the next argument, unless that
begins with a dash.  Everything else is a word of the query, and behind a lone `--` everything is.

A value in an argument of its own is put aside until something else is taken or the arguments end:
only then is it looked at.  So an unknown option behind a bad value is complained about first.

## What is here

* `ArgumentFault` — why a command line is not carried out, with its `message` and `exitCode`;
* `Reading.take` — takes an argument;
* `Options.parse` — what a command line says, or the first fault.
-/

set_option autoImplicit false
namespace LogSearch

open Time (Timestamp)

/-! ## Faults -/

/-- Why a value does not fit an option. -/
inductive ValueFault
  | notNumber (fault : Text.NumeralFault)
  /-- A number that is no size of a page. -/
  | outOfRange (value : Int)
  /-- A text that is no time; the fault in words. -/
  | notTime (reason : String)
  deriving DecidableEq, Repr

/-- The fault in words. -/
def ValueFault.message : ValueFault → String
  | .notNumber fault => fault.message
  | .outOfRange value => s!"{value} is not in 1..={Options.maxPageSize}"
  | .notTime reason => reason

/-- Why a command line is not carried out. -/
inductive ArgumentFault
  /-- It asks for a description of the program. -/
  | helpWanted
  /-- It asks for the version of the program. -/
  | versionWanted
  /-- An option that is none, as it was written. -/
  | unknown (typed : String)
  /-- An option without its value. -/
  | missingValue (setting : Setting)
  /-- A value that does not fit. -/
  | badValue (setting : Setting) (value : String) (fault : ValueFault)
  /-- An option that may come once came again. -/
  | repeatedSetting (setting : Setting)
  | repeatedSwitch (switch : Switch)
  /-- An option without a value has one. -/
  | unwantedValue (switch : Switch) (value : String)
  /-- There is no query. -/
  | missingQuery
  deriving DecidableEq, Repr

/-- The fault in words. -/
def ArgumentFault.message : ArgumentFault → String
  | .helpWanted => "usage: elastic-log [OPTIONS] <QUERY>..."
  | .versionWanted => "elastic-log 0.5.0"
  | .unknown typed => s!"unexpected argument '{typed}'"
  | .missingValue setting => s!"a value is required for '{setting.usage}'"
  | .badValue setting value fault =>
    s!"invalid value '{value}' for '{setting.usage}': {fault.message}"
  | .repeatedSetting setting => s!"'{setting.usage}' cannot be used multiple times"
  | .repeatedSwitch switch => s!"'{switch.usage}' cannot be used multiple times"
  | .unwantedValue switch value => s!"unexpected value '{value}' for '{switch.usage}'"
  | .missingQuery => "a query is required: <QUERY>..."

/-- The exit code of a program that does not carry out its command line. -/
def ArgumentFault.exitCode : ArgumentFault → Nat
  | .helpWanted => 0
  | .versionWanted => 0
  | _ => 2

/-! ## What has been read -/

/-- What has been read of a command line. -/
structure Reading where
  /-- The words of the query, the last one first. -/
  words : List String := []
  pageSize : Option Nat := none
  index : Option String := none
  start : Option Timestamp := none
  finish : Option Timestamp := none
  source : List String := []
  timestampField : Option String := none
  switches : List Switch := []
  /-- The option that was met last, with its value if it has been met too, until it is looked at. -/
  pending : Option (Setting × Option String) := none
  /-- Whether everything from here on is a word of the query. -/
  wordsOnly : Bool := false

namespace Reading

/-- Whether an option that may come once has come. -/
def has (reading : Reading) : Setting → Bool
  | .pageSize => reading.pageSize.isSome
  | .index => reading.index.isSome
  | .start => reading.start.isSome
  | .finish => reading.finish.isSome
  | .source => false
  | .timestampField => reading.timestampField.isSome

/-- The size of a page that a text gives. -/
def readPageSize (text : String) : Except ValueFault Nat :=
  match Text.readInteger text.toList with
  | .error fault => .error (.notNumber fault)
  | .ok n => if 1 ≤ n && n ≤ Options.maxPageSize then .ok n.toNat else .error (.outOfRange n)

/-- The time that a text gives. -/
def readTime (text : String) : Except ValueFault Timestamp :=
  (Time.parseTimestamp text).mapError .notTime

/-- Stores the value of an option. -/
def store (reading : Reading) (setting : Setting) (value : String) :
    Except ArgumentFault Reading := do
  if reading.has setting then throw (.repeatedSetting setting)
  match setting with
  | .pageSize =>
    let n ← (readPageSize value).mapError (.badValue setting value)
    return { reading with pageSize := some n }
  | .index => return { reading with index := some value }
  | .start =>
    let t ← (readTime value).mapError (.badValue setting value)
    return { reading with start := some t }
  | .finish =>
    let t ← (readTime value).mapError (.badValue setting value)
    return { reading with finish := some t }
  | .source =>
    let names := (Text.splitAt ',' value.toList).map String.ofList
    return { reading with source := reading.source ++ names }
  | .timestampField => return { reading with timestampField := some value }

/-- Looks at the option that was put aside. -/
def settle (reading : Reading) : Except ArgumentFault Reading :=
  match reading.pending with
  | none => .ok reading
  | some (setting, none) => .error (.missingValue setting)
  | some (setting, some value) => { reading with pending := none }.store setting value

/-- Takes a word of the query. -/
def takeWord (reading : Reading) (word : String) : Except ArgumentFault Reading := do
  let reading ← reading.settle
  return { reading with words := word :: reading.words }

/-- Takes an option without a value. -/
def takeSwitch (reading : Reading) (switch : Switch) : Except ArgumentFault Reading := do
  let reading ← reading.settle
  match switch with
  | .help => throw .helpWanted
  | .version => throw .versionWanted
  | switch =>
    if switch ∈ reading.switches then throw (.repeatedSwitch switch)
    return { reading with switches := switch :: reading.switches }

/-- Takes an option with a value, or puts it aside until its value is met. -/
def takeSetting (reading : Reading) (setting : Setting) (attached : Option String) :
    Except ArgumentFault Reading := do
  let reading ← reading.settle
  match attached with
  | some value => reading.store setting value
  | none => return { reading with pending := some (setting, none) }

/-- Takes an argument behind two dashes. -/
def takeLong (reading : Reading) (cs : List Char) : Except ArgumentFault Reading :=
  let name := String.ofList (cs.takeWhile (· != '='))
  let attached : Option String := match cs.dropWhile (· != '=') with
    | [] => none
    | _ :: value => some (String.ofList value)
  match Setting.all.find? (·.name == name), Switch.all.find? (·.name == name) with
  | some setting, _ => reading.takeSetting setting attached
  | none, some switch =>
    match attached with
    | some value => .error (.unwantedValue switch value)
    | none => reading.takeSwitch switch
  | none, none => .error (.unknown ("--" ++ name))

/-- Takes letters behind one dash. -/
def takeLetters (reading : Reading) : List Char → Except ArgumentFault Reading
  | [] => .ok reading
  | c :: rest =>
    match Setting.all.find? (·.letter? == some c), Switch.all.find? (·.letter? == some c) with
    | some setting, _ =>
      let attached : Option String := match rest with
        | [] => none
        | '=' :: value => some (String.ofList value)
        | value => some (String.ofList value)
      reading.takeSetting setting attached
    | none, some switch => do takeLetters (← reading.takeSwitch switch) rest
    | none, none => .error (.unknown (String.ofList ['-', c]))

/-- Takes an argument that is no option: the value that an option waits for, or a word. -/
def takePlain (reading : Reading) (argument : String) : Except ArgumentFault Reading :=
  match reading.pending with
  | some (setting, none) => .ok { reading with pending := some (setting, some argument) }
  | _ => reading.takeWord argument

/-- Takes an argument. -/
def take (reading : Reading) (argument : String) : Except ArgumentFault Reading :=
  if reading.wordsOnly then reading.takeWord argument
  else
    match argument.toList with
    | ['-', '-'] => .ok { reading with wordsOnly := true }
    | '-' :: '-' :: rest => reading.takeLong rest
    | '-' :: c :: rest => reading.takeLetters (c :: rest)
    | _ => reading.takePlain argument

/-- What the command line says, once all of it has been read. -/
def finishUp (reading : Reading) : Except ArgumentFault Options := do
  let reading ← reading.settle
  if reading.words.isEmpty then throw .missingQuery
  return {
    query := reading.words.reverse
    pageSize := reading.pageSize.getD Options.defaultPageSize
    index := reading.index.getD Options.defaultIndex
    start := reading.start
    finish := reading.finish
    source := reading.source
    timestampField := reading.timestampField.getD Options.defaultTimestampField
    legacySpecifiers := .legacySpecifiers ∈ reading.switches
    explain := .explain ∈ reading.switches
    verbose := .verbose ∈ reading.switches }

end Reading

/-- What a command line says. -/
def Options.parse (arguments : List String) : Except ArgumentFault Options := do
  let reading ← arguments.foldlM Reading.take {}
  reading.finishUp

end LogSearch
