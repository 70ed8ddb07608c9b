import LogSearch.Time.Timestamp

/-!
# What the command line says

The program takes one query, or several specifiers, and options for everything else.

## What is here

* `Setting` — the options that take a value; `Switch` — those that do not;
* `Options` — what a command line says, with the defaults for what it does not say.
-/

set_option autoImplicit false
namespace LogSearch

open Time (Timestamp)

/-- An option that takes a value. -/
inductive Setting
  | pageSize
  | index
  | start
  | finish
  | source
  | timestampField
  deriving DecidableEq, Repr

namespace Setting

/-- The name behind two dashes. -/
def name : Setting → String
  | .pageSize => "page-size"
  | .index => "index"
  | .start => "start"
  | .finish => "end"
  | .source => "source"
  | .timestampField => "timestamp-field"

/-- The letter behind one dash. -/
def letter? : Setting → Option Char
  | .pageSize => some 'p'
  | .index => some 'i'
  | .start => some 's'
  | .finish => some 'e'
  | .source => none
  | .timestampField => some 't'

/-- The name of the value in descriptions. -/
def valueName : Setting → String
  | .pageSize => "PAGE_SIZE"
  | .index => "INDEX"
  | .start => "START"
  | .finish => "END"
  | .source => "SOURCE"
  | .timestampField => "TIMESTAMP_FIELD"

/-- The option with its value as it is described. -/
def usage (setting : Setting) : String := s!"--{setting.name} <{setting.valueName}>"

/-- All options that take a value. -/
def all : List Setting := [.pageSize, .index, .start, .finish, .source, .timestampField]

end Setting

/-- An option without a value. -/
inductive Switch
  /-- The arguments are specifiers. -/
  | legacySpecifiers
  /-- Say what would be done instead of doing it. -/
  | explain
  /-- Write more to the log. -/
  | verbose
  /-- Describe the program. -/
  | help
  /-- Give the version of the program. -/
  | version
  deriving DecidableEq, Repr

namespace Switch

/-- The name behind two dashes. -/
def name : Switch → String
  | .legacySpecifiers => "legacy-specifiers"
  | .explain => "explain"
  | .verbose => "verbose"
  | .help => "help"
  | .version => "version"

/-- The letter behind one dash. -/
def letter? : Switch → Option Char
  | .legacySpecifiers => none
  | .explain => none
  | .verbose => some 'v'
  | .help => some 'h'
  | .version => some 'V'

/-- The option as it is described. -/
def usage (switch : Switch) : String := "--" ++ switch.name

/-- All options without a value. -/
def all : List Switch := [.legacySpecifiers, .explain, .verbose, .help, .version]

end Switch

/-- What a command line says. -/
structure Options where
  /-- The query, or the specifiers. -/
  query : List String
  /-- The number of hits of a page. -/
  pageSize : Nat
  index : String
  start : Option Timestamp
  finish : Option Timestamp
  /-- The fields of a document to return; all of them if none is named. -/
  source : List String
  timestampField : String
  legacySpecifiers : Bool
  explain : Bool
  verbose : Bool
  deriving DecidableEq, Repr

namespace Options

/-- The number of hits of a page unless told otherwise. -/
def defaultPageSize : Nat := 2000

/-- The largest number of hits of a page. -/
def maxPageSize : Nat := 10000

/-- The index that is searched unless told otherwise. -/
def defaultIndex : String := "filebeat-*"

/-- The field that holds the time of a document unless told otherwise. -/
def defaultTimestampField : String := "@timestamp"

end Options

end LogSearch
