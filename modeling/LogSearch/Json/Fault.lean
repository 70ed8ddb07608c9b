import LogSearch.Json.Writer
import LogSearch.Text.Utf8

/-!
# What can be wrong with a JSON text

The reader stops at the first problem it meets from left to right.  A problem is either one of the
text itself (`malformed`, or `truncated` when more text could mend it) or one of what the text says
(`mismatched`: a value of another kind than the one asked for).

## What is here

* `Json.Cause` — what is wrong, its `category` and its `message`;
* `Json.Stop` — a cause with the text that was left unread;
* `Json.Fault` — a cause with its line and column, and `Stop.locate`, which counts them.
-/

set_option autoImplicit false
namespace LogSearch.Json

/-- The kind of value found where another was asked for. -/
inductive Found
  | null
  | bool (value : Bool)
  | number (value : Number)
  | string (value : String)
  | array
  | object
  deriving DecidableEq, Repr

/-- What is wrong with a text. -/
inductive Cause
  /-- The text ends where a value, a list, an object or a string goes on. -/
  | endInValue
  | endInList
  | endInObject
  | endInString
  /-- A field name is not followed by a colon. -/
  | colonDue
  /-- An item or a field is followed by neither a comma nor the closing bracket. -/
  | commaOrBracketDue
  | commaOrBraceDue
  /-- A word starts like `null`, `true` or `false` and is none of them. -/
  | unknownWord
  /-- Something that starts no value. -/
  | valueDue
  /-- A backslash is followed by something that is no escape. -/
  | invalidEscape
  | invalidNumber
  /-- A number with a fraction or an exponent is larger than every double. -/
  | numberOutOfRange
  /-- A control character stands in a string as it is. -/
  | controlCharacter
  /-- A field does not start with a string. -/
  | nameDue
  /-- One half of a surrogate pair is escaped without the other. -/
  | loneSurrogate
  | brokenSurrogatePair
  /-- A comma is followed by the closing bracket. -/
  | trailingComma
  /-- Something follows the end of the value. -/
  | trailingCharacters
  /-- Arrays and objects are nested too deep. -/
  | tooDeep
  /-- A value of another kind. -/
  | wrongKind (found : Found) (expected : String)
  /-- A number that does not fit. -/
  | wrongValue (found : Found) (expected : String)
  /-- A field that must be there is not. -/
  | missingField (name : String)
  /-- A known field comes twice. -/
  | duplicateField (name : String)
  /-- An array in place of an object has too few items. -/
  | tooShort (length : Nat) (expected : String)
  /-- A value that has none of the allowed forms. -/
  | noForm (expected : String)
  deriving DecidableEq, Repr

/-- The three sorts of problems. -/
inductive Category
  /-- The text is not JSON. -/
  | malformed
  /-- The text ends too early. -/
  | truncated
  /-- The text is JSON so far, but not what was asked for. -/
  | mismatched
  deriving DecidableEq, Repr

/-- The sort a cause belongs to. -/
def Cause.category : Cause → Category
  | .endInValue | .endInList | .endInObject | .endInString => .truncated
  | .wrongKind .. | .wrongValue .. | .missingField _ | .duplicateField _ | .tooShort ..
  | .noForm _ => .mismatched
  | _ => .malformed

/-- The value found, in words. -/
def Found.describe : Found → String
  | .null => "null"
  | .bool value => s!"boolean `{value}`"
  | .number (.int value) => s!"integer `{value}`"
  | .number (.float bits) => "floating point `" ++ String.ofList (floatText bits) ++ "`"
  | .string value => "string " ++ Text.quote value
  | .array => "sequence"
  | .object => "map"

/-- The cause in words. -/
def Cause.message : Cause → String
  | .endInValue => "EOF while parsing a value"
  | .endInList => "EOF while parsing a list"
  | .endInObject => "EOF while parsing an object"
  | .endInString => "EOF while parsing a string"
  | .colonDue => "expected `:`"
  | .commaOrBracketDue => "expected `,` or `]`"
  | .commaOrBraceDue => "expected `,` or `\x7d`"
  | .unknownWord => "expected ident"
  | .valueDue => "expected value"
  | .invalidEscape => "invalid escape"
  | .invalidNumber => "invalid number"
  | .numberOutOfRange => "number out of range"
  | .controlCharacter => "control character (\\u0000-\\u001F) found while parsing a string"
  | .nameDue => "key must be a string"
  | .loneSurrogate => "lone leading surrogate in hex escape"
  | .brokenSurrogatePair => "unexpected end of hex escape"
  | .trailingComma => "trailing comma"
  | .trailingCharacters => "trailing characters"
  | .tooDeep => "recursion limit exceeded"
  | .wrongKind found expected => s!"invalid type: {found.describe}, expected {expected}"
  | .wrongValue found expected => s!"invalid value: {found.describe}, expected {expected}"
  | .missingField name => s!"missing field `{name}`"
  | .duplicateField name => s!"duplicate field `{name}`"
  | .tooShort length expected => s!"invalid length {length}, expected {expected}"
  | .noForm expected => s!"the value has no form of {expected}"

/-! ## Places -/

/-- Where the reader stopped: the text it had not read, less the first `beyond` bytes of it. -/
structure Stop where
  cause : Cause
  unread : List Char
  beyond : Nat
  deriving Repr

/-- A cause, with the line it was met on and the number of bytes read of that line. -/
structure Fault where
  cause : Cause
  line : Nat
  column : Nat
  deriving DecidableEq, Repr

/-- The fault in words. -/
def Fault.message (fault : Fault) : String :=
  s!"{fault.cause.message} at line {fault.line} column {fault.column}"

/-- The line and column after one more character. -/
def advance (place : Nat × Nat) (c : Char) : Nat × Nat :=
  if c == '\n' then (place.1 + 1, 0) else (place.1, place.2 + c.utf8Size)

/-- The line and column after some bytes of a text; the last of them may end inside a character. -/
def advanceBytes (place : Nat × Nat) : Nat → List Char → Nat × Nat
  | _, [] => place
  | bytes, c :: rest =>
    if c.utf8Size ≤ bytes then advanceBytes (advance place c) (bytes - c.utf8Size) rest
    else (place.1, place.2 + bytes)

/-- The place in a text where the reader stopped. -/
def Stop.locate (text : List Char) (stop : Stop) : Fault :=
  let read := text.take (text.length - stop.unread.length)
  let place := advanceBytes (read.foldl advance (1, 0)) stop.beyond stop.unread
  ⟨stop.cause, place.1, place.2⟩

end LogSearch.Json
