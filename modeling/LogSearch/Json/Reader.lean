import LogSearch.Json.Numeral

/-!
# Reading documents

A reader is a function from the unread text to a result and the text behind it.  It stops at the
first problem from left to right, so a text that is no JSON at its end can still be complained about
for what it says at its start.

Loops over items and fields are given the length of the unread text as fuel; each round reads at
least one character, so it never runs out.  Nesting is limited by `maxNesting` and needs no fuel of
its own; what nobody wants may be nested without limit and takes the length of the text instead.

## What is here

* `readItems`, `readFields` — the loops over the items of an array and the fields of an object, each
  with a reader for what stands in it;
* `readValue` — any document, its fields in written order;
* `skipValue` — what follows a value that nobody wants;
* `readText`, `readNatural`, `readFlag`, `readOptional`, `readList` — values of one kind, which
  complain about any other by name;
* `decode` — a text that is one document and nothing else.
-/

set_option autoImplicit false
namespace LogSearch.Json

/-- A reader: from the unread text to a result and what follows it. -/
abbrev Reader (α : Type) := List Char → Except Stop (α × List Char)

/-- The largest depth of nested arrays and objects, plus one. -/
def maxNesting : Nat := 128

/-- Blanks between the tokens of a document. -/
def isSpace (c : Char) : Bool := c == ' ' || c == '\n' || c == '\t' || c == '\r'

/-- A text less the blanks it starts with. -/
def dropSpace (cs : List Char) : List Char := cs.dropWhile isSpace

/-! ## Words -/

/-- Reads the rest of a word whose first letter has been read. -/
def readWord {α : Type} (value : α) : List Char → Reader α
  | [], cs => .ok (value, cs)
  | _ :: _, [] => stop .endInValue []
  | w :: word, c :: cs =>
    if c == w then readWord value word cs else stopAtNext .unknownWord (c :: cs)

/-! ## Items and fields -/

/-- The items up to a closing bracket, and what follows the bracket.  `first` says that no item has
been read. -/
def readItems {α : Type} (item : Reader α) : Nat → Bool → Reader (List α)
  | 0, _, _ => stop .endInList []
  | fuel + 1, first, cs =>
    match dropSpace cs with
    | [] => stop .endInList []
    | ']' :: rest => .ok ([], rest)
    | c :: rest => do
      let cs ←
        if first then pure (c :: rest)
        else if c == ',' then
          match dropSpace rest with
          | [] => stop .endInValue []
          | ']' :: rest => stopAtNext .trailingComma (']' :: rest)
          | rest => pure rest
        else stopAtNext .commaOrBracketDue (c :: rest)
      let (value, cs) ← item cs
      let (values, cs) ← readItems item fuel false cs
      return (value :: values, cs)

/-- Reads the colon behind a field name. -/
def readColon (cs : List Char) : Except Stop (List Char) :=
  match dropSpace cs with
  | [] => stop .endInObject []
  | ':' :: rest => .ok rest
  | rest => stopAtNext .colonDue rest

/-- The fields up to a closing brace, and what follows the brace.  `field` adds a field with the
given name to what has been gathered; it starts in front of the colon.  `first` says that no field
has been read. -/
def readFields {σ : Type} (field : σ → String → Reader σ) : Nat → Bool → σ → Reader σ
  | 0, _, _, _ => stop .endInObject []
  | fuel + 1, first, gathered, cs =>
    match dropSpace cs with
    | [] => stop .endInObject []
    | '}' :: rest => .ok (gathered, rest)
    | c :: rest => do
      let cs ←
        if first then
          if c == '"' then pure rest else stopAtNext .nameDue (c :: rest)
        else if c == ',' then
          match dropSpace rest with
          | [] => stop .endInValue []
          | '}' :: rest => stopAtNext .trailingComma ('}' :: rest)
          | '"' :: rest => pure rest
          | rest => stopAtNext .nameDue rest
        else stopAtNext .commaOrBraceDue (c :: rest)
      let (name, cs) ← readString cs
      let (gathered, cs) ← field gathered (String.ofList name) cs
      readFields field fuel false gathered cs

/-! ## Any document -/

/-- A document that may hold `nesting` less one levels of arrays and objects. -/
def readValue : Nat → Reader Json
  | nesting, cs =>
    match dropSpace cs with
    | [] => stop .endInValue []
    | 'n' :: rest => readWord .null ['u', 'l', 'l'] rest
    | 't' :: rest => readWord (.bool true) ['r', 'u', 'e'] rest
    | 'f' :: rest => readWord (.bool false) ['a', 'l', 's', 'e'] rest
    | '"' :: rest => (readString rest).map fun (text, rest) => (.string (String.ofList text), rest)
    | '[' :: rest =>
      match nesting with
      | nesting + 2 =>
        (readItems (readValue (nesting + 1)) (rest.length + 1) true rest).map
          fun (items, rest) => (.array items, rest)
      | _ => stopAtNext .tooDeep ('[' :: rest)
    | '{' :: rest =>
      match nesting with
      | nesting + 2 =>
        let field := fun (fields : List (String × Json)) (name : String) (cs : List Char) => do
          let cs ← readColon cs
          let (value, cs) ← readValue (nesting + 1) cs
          return ((name, value) :: fields, cs)
        (readFields field (rest.length + 1) true [] rest).map
          fun (fields, rest) => (.object fields.reverse, rest)
      | _ => stopAtNext .tooDeep ('{' :: rest)
    | c :: rest =>
      if c == '-' || c.isDigit then
        (readNumber (c :: rest)).map fun (n, rest) => (.number n, rest)
      else stopAtNext .valueDue (c :: rest)

/-! ## What nobody wants -/

/-- Skips the items up to a closing bracket. -/
def skipItems (item : List Char → Except Stop (List Char)) :
    Nat → Bool → List Char → Except Stop (List Char)
  | 0, _, _ => stop .endInList []
  | fuel + 1, first, cs =>
    match dropSpace cs with
    | [] => stop .endInList []
    | ']' :: rest => .ok rest
    | c :: rest => do
      let cs ←
        if first then pure (c :: rest)
        else if c == ',' then pure rest
        else stopAtNext .commaOrBracketDue (c :: rest)
      skipItems item fuel false (← item cs)

/-- Skips the fields up to a closing brace. -/
def skipFields (item : List Char → Except Stop (List Char)) :
    Nat → Bool → List Char → Except Stop (List Char)
  | 0, _, _ => stop .endInObject []
  | fuel + 1, first, cs =>
    match dropSpace cs with
    | [] => stop .endInObject []
    | '}' :: rest => .ok rest
    | c :: rest => do
      let cs ←
        if first then pure (c :: rest)
        else if c == ',' then pure (dropSpace rest)
        else stopAtNext .commaOrBraceDue (c :: rest)
      match cs with
      | [] => stop .endInObject []
      | '"' :: rest => skipFields item fuel false (← item (← readColon (← skipString rest)))
      | cs => stopAtNext .nameDue cs

/-- What follows a value that nobody wants. -/
def skipNested : Nat → List Char → Except Stop (List Char)
  | fuel, cs =>
    match dropSpace cs with
    | [] => stop .endInValue []
    | 'n' :: rest => (readWord () ['u', 'l', 'l'] rest).map (·.2)
    | 't' :: rest => (readWord () ['r', 'u', 'e'] rest).map (·.2)
    | 'f' :: rest => (readWord () ['a', 'l', 's', 'e'] rest).map (·.2)
    | '"' :: rest => skipString rest
    | '[' :: rest =>
      match fuel with
      | fuel + 1 => skipItems (skipNested fuel) (rest.length + 1) true rest
      | 0 => stop .endInList []
    | '{' :: rest =>
      match fuel with
      | fuel + 1 => skipFields (skipNested fuel) (rest.length + 1) true rest
      | 0 => stop .endInObject []
    | c :: rest =>
      if c == '-' || c.isDigit then skipNumber (c :: rest) else stopAtNext .valueDue (c :: rest)

/-- What follows a value that nobody wants, nested as deep as it likes. -/
def skipValue (cs : List Char) : Except Stop (List Char) := skipNested cs.length cs

/-! ## Values of one kind -/

/-- Complains that a value of another kind was `expected`.  What stands there is read if it is a
word, a number or a string, so that the complaint can show it. -/
def wrongKind {α : Type} (expected : String) (cs : List Char) : Except Stop α :=
  match cs with
  | 'n' :: rest => do
    let (_, rest) ← readWord () ['u', 'l', 'l'] rest
    stop (.wrongKind .null expected) rest
  | 't' :: rest => do
    let (_, rest) ← readWord () ['r', 'u', 'e'] rest
    stop (.wrongKind (.bool true) expected) rest
  | 'f' :: rest => do
    let (_, rest) ← readWord () ['a', 'l', 's', 'e'] rest
    stop (.wrongKind (.bool false) expected) rest
  | '"' :: rest => do
    let (text, rest) ← readString rest
    stop (.wrongKind (.string (String.ofList text)) expected) rest
  | '[' :: rest => stop (.wrongKind .array expected) ('[' :: rest)
  | '{' :: rest => stop (.wrongKind .object expected) ('{' :: rest)
  | c :: rest =>
    if c == '-' || c.isDigit then do
      let (value, rest) ← readNumber (c :: rest)
      stop (.wrongKind (.number value) expected) rest
    else stopAtNext .valueDue (c :: rest)
  | [] => stop .endInValue []

/-- A string. -/
def readText : Reader String := fun cs =>
  match dropSpace cs with
  | '"' :: rest => (readString rest).map fun (text, rest) => (String.ofList text, rest)
  | rest => wrongKind "a string" rest

/-- A truth value. -/
def readFlag : Reader Bool := fun cs =>
  match dropSpace cs with
  | 't' :: rest => readWord true ['r', 'u', 'e'] rest
  | 'f' :: rest => readWord false ['a', 'l', 's', 'e'] rest
  | rest => wrongKind "a boolean" rest

/-- A whole number from zero to `bound`, called `kind` in complaints. -/
def readNatural (bound : Nat) (kind : String) : Reader Nat := fun cs =>
  match dropSpace cs with
  | [] => stop .endInValue []
  | c :: rest =>
    if c == '-' || c.isDigit then do
      let (value, rest) ← readNumber (c :: rest)
      match value with
      | .int n =>
        if 0 ≤ n && n ≤ bound then return (n.toNat, rest)
        else stop (.wrongValue (.number value) kind) rest
      | .float _ => stop (.wrongKind (.number value) kind) rest
    else wrongKind kind (c :: rest)

/-- A value that may be `null`. -/
def readOptional {α : Type} (item : Reader α) : Reader (Option α) := fun cs =>
  match dropSpace cs with
  | 'n' :: rest => readWord none ['u', 'l', 'l'] rest
  | rest => (item rest).map fun (value, rest) => (some value, rest)

/-- An array, one level of `nesting` deep. -/
def readList {α : Type} (nesting : Nat) (item : Nat → Reader α) : Reader (List α) := fun cs =>
  match dropSpace cs with
  | '[' :: rest =>
    match nesting with
    | nesting + 2 => readItems (item (nesting + 1)) (rest.length + 1) true rest
    | _ => stopAtNext .tooDeep ('[' :: rest)
  | rest => wrongKind "a sequence" rest

/-! ## Whole texts -/

/-- The place behind the blanks and the closing brace that follow, if one does: complaints about an
object as a whole are put there. -/
def behindBrace (cs : List Char) : List Char :=
  match dropSpace cs with
  | '}' :: rest => rest
  | rest => rest

/-- A text that is what the reader takes, and nothing else but blanks. -/
def decodeWith {α : Type} (reader : Reader α) (text : List Char) : Except Fault α :=
  let result : Except Stop α :=
    match reader text with
    | .ok (value, rest) =>
      match dropSpace rest with
      | [] => .ok value
      | rest => stopAtNext .trailingCharacters rest
    | .error e => .error e
  result.mapError (·.locate text)

/-- The document a text holds, in canonical form. -/
def decode (text : String) : Except Fault Json :=
  (decodeWith (readValue maxNesting) text.toList).map canonical

end LogSearch.Json
