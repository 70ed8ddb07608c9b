import LogSearch.Json.Reader

/-!
# Reading records

A record is an object with known fields.  Fields with other names are skipped, a known field may
come once, and a record may also be written as the array of its fields in their order, the last
ones left out.  Which fields may be missing is for the record to say.

## What is here

* `Slot` — a known field: its name, whether it has been read, and what reads its value;
* `Record` — a record: its name in complaints, its slots, and what is made of them in the end;
* `Record.read` — reads either form of a record.
-/

set_option autoImplicit false
namespace LogSearch.Json

/-- A known field of a record of which `σ` has been read. -/
structure Slot (σ : Type) where
  name : String
  /-- Whether the field has been read. -/
  isSet : σ → Bool
  /-- Reads the value of the field. -/
  read : Nat → σ → Reader σ

/-- A field that is stored by `put` and looked up by `get`. -/
def slot {σ α : Type} (name : String) (get : σ → Option α) (put : α → σ → σ)
    (reader : Nat → Reader α) : Slot σ where
  name := name
  isSet gathered := (get gathered).isSome
  read nesting gathered cs :=
    (reader nesting cs).map fun (value, rest) => (put value gathered, rest)

/-- How a record is read. -/
structure Record (σ α : Type) where
  /-- What the record is called in complaints. -/
  kind : String
  /-- What has been read of a record before its first field. -/
  empty : σ
  slots : List (Slot σ)
  /-- The record, or the name of a field that is missing. -/
  finish : σ → Except String α

namespace Record

variable {σ α : Type}

/-- Complains about a record as a whole, behind its closing brace. -/
def complain {β : Type} (cause : Cause) (cs : List Char) : Except Stop β :=
  stop cause (behindBrace cs)

/-- Reads the colon behind a field name, and the value. -/
def readField (record : Record σ α) (nesting : Nat) (gathered : σ) (name : String) : Reader σ :=
  fun cs =>
    match record.slots.find? (·.name == name) with
    | some slot =>
      if slot.isSet gathered then complain (.duplicateField name) cs
      else do slot.read nesting gathered (← readColon cs)
    | none => do return (gathered, ← skipValue (← readColon cs))

/-- The values of the slots up to the closing bracket of an array, and what follows the bracket. -/
def readSlots (nesting : Nat) : List (Slot σ) → Bool → σ → Reader σ
  | [], _, gathered, cs =>
    match dropSpace cs with
    | [] => stop .endInList []
    | ']' :: rest => .ok (gathered, rest)
    | ',' :: rest =>
      match dropSpace rest with
      | ']' :: rest => stopAtNext .trailingComma (']' :: rest)
      | rest => stopAtNext .trailingCharacters rest
    | rest => stopAtNext .trailingCharacters rest
  | slot :: slots, first, gathered, cs =>
    match dropSpace cs with
    | [] => stop .endInList []
    | ']' :: rest => .ok (gathered, rest)
    | c :: rest => do
      let cs ←
        if first then pure (c :: rest)
        else if c == ',' then
          match dropSpace rest with
          | [] => stop .endInValue []
          | ']' :: rest => stopAtNext .trailingComma (']' :: rest)
          | rest => pure rest
        else stopAtNext .commaOrBracketDue (c :: rest)
      let (gathered, cs) ← slot.read nesting gathered cs
      readSlots nesting slots false gathered cs

/-- The length of an array that ends in front of a field. -/
def lengthBefore (record : Record σ α) (name : String) : Nat :=
  (record.slots.takeWhile (·.name != name)).length

/-- Reads a record that may hold `nesting` less one levels of arrays and objects. -/
def read (record : Record σ α) (nesting : Nat) : Reader α := fun cs =>
  match dropSpace cs with
  | '{' :: rest =>
    match nesting with
    | nesting + 2 => do
      let (gathered, rest) ←
        readFields (record.readField (nesting + 1)) (rest.length + 1) true record.empty rest
      match record.finish gathered with
      | .ok value => return (value, rest)
      | .error name => stop (.missingField name) rest
    | _ => stopAtNext .tooDeep ('{' :: rest)
  | '[' :: rest =>
    match nesting with
    | nesting + 2 => do
      let (gathered, rest) ← readSlots (nesting + 1) record.slots true record.empty rest
      match record.finish gathered with
      | .ok value => return (value, rest)
      | .error name =>
        let size := s!"{record.kind} with {record.slots.length} elements"
        stop (.tooShort (record.lengthBefore name) size) rest
    | _ => stopAtNext .tooDeep ('[' :: rest)
  | rest => wrongKind record.kind rest

end Record

end LogSearch.Json
