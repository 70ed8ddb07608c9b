/-!
# JSON values

The documents the library sends, receives and prints.  An object is the list of its fields in their
written order, repeated names included: some documents fix an order of their own.  `canonical`
brings the objects of a value into the order in which stored values are kept, sorted by name with
the last of equal names.

## What is here

* `Json.Number` — an integer of 64 bits, or a double given by its bits;
* `Json` — values, with decidable equality;
* `Json.canonical` — sorted fields without repetition, everywhere in a value.
-/

set_option autoImplicit false
namespace LogSearch

/-- A number of a JSON document. -/
inductive Json.Number
  /-- An integer from `-2^63` to `2^64 - 1`. -/
  | int (value : Int)
  /-- A finite double, by its bits. -/
  | float (bits : UInt64)
  deriving DecidableEq, Repr

/-- A JSON document. -/
inductive Json
  | null
  | bool (value : Bool)
  | number (value : Json.Number)
  | string (value : String)
  | array (items : List Json)
  | object (fields : List (String × Json))
  deriving Repr, Inhabited

namespace Json

/-- A whole number as a document. -/
def ofNat (n : Nat) : Json := .number (.int n)

/-! ## Equality -/

mutual

/-- Decides whether two values are the same. -/
def decideEq : (a b : Json) → Decidable (a = b)
  | .null, b => match b with
    | .null => isTrue rfl
    | .bool _ | .number _ | .string _ | .array _ | .object _ => isFalse nofun
  | .bool x, b => match b with
    | .bool y => decidable_of_iff (x = y) (by simp)
    | .null | .number _ | .string _ | .array _ | .object _ => isFalse nofun
  | .number x, b => match b with
    | .number y => decidable_of_iff (x = y) (by simp)
    | .null | .bool _ | .string _ | .array _ | .object _ => isFalse nofun
  | .string x, b => match b with
    | .string y => decidable_of_iff (x = y) (by simp)
    | .null | .bool _ | .number _ | .array _ | .object _ => isFalse nofun
  | .array xs, b => match b with
    | .array ys => have := decideEqItems xs ys; decidable_of_iff (xs = ys) (by simp)
    | .null | .bool _ | .number _ | .string _ | .object _ => isFalse nofun
  | .object xs, b => match b with
    | .object ys => have := decideEqFields xs ys; decidable_of_iff (xs = ys) (by simp)
    | .null | .bool _ | .number _ | .string _ | .array _ => isFalse nofun

/-- Decides whether two lists of items are the same. -/
def decideEqItems : (as bs : List Json) → Decidable (as = bs)
  | [], bs => match bs with
    | [] => isTrue rfl
    | _ :: _ => isFalse nofun
  | a :: as, bs => match bs with
    | [] => isFalse nofun
    | b :: bs =>
      have := decideEq a b
      have := decideEqItems as bs
      decidable_of_iff (a = b ∧ as = bs) (by simp)

/-- Decides whether two lists of fields are the same. -/
def decideEqFields : (as bs : List (String × Json)) → Decidable (as = bs)
  | [], bs => match bs with
    | [] => isTrue rfl
    | _ :: _ => isFalse nofun
  | (j, a) :: as, bs => match bs with
    | [] => isFalse nofun
    | (k, b) :: bs =>
      have := decideEq a b
      have := decideEqFields as bs
      decidable_of_iff ((j = k ∧ a = b) ∧ as = bs) (by simp)

end

instance : DecidableEq Json := decideEq

/-! ## The order of fields -/

/-- Puts a field into fields sorted by name; a field of that name gives way. -/
def putField (name : String) (value : Json) : List (String × Json) → List (String × Json)
  | [] => [(name, value)]
  | (k, v) :: rest =>
    if name < k then (name, value) :: (k, v) :: rest
    else if name = k then (name, value) :: rest
    else (k, v) :: putField name value rest

/-- Sorted fields; of fields with one name the last stays. -/
def sortFields (fields : List (String × Json)) : List (String × Json) :=
  fields.foldl (fun sorted field => putField field.1 field.2 sorted) []

mutual

/-- The value with the fields of all its objects sorted, without repetition. -/
def canonical : Json → Json
  | .array items => .array (canonicalItems items)
  | .object fields => .object (sortFields (canonicalFields fields))
  | value => value

/-- The items of an array in canonical form. -/
def canonicalItems : List Json → List Json
  | [] => []
  | item :: items => item.canonical :: canonicalItems items

/-- The fields of an object with canonical values, still in their written order. -/
def canonicalFields : List (String × Json) → List (String × Json)
  | [] => []
  | (name, value) :: fields => (name, value.canonical) :: canonicalFields fields

end

/-- The value of the last field with the given name. -/
def field? (name : String) : Json → Option Json
  | .object fields => (fields.reverse.find? (·.1 == name)).map (·.2)
  | _ => none

end Json

end LogSearch
