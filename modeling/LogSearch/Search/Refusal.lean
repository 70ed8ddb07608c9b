import LogSearch.Search.Response

/-!
# Refusals

A server that refuses a request may say why, in a document with an error and perhaps a status.  The
error is a text, or an object with a type and perhaps a reason.

## What is here

* `Refusal` with its `Refusal.reason` in words;
* `Refusal.decode` and `Refusal.toJson` — from and to text.
-/

set_option autoImplicit false
namespace LogSearch

open Json (Record slot)

/-- Why a request was refused. -/
inductive Refusal.Ground
  /-- A type of error, and perhaps its circumstances. -/
  | detailed (type : String) (reason : Option String)
  /-- A text. -/
  | plain (text : String)
  deriving DecidableEq, Repr

/-- A refused request. -/
structure Refusal where
  ground : Refusal.Ground
  /-- The status that the document itself gives. -/
  status : Option Nat
  deriving DecidableEq, Repr

namespace Refusal

/-- The ground in words. -/
def reason (refusal : Refusal) : String :=
  match refusal.ground with
  | .detailed type (some reason) => s!"{type}: {reason}"
  | .detailed type none => type
  | .plain text => text

/-! ## Writing -/

/-- A text that may be missing, as a document. -/
def optionalText (text : Option String) : Json := (text.map Json.string).getD .null

/-- The document of a ground. -/
def Ground.toJson : Ground → Json
  | .detailed type reason => .object [("type", .string type), ("reason", optionalText reason)]
  | .plain text => .string text

/-- The document of a refusal. -/
def toJson (refusal : Refusal) : Json :=
  .object [("error", refusal.ground.toJson),
    ("status", (refusal.status.map Json.ofNat).getD .null)]

/-! ## Reading -/

/-- The value of the only field with a name; `none` if there are several, `some none` if there is
no such field. -/
def onlyField (name : String) (fields : List (String × Json)) : Option (Option Json) :=
  match fields.filter (·.1 == name) with
  | [] => some none
  | [(_, value)] => some (some value)
  | _ => none

/-- The ground that a document gives, if it has one of the two forms. -/
def Ground.ofJson? : Json → Option Ground
  | .string text => some (.plain text)
  | .object fields =>
    match onlyField "type" fields, onlyField "reason" fields with
    | some (some (.string type)), some none => some (.detailed type none)
    | some (some (.string type)), some (some .null) => some (.detailed type none)
    | some (some (.string type)), some (some (.string reason)) =>
      some (.detailed type (some reason))
    | _, _ => none
  | _ => none

/-- Reads a ground. -/
def Ground.read (nesting : Nat) : Json.Reader Ground := fun cs => do
  let (value, rest) ← Json.readValue nesting cs
  match Ground.ofJson? value with
  | some ground => return (ground, rest)
  | none => Record.complain (.noForm "the ground of a refusal") rest

/-- What has been read of a refusal. -/
structure Parts where
  ground : Option Ground := none
  status : Option (Option Nat) := none

/-- How a refusal is read; the error must be there. -/
def record : Record Parts Refusal where
  kind := "a refusal"
  empty := {}
  slots :=
    [slot "error" (·.ground) (fun g p => { p with ground := some g }) Ground.read,
      slot "status" (·.status) (fun n p => { p with status := some n })
        fun _ => Json.readOptional (Json.readNatural 65535 "a status")]
  finish parts :=
    match parts.ground with
    | some ground => .ok ⟨ground, parts.status.getD none⟩
    | none => .error "error"

/-- The refusal that a text holds. -/
def decode (text : String) : Except Json.Fault Refusal :=
  Json.decodeWith (record.read Json.maxNesting) text.toList

end Refusal

end LogSearch
