import LogSearch.Json.Record
import LogSearch.Proofs.Json.ReadBack

/-!
# Records read back

A record that is written as an object, with its fields in any order, is read back if each field is known,
comes once, and is itself read back.

## What is here

* `readsBack_readText`, `readsBack_readFlag`, `readsBack_readNatural`, `readsBack_readList` — values of one
  kind;
* `readsBack_readField`, `readsBack_read` — fields and records;
* `decodeWith_eq` — whole texts.
-/

set_option autoImplicit false

namespace LogSearch.Json

/-! ## Values of one kind -/

section kinds

variable {α : Type}

theorem readsBack_readText (s : String) : ReadsBack readText (literalChars s.toList) s := by
  intro rest _
  have hread := readString_flatMap_escapeChar s.toList rest
  have htext : literalChars s.toList ++ rest
      = '"' :: (s.toList.flatMap escapeChar ++ '"' :: rest) := by simp [literalChars]
  rw [htext, readText]
  show (readString (s.toList.flatMap escapeChar ++ '"' :: rest)).map _ = _
  rw [hread]
  simp only [Except.map, String.ofList_toList]

theorem readsBack_readFlag (b : Bool) : ReadsBack readFlag (Json.bool b).write b := by
  intro rest _
  cases b <;> rfl

theorem readsBack_readNatural {bound n : Nat} {kind : String} (hbound : bound < 2 ^ 64)
    (hn : n ≤ bound) : ReadsBack (readNatural bound kind) (Json.ofNat n).write n := by
  intro rest hrest
  have hread := readsBack_int (n := n) (by omega) (by omega) rest hrest
  obtain ⟨c, cs, htext, hc⟩ := @text_eq_cons (.int n) trivial
  rw [ofNat, write, htext, List.cons_append, readNatural,
    dropSpace_of_not_isSpace (isSpace_of_number hc)]
  rw [htext, List.cons_append] at hread
  dsimp only
  rw [if_pos (by simpa using hc), hread]
  simp [bind, Except.bind, pure, Except.pure, hn]

theorem readsBack_readList {item : Nat → Reader α} {text : α → List Char} {as : List α} {nesting : Nat}
    (hopens : ∀ a ∈ as, Opens (text a)) (hread : ∀ a ∈ as, ReadsBack (item (nesting + 1)) (text a) a) :
    ReadsBack (readList (nesting + 2) item) ('[' :: commaSeparated (as.map text) ++ [']']) as := by
  intro rest _
  rw [List.cons_append, List.cons_append, List.append_assoc]
  exact readItems_commaSeparated hopens hread

end kinds

/-! ## Records -/

section records

variable {σ α β : Type} {record : Record σ α} {nesting : Nat} {gathered last : σ}

/-- A field that is known and has not been read is stored. -/
theorem readsBack_readField {name : String} {get : σ → Option β} {put : β → σ → σ}
    {reader : Nat → Reader β} {text : List Char} {value : β}
    (hfind : record.slots.find? (·.name == name) = some (slot name get put reader))
    (hset : get gathered = none) (h : ReadsBack (reader nesting) text value) :
    ReadsBack (record.readField nesting gathered name) (':' :: text) (put value gathered) := by
  intro rest hrest
  rw [Record.readField, hfind]
  simp only [slot, hset, Option.isSome_none, Bool.false_eq_true, if_false]
  show ((reader nesting (text ++ rest)).map _) = _
  rw [h rest hrest]
  rfl

/-- A record in an object is read field by field. -/
theorem read_object (record : Record σ α) (nesting : Nat) (cs : List Char) :
    record.read (nesting + 2) ('{' :: cs) = (do
      let (gathered, rest) ←
        readFields (record.readField (nesting + 1)) (cs.length + 1) true record.empty cs
      match record.finish gathered with
      | .ok value => return (value, rest)
      | .error name => stop (.missingField name) rest) := rfl

/-- **A record is read back** from its fields, once what has been gathered is enough. -/
theorem readsBack_read {fields : List (String × List Char)} {value : α}
    (h : Gathers (record.readField (nesting + 1)) record.empty fields last)
    (hfinish : record.finish last = .ok value) :
    ReadsBack (record.read (nesting + 2)) ('{' :: commaSeparated (fields.map fieldText) ++ ['}'])
      value := by
  intro rest _
  have hread := @readFields_commaSeparated _ _ _ _ _ rest h
  rw [List.cons_append, List.cons_append, List.append_assoc, List.singleton_append, read_object, hread]
  dsimp only [bind, Except.bind]
  rw [hfinish]
  rfl

end records

/-- A text with nothing around what it spells is decoded. -/
theorem decodeWith_eq {α : Type} {reader : Reader α} {text : List Char} {value : α}
    (h : ReadsBack reader text value) : decodeWith reader text = .ok value := by
  have hread := h [] closes_nil
  rw [List.append_nil] at hread
  rw [decodeWith, hread]
  rfl

end LogSearch.Json
