import LogSearch.Json.Reader
import LogSearch.Proofs.Json.Stored
import LogSearch.Proofs.Json.Unambiguous

/-!
# Documents read back

The text of a document is read as the document, with whatever may stand behind it: nothing, a comma or a
closing bracket.  The reader counts how deep it is and takes no document that is nested deeper than it may
go.  Numbers must be exact, for a fraction may come back as another double.

Items and fields are read in loops that run on the length of the text, which is longer than there are
items or fields in it.  What a loop over fields makes of them is for the reader of one field to say, so
`Gathers` follows it from one field to the next.

## What is here

* `Closes`, `ReadsBack` — what may stand behind a text, and a reader that takes the text for a value;
* `readsBack_number` — numbers;
* `readItems_commaSeparated`, `Gathers`, `readFields_commaSeparated` — items and fields;
* `readsBack_readValue` — documents.
-/

set_option autoImplicit false

namespace LogSearch.Json

/-! ## What stands around a document -/

/-- Nothing follows, or what may stand behind an item or a field. -/
def Closes (rest : List Char) : Prop := ∀ c ∈ rest.head?, c ∈ [',', ']', '}']

theorem closes_nil : Closes [] := by simp [Closes]

@[simp] theorem closes_cons {c : Char} {rest : List Char} :
    Closes (c :: rest) ↔ c ∈ [',', ']', '}'] := by
  simp [Closes]

theorem Closes.endsNumber {rest : List Char} (h : Closes rest) : EndsNumber rest := by
  intro c hc
  have hmem := h c hc
  simp only [List.mem_cons, List.not_mem_nil, or_false] at hmem
  rcases hmem with rfl | rfl | rfl <;> rfl

/-- The text starts with something that may stand at the start of an item. -/
def Opens (text : List Char) : Prop := ∃ c cs, text = c :: cs ∧ isSpace c = false ∧ c ≠ ']'

/-- The reader takes the text for the value, with anything behind it that may stand there. -/
def ReadsBack {α : Type} (reader : Reader α) (text : List Char) (value : α) : Prop :=
  ∀ rest, Closes rest → reader (text ++ rest) = .ok (value, rest)

/-! ## Numbers -/

section numbers

variable {digits rest : List Char} {n : Nat}

/-- Digits of a number that fits are all taken. -/
theorem absorb_eq {start : Nat} (h : Nat.ofDigitChars 10 digits start ≤ maxSignificand) :
    absorb start digits = (Nat.ofDigitChars 10 digits start, digits.length) := by
  induction digits generalizing start with
  | nil => rfl
  | cons c digits ih =>
    have hnext : Nat.ofDigitChars 10 (c :: digits) start
        = Nat.ofDigitChars 10 digits (start * 10 + (c.toNat - 48)) := by
      rw [Nat.ofDigitChars_cons, Nat.mul_comm]
      rfl
    rw [hnext] at h ⊢
    have hle : start * 10 + (c.toNat - 48) ≤ maxSignificand := by
      refine Nat.le_trans ?_ h
      rw [Nat.ofDigitChars_eq_ofDigitChars_zero]
      exact Nat.le_trans (Nat.le_mul_of_pos_left _ (Nat.pow_pos (by decide))) (Nat.le_add_right _ _)
    rw [absorb]
    dsimp only
    rw [if_pos hle, ih h]
    rfl

theorem head_of_closes (h : Closes rest) :
    (∀ cs, rest ≠ '.' :: cs) ∧ rest.head? ≠ some 'e' ∧ rest.head? ≠ some 'E' := by
  refine ⟨?_, ?_, ?_⟩
  · rintro cs rfl
    simp at h
  · intro hhead
    simpa using h 'e' hhead
  · intro hhead
    simpa using h 'E' hhead

/-- The digits of an integer are read up to their end. -/
theorem readUnsigned_toDigits (negative : Bool) (hn : n ≤ maxSignificand) (hrest : Closes rest) :
    readUnsigned negative (Nat.toDigits 10 n ++ rest) = .ok (integer negative n, rest) := by
  obtain ⟨htake, hdrop⟩ := span_digits (isDigits_toDigits n) hrest.endsNumber
  obtain ⟨hpoint, he, hE⟩ := head_of_closes hrest
  have habsorb : absorb 0 (Nat.toDigits 10 n) = (n, (Nat.toDigits 10 n).length) := by
    rw [absorb_eq (by rwa [Nat.ofDigitChars_ten_toDigits]), Nat.ofDigitChars_ten_toDigits]
  obtain ⟨d, ds, hd⟩ := List.exists_cons_of_ne_nil (isDigits_toDigits n).1
  have hdigit : d.isDigit = true := (isDigits_toDigits n).2 d (by simp [hd])
  have hzero : (d == '0' && decide (1 < (Nat.toDigits 10 n).length)) = false := by
    by_cases hd0 : d = '0'
    · have hlone := (isWholePart_toDigits n).2 (by simp [hd, hd0])
      simp [hlone]
    · simp [hd0]
  unfold readUnsigned
  rw [htake, hdrop]
  dsimp only
  rw [habsorb]
  rw [hd] at hzero ⊢
  rw [List.cons_append]
  dsimp only
  rw [hzero, hdigit]
  simp [he, hE]

theorem readNumber_eq {c : Char} {cs : List Char} (hc : c ≠ '-') :
    readNumber (c :: cs) = readUnsigned false (c :: cs) := by
  rw [readNumber]
  rintro rest heq
  exact hc (List.cons.inj heq).1

theorem readsBack_int {n : Int} (hlow : -2 ^ 63 ≤ n) (hhigh : n < 2 ^ 64) :
    ReadsBack readNumber (Number.int n).text (.int n) := by
  intro rest hrest
  cases n with
  | ofNat n =>
    have hle : n ≤ maxSignificand := by
      have : (n : Int) < 2 ^ 64 := hhigh
      show n ≤ 2 ^ 64 - 1
      omega
    have hread := readUnsigned_toDigits false hle hrest
    obtain ⟨d, ds, hd⟩ := List.exists_cons_of_ne_nil (isDigits_toDigits n).1
    have hminus : d ≠ '-' := by
      rintro rfl
      exact toDigits_append_ne_minus n [] ds (by rw [hd, List.append_nil])
    rw [Number.text, hd, List.cons_append, readNumber_eq hminus, ← List.cons_append, ← hd, hread]
    rfl
  | negSucc n =>
    have hle : n + 1 ≤ 2 ^ 63 := by omega
    have hread := readUnsigned_toDigits true (n := n + 1) (Nat.le_trans hle (by decide)) hrest
    have hvalue : integer true (n + 1) = .int (.negSucc n) := by
      simp [integer, Int.negSucc_eq]
      omega
    rw [Number.text, List.cons_append, readNumber, hread, hvalue]

/-- The zero with a sign is written with a fraction. -/
theorem text_zero : (zero true).text = ['-', '0', '.', '0'] := by decide +kernel

theorem double?_zero : double? true 0 (-1) = some (zero true) := by
  rw [double?, scale]
  decide +kernel

theorem readsBack_zero : ReadsBack readNumber (zero true).text (zero true) := by
  intro rest hrest
  have hone : IsDigits ['0'] := ⟨by decide, List.forall_mem_singleton.2 rfl⟩
  obtain ⟨htake, hdrop⟩ := span_digits hone hrest.endsNumber
  obtain ⟨-, he, hE⟩ := head_of_closes hrest
  rw [text_zero]
  show readFraction true 0 0 (['0'] ++ rest) = _
  rw [readFraction, htake, hdrop]
  show readExponentPart true 0 (-1) rest = _
  rw [readExponentPart, double?_zero]
  · rintro cs rfl
    exact he rfl
  · rintro cs rfl
    exact hE rfl

/-- **An exact number is read back.** -/
theorem readsBack_number {value : Number} (hfits : value.Fits) (hexact : value.Exact) :
    ReadsBack readNumber value.text value := by
  cases value with
  | int n => exact readsBack_int hfits.1 hfits.2
  | float bits =>
    obtain rfl : bits = _ := hexact
    exact readsBack_zero

end numbers

/-! ## Items and fields -/

theorem dropSpace_of_not_isSpace {c : Char} {cs : List Char} (h : isSpace c = false) :
    dropSpace (c :: cs) = c :: cs := List.dropWhile_cons_of_neg (by simp [h])

/-- There are no more texts than characters, the closing bracket counted. -/
theorem length_lt_commaSeparated (texts : List (List Char)) (closer : Char) (rest : List Char) :
    texts.length < (commaSeparated texts ++ closer :: rest).length + 1 := by
  cases texts with
  | nil => simp
  | cons text texts =>
    have hle : texts.length ≤ (texts.map fun text ↦ (',' :: text).length).sum := by
      induction texts with
      | nil => exact Nat.le_refl _
      | cons next texts ih =>
        simp only [List.map_cons, List.sum_cons, List.length_cons] at ih ⊢
        omega
    rw [commaSeparated_cons, List.length_append, List.length_append, List.length_cons,
      List.length_cons, List.length_flatMap]
    omega

section items

variable {α : Type} {item : Reader α} {text : α → List Char} {as : List α} {rest : List Char} {fuel : Nat}

theorem closes_flatMap_comma {closer : Char} (h : closer ∈ [']', '}']) (texts : List (List Char))
    (rest : List Char) : Closes (texts.flatMap (',' :: ·) ++ closer :: rest) := by
  cases texts with
  | nil => exact closes_cons.2 (List.mem_cons_of_mem _ h)
  | cons text texts => simp [List.flatMap_cons]

theorem readItems_first {c : Char} {cs : List Char} (hspace : isSpace c = false) (hc : c ≠ ']') :
    readItems item (fuel + 1) true (c :: cs) = (do
      let (value, cs) ← item (c :: cs)
      let (values, cs) ← readItems item fuel false cs
      return (value :: values, cs)) := by
  rw [readItems, dropSpace_of_not_isSpace hspace]
  split
  · next h => cases h
  · next h => exact absurd (List.cons.inj h).1 hc
  · next h =>
    cases h
    rfl

theorem readItems_next {c : Char} {cs : List Char} (hspace : isSpace c = false) (hc : c ≠ ']') :
    readItems item (fuel + 1) false (',' :: c :: cs) = (do
      let (value, cs) ← item (c :: cs)
      let (values, cs) ← readItems item fuel false cs
      return (value :: values, cs)) := by
  rw [readItems, dropSpace_of_not_isSpace rfl]
  split
  · next h => cases h
  · next h => exact absurd (List.cons.inj h).1 (by decide)
  · next h =>
    cases h
    rw [if_neg Bool.false_ne_true, if_pos (beq_self_eq_true ','), dropSpace_of_not_isSpace hspace]
    split
    · next h => cases h
    · next h => exact absurd (List.cons.inj h).1 hc
    · rfl

theorem readItems_flatMap (hopens : ∀ a ∈ as, Opens (text a))
    (hread : ∀ a ∈ as, ReadsBack item (text a) a) (hfuel : as.length < fuel) :
    readItems item fuel false ((as.map text).flatMap (',' :: ·) ++ ']' :: rest) = .ok (as, rest) := by
  induction as generalizing fuel with
  | nil =>
    obtain ⟨fuel, rfl⟩ := Nat.exists_eq_add_of_lt hfuel
    rfl
  | cons a as ih =>
    obtain ⟨ha, has⟩ := List.forall_mem_cons.1 hread
    obtain ⟨⟨c, cs, hc, hspace, hbracket⟩, hopens⟩ := List.forall_mem_cons.1 hopens
    obtain ⟨fuel, rfl⟩ : ∃ k, fuel = k + 1 := Nat.exists_eq_succ_of_ne_zero (by omega)
    have hitem := ha _ (closes_flatMap_comma List.mem_cons_self (as.map text) rest)
    have hrest := ih hopens has (by simpa using hfuel)
    rw [hc, List.cons_append] at hitem
    rw [List.map_cons, List.flatMap_cons, List.append_assoc, hc, List.cons_append, List.cons_append,
      readItems_next hspace hbracket, hitem]
    dsimp only [bind, Except.bind]
    rw [hrest]
    rfl

/-- **Items with commas between them** are read back, if each of them is. -/
theorem readItems_commaSeparated (hopens : ∀ a ∈ as, Opens (text a))
    (hread : ∀ a ∈ as, ReadsBack item (text a) a) :
    readItems item ((commaSeparated (as.map text) ++ ']' :: rest).length + 1) true
      (commaSeparated (as.map text) ++ ']' :: rest) = .ok (as, rest) := by
  have hfuel := length_lt_commaSeparated (as.map text) ']' rest
  rw [List.length_map] at hfuel
  generalize (commaSeparated (as.map text) ++ ']' :: rest).length = fuel at hfuel ⊢
  cases as with
  | nil => rfl
  | cons a as =>
    obtain ⟨ha, has⟩ := List.forall_mem_cons.1 hread
    obtain ⟨⟨c, cs, hc, hspace, hbracket⟩, hopens⟩ := List.forall_mem_cons.1 hopens
    have hitem := ha _ (closes_flatMap_comma List.mem_cons_self (as.map text) rest)
    have hrest := @readItems_flatMap _ item text as rest fuel hopens has (by simpa using hfuel)
    rw [hc, List.cons_append] at hitem
    rw [List.map_cons, commaSeparated_cons, List.append_assoc, hc, List.cons_append,
      readItems_first hspace hbracket, hitem]
    dsimp only [bind, Except.bind]
    rw [hrest]
    rfl

end items

/-- The text of a field, from the text of its value. -/
def fieldText (field : String × List Char) : List Char := literalChars field.1.toList ++ ':' :: field.2

theorem write_object (fields : List (String × Json)) : (Json.object fields).write
    = '{' :: commaSeparated ((fields.map fun field ↦ (field.1, field.2.write)).map fieldText)
      ++ ['}'] := by
  rw [write, writeFields_eq, List.map_map]
  rfl

/-- Reading one field after the other makes the last of what has been gathered from the first. -/
inductive Gathers {σ : Type} (field : σ → String → Reader σ) : σ → List (String × List Char) → σ → Prop
  | nil (gathered : σ) : Gathers field gathered [] gathered
  | cons {gathered next last : σ} {name : String} {text : List Char}
    {fields : List (String × List Char)} (h : ReadsBack (field gathered name) (':' :: text) next)
    (hs : Gathers field next fields last) : Gathers field gathered ((name, text) :: fields) last

section fields

variable {σ : Type} {field : σ → String → Reader σ} {gathered last : σ}
  {fields : List (String × List Char)} {cs rest : List Char} {fuel : Nat}

theorem readFields_first : readFields field (fuel + 1) true gathered ('"' :: cs) = (do
    let (name, cs) ← readString cs
    let (gathered, cs) ← field gathered (String.ofList name) cs
    readFields field fuel false gathered cs) := rfl

theorem readFields_next : readFields field (fuel + 1) false gathered (',' :: '"' :: cs) = (do
    let (name, cs) ← readString cs
    let (gathered, cs) ← field gathered (String.ofList name) cs
    readFields field fuel false gathered cs) := rfl

theorem fieldText_append (name : String) (text rest : List Char) :
    fieldText (name, text) ++ rest
      = '"' :: (name.toList.flatMap escapeChar ++ '"' :: (':' :: text ++ rest)) := by
  simp [fieldText, literalChars]

theorem readFields_flatMap (h : Gathers field gathered fields last) (hfuel : fields.length < fuel) :
    readFields field fuel false gathered ((fields.map fieldText).flatMap (',' :: ·) ++ '}' :: rest)
      = .ok (last, rest) := by
  induction h generalizing fuel with
  | nil gathered =>
    obtain ⟨fuel, rfl⟩ := Nat.exists_eq_add_of_lt hfuel
    rfl
  | @cons gathered next last name text fields hfield _ ih =>
    obtain ⟨fuel, rfl⟩ : ∃ k, fuel = k + 1 := Nat.exists_eq_succ_of_ne_zero (by omega)
    have hclose : '}' ∈ [']', '}'] := by decide
    have hnext := hfield _ (closes_flatMap_comma hclose (fields.map fieldText) rest)
    rw [List.map_cons, List.flatMap_cons, List.append_assoc, List.cons_append, fieldText_append,
      readFields_next, readString_flatMap_escapeChar]
    dsimp only [bind, Except.bind]
    rw [String.ofList_toList, hnext]
    exact ih (by simpa using hfuel)

/-- **Fields with commas between them** are gathered, if each of them is. -/
theorem readFields_commaSeparated (h : Gathers field gathered fields last) :
    readFields field ((commaSeparated (fields.map fieldText) ++ '}' :: rest).length + 1) true gathered
      (commaSeparated (fields.map fieldText) ++ '}' :: rest) = .ok (last, rest) := by
  have hfuel := length_lt_commaSeparated (fields.map fieldText) '}' rest
  rw [List.length_map] at hfuel
  generalize (commaSeparated (fields.map fieldText) ++ '}' :: rest).length = fuel at hfuel ⊢
  cases h with
  | nil => rfl
  | @cons _ next _ name text fields hfield hs =>
    have hclose : '}' ∈ [']', '}'] := by decide
    have hnext := hfield _ (closes_flatMap_comma hclose (fields.map fieldText) rest)
    rw [List.map_cons, commaSeparated_cons, List.append_assoc, fieldText_append, readFields_first,
      readString_flatMap_escapeChar]
    dsimp only [bind, Except.bind]
    rw [String.ofList_toList, hnext]
    exact readFields_flatMap hs (by simpa using hfuel)

end fields

/-! ## Documents -/

section documents

variable {value : Json} {nesting : Nat} {rest : List Char}

/-- A number starts with a sign or a digit. -/
theorem isSpace_of_number {c : Char} (h : c = '-' ∨ c.isDigit = true) : isSpace c = false := by
  rcases h with rfl | hdigit
  · rfl
  · simp only [isSpace, Bool.or_eq_false_iff, beq_eq_false_iff_ne]
    refine ⟨⟨⟨?_, ?_⟩, ?_⟩, ?_⟩ <;> (rintro rfl; cases hdigit)

theorem text_eq_cons {value : Number} (h : value.Exact) :
    ∃ c cs, value.text = c :: cs ∧ (c = '-' ∨ c.isDigit = true) := by
  cases value with
  | int n =>
    cases n with
    | ofNat n =>
      obtain ⟨hne, hdigits⟩ := isDigits_toDigits n
      obtain ⟨d, ds, hd⟩ := List.exists_cons_of_ne_nil hne
      exact ⟨d, ds, hd, .inr (hdigits d (by rw [hd]; exact List.mem_cons_self))⟩
    | negSucc n => exact ⟨'-', _, rfl, .inl rfl⟩
  | float bits =>
    obtain rfl : bits = _ := h
    exact ⟨'-', _, text_zero, .inl rfl⟩

theorem Exact.opens (h : value.Exact) : Opens value.write := by
  cases h with
  | null => exact ⟨'n', _, rfl, rfl, by decide⟩
  | bool value => cases value with
    | true => exact ⟨'t', _, rfl, rfl, by decide⟩
    | false => exact ⟨'f', _, rfl, rfl, by decide⟩
  | number h =>
    obtain ⟨c, cs, htext, hc⟩ := text_eq_cons h
    refine ⟨c, cs, htext, isSpace_of_number hc, ?_⟩
    rintro rfl
    rcases hc with h | h <;> cases h
  | string s => exact ⟨'"', _, rfl, rfl, by decide⟩
  | array => exact ⟨'[', _, rfl, rfl, by decide⟩
  | object => exact ⟨'{', _, rfl, rfl, by decide⟩

theorem readValue_string (s : String) :
    readValue nesting (literalChars s.toList ++ rest) = .ok (.string s, rest) := by
  have hread := readString_flatMap_escapeChar s.toList rest
  have htext : literalChars s.toList ++ rest
      = '"' :: (s.toList.flatMap escapeChar ++ '"' :: rest) := by simp [literalChars]
  rw [htext, readValue]
  show (readString (s.toList.flatMap escapeChar ++ '"' :: rest)).map _ = _
  rw [hread]
  simp only [Except.map, String.ofList_toList]

theorem readValue_number {c : Char} {cs : List Char} {n : Number} (hc : c = '-' ∨ c.isDigit = true)
    (hread : readNumber (c :: cs) = .ok (n, rest)) :
    readValue nesting (c :: cs) = .ok (.number n, rest) := by
  rw [readValue, dropSpace_of_not_isSpace (isSpace_of_number hc)]
  split
  case h_8 heq =>
    cases heq
    rw [if_pos (by simpa using hc), hread]
    rfl
  case h_1 heq => cases heq
  all_goals
    next heq =>
      cases heq
      rcases hc with hminus | hdigit
      · cases hminus
      · cases hdigit

/-- The items of an array are read one level further in. -/
theorem readValue_array {items : List Json} {cs : List Char}
    (h : readItems (readValue (nesting + 1)) (cs.length + 1) true cs = .ok (items, rest)) :
    readValue (nesting + 2) ('[' :: cs) = .ok (.array items, rest) := by
  rw [readValue]
  show (readItems (readValue (nesting + 1)) (cs.length + 1) true cs).map _ = _
  rw [h]
  rfl

/-- Puts a field with any value in front of those that have been read. -/
def gatherValue (nesting : Nat) (fields : List (String × Json)) (name : String) :
    Reader (List (String × Json)) := fun cs => do
  let cs ← readColon cs
  let (value, cs) ← readValue nesting cs
  return ((name, value) :: fields, cs)

theorem readValue_object {fields : List (String × Json)} {cs : List Char}
    (h : readFields (gatherValue (nesting + 1)) (cs.length + 1) true [] cs = .ok (fields, rest)) :
    readValue (nesting + 2) ('{' :: cs) = .ok (.object fields.reverse, rest) := by
  rw [readValue]
  show (readFields (gatherValue (nesting + 1)) (cs.length + 1) true [] cs).map _ = _
  rw [h]
  rfl

theorem gathers_gatherValue {fields gathered : List (String × Json)}
    (h : ∀ field ∈ fields, ReadsBack (readValue nesting) field.2.write field.2) :
    Gathers (gatherValue nesting) gathered (fields.map fun field ↦ (field.1, field.2.write))
      (fields.reverse ++ gathered) := by
  induction fields generalizing gathered with
  | nil => exact .nil gathered
  | cons field fields ih =>
    obtain ⟨hfield, hfields⟩ := List.forall_mem_cons.1 h
    rw [List.reverse_cons, List.append_assoc, List.singleton_append]
    refine .cons (fun rest hrest ↦ ?_) (ih hfields)
    rw [gatherValue]
    show (do
      let (value, cs) ← readValue nesting (field.2.write ++ rest)
      return ((field.1, value) :: gathered, cs)) = _
    rw [hfield rest hrest]
    rfl

theorem readsBack_readValue (hstored : value.Stored) (hexact : value.Exact)
    (hdepth : value.depth < nesting) : ReadsBack (readValue nesting) value.write value := by
  induction hstored generalizing nesting with
  | null => exact fun rest hrest ↦ by rw [write, readValue]; rfl
  | bool value => 
    cases value
    · exact fun rest hrest ↦ by rw [write, readValue]; rfl
    · exact fun rest hrest ↦ by rw [write, readValue]; rfl
  | @number n hfits =>
    intro rest hrest
    cases hexact with
    | number hn =>
      have hread := readsBack_number hfits hn rest hrest
      obtain ⟨c, cs, htext, hc⟩ := text_eq_cons hn
      rw [write, htext, List.cons_append]
      rw [htext, List.cons_append] at hread
      exact readValue_number hc hread
  | string s => exact fun rest _ ↦ readValue_string s
  | @array items _ ih =>
    intro rest hrest
    obtain ⟨nesting, rfl⟩ : ∃ k, nesting = k + 2 :=
      Nat.exists_eq_add_of_le' (by rw [depth] at hdepth; omega)
    cases hexact with
    | array hexact =>
      have hdepths := depth_array_le.1 (Nat.le_of_lt_succ hdepth)
      rw [write, writeItems_eq, List.cons_append, List.cons_append, List.append_assoc]
      exact readValue_array (readItems_commaSeparated (fun item hitem ↦ (hexact item hitem).opens)
        fun item hitem ↦ ih item hitem (hexact item hitem) (Nat.lt_succ_of_le (hdepths item hitem)))
  | @object fields _ _ ih =>
    intro rest hrest
    obtain ⟨nesting, rfl⟩ : ∃ k, nesting = k + 2 :=
      Nat.exists_eq_add_of_le' (by rw [depth] at hdepth; omega)
    cases hexact with
    | object hexact =>
      have hdepths := depth_object_le.1 (Nat.le_of_lt_succ hdepth)
      have hgathers := @gathers_gatherValue (nesting + 1) fields [] fun field hfield ↦
        ih field hfield (hexact field hfield) (Nat.lt_succ_of_le (hdepths field hfield))
      have hread := readValue_object (@readFields_commaSeparated _ _ _ _ _ rest hgathers)
      rw [List.append_nil, List.reverse_reverse] at hread
      rw [write_object, List.cons_append, List.cons_append, List.append_assoc]
      exact hread

end documents

end LogSearch.Json
