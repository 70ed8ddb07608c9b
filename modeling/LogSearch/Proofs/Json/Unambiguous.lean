import LogSearch.Proofs.Json.Grammar
import LogSearch.Proofs.Json.Literal

/-!
# Texts that determine documents

The text of a document says where it ends, and so do the texts in it: a string at its closing quote,
an array or object at its closing bracket, a word at its last letter.  Only a number goes on as long
as digits follow.  So when two documents, with something other than a digit behind each, make the
same text, the documents are the same and so is what stands behind them (`Whole.append_inj`).

## What is here

* `EndsNumber` — texts that do not go on with a number;
* `literalChars_append_inj`, `text_append_inj` — strings and numbers;
* `commaSeparated_append_inj` — items and fields, from one of them;
* `Whole.append_inj`, `Whole.compact_inj` — documents.
-/

set_option autoImplicit false
namespace LogSearch.Json

/-! ## Strings and numbers -/

/-- The text does not go on with a digit. -/
def EndsNumber (rest : List Char) : Prop := ∀ c ∈ rest.head?, c.isDigit = false

theorem endsNumber_nil : EndsNumber [] := by simp [EndsNumber]

@[simp] theorem endsNumber_cons {c : Char} {rest : List Char} :
    EndsNumber (c :: rest) ↔ c.isDigit = false := by
  simp [EndsNumber]

theorem literalChars_append_inj {cs ds r s : List Char}
    (h : literalChars cs ++ r = literalChars ds ++ s) : cs = ds ∧ r = s := by
  simp only [literalChars, List.cons_append, List.append_assoc, List.nil_append, List.cons.injEq,
    true_and] at h
  have hread := congrArg readString h
  rw [readString_flatMap_escapeChar, readString_flatMap_escapeChar] at hread
  cases hread
  exact ⟨rfl, rfl⟩

/-- Digits, cut off where no digit follows. -/
theorem span_digits {digits rest : List Char} (hdigits : IsDigits digits) (hrest : EndsNumber rest) :
    (digits ++ rest).takeWhile Char.isDigit = digits ∧
      (digits ++ rest).dropWhile Char.isDigit = rest := by
  rw [List.takeWhile_append_of_pos hdigits.2, List.dropWhile_append_of_pos hdigits.2]
  cases rest with
  | nil => simp
  | cons c rest => simp [endsNumber_cons.1 hrest]

theorem toDigits_append_inj {m n : Nat} {r s : List Char} (hr : EndsNumber r) (hs : EndsNumber s)
    (h : Nat.toDigits 10 m ++ r = Nat.toDigits 10 n ++ s) : m = n ∧ r = s := by
  obtain ⟨htakeM, hdropM⟩ := span_digits (isDigits_toDigits m) hr
  obtain ⟨htakeN, hdropN⟩ := span_digits (isDigits_toDigits n) hs
  rw [h] at htakeM hdropM
  have hdigits : Nat.toDigits 10 m = Nat.toDigits 10 n := htakeM.symm.trans htakeN
  have hvalue := congrArg (Nat.ofDigitChars 10 · 0) hdigits
  rw [Nat.ofDigitChars_ten_toDigits, Nat.ofDigitChars_ten_toDigits] at hvalue
  exact ⟨hvalue, hdropM.symm.trans hdropN⟩

/-- Digits do not start with a sign. -/
theorem toDigits_append_ne_minus (n : Nat) (r s : List Char) : Nat.toDigits 10 n ++ r ≠ '-' :: s := by
  obtain ⟨hne, hdigits⟩ := isDigits_toDigits n
  obtain ⟨d, ds, hd⟩ := List.exists_cons_of_ne_nil hne
  intro h
  rw [hd, List.cons_append] at h
  have hdigit := hdigits d (by rw [hd]; exact List.mem_cons_self)
  rw [(List.cons.inj h).1] at hdigit
  exact absurd hdigit (by decide)

theorem text_append_inj {m n : Int} {r s : List Char} (hr : EndsNumber r) (hs : EndsNumber s)
    (h : (Number.int m).text ++ r = (Number.int n).text ++ s) : m = n ∧ r = s := by
  cases m with
  | ofNat m =>
    cases n with
    | ofNat n =>
      obtain ⟨rfl, hrest⟩ := toDigits_append_inj hr hs h
      exact ⟨rfl, hrest⟩
    | negSucc n => exact absurd h (toDigits_append_ne_minus m r _)
  | negSucc m =>
    cases n with
    | ofNat n => exact absurd h.symm (toDigits_append_ne_minus n s _)
    | negSucc n =>
      obtain ⟨heq, hrest⟩ := toDigits_append_inj hr hs (List.cons.inj h).2
      exact ⟨by rw [Nat.succ.inj heq], hrest⟩

/-! ## The first character -/

/-- The kinds of documents, which their first characters tell apart. -/
inductive Kind
  | null
  | bool
  | number
  | string
  | array
  | object
  deriving DecidableEq

/-- The kind of a document. -/
def kind : Json → Kind
  | .null => .null
  | .bool _ => .bool
  | .number _ => .number
  | .string _ => .string
  | .array _ => .array
  | .object _ => .object

/-- The kind of document that starts with a character. -/
def kindOf? (c : Char) : Option Kind :=
  if c = 'n' then some .null
  else if c = 't' ∨ c = 'f' then some .bool
  else if c = '-' ∨ c.isDigit then some .number
  else if c = '"' then some .string
  else if c = '[' then some .array
  else if c = '{' then some .object
  else none

theorem kindOf?_of_isDigit {c : Char} (h : c.isDigit = true) : kindOf? c = some .number := by
  have hn : c ≠ 'n' := by rintro rfl; exact absurd h (by decide)
  have ht : c ≠ 't' := by rintro rfl; exact absurd h (by decide)
  have hf : c ≠ 'f' := by rintro rfl; exact absurd h (by decide)
  simp [kindOf?, hn, ht, hf, h]

/-- The text of a document starts with a character of its kind. -/
theorem Whole.write_eq_cons {value : Json} (h : value.Whole) :
    ∃ c cs, value.write = c :: cs ∧ kindOf? c = some value.kind := by
  cases h with
  | null => exact ⟨_, _, rfl, rfl⟩
  | bool value =>
    cases value with
    | true => exact ⟨_, _, rfl, rfl⟩
    | false => exact ⟨_, _, rfl, rfl⟩
  | int n =>
    cases n with
    | ofNat n =>
      obtain ⟨hne, hdigits⟩ := isDigits_toDigits n
      obtain ⟨d, ds, hd⟩ := List.exists_cons_of_ne_nil hne
      exact ⟨d, ds, hd, kindOf?_of_isDigit (hdigits d (by rw [hd]; exact List.mem_cons_self))⟩
    | negSucc n => exact ⟨_, _, rfl, rfl⟩
  | string s => exact ⟨_, _, rfl, rfl⟩
  | array => exact ⟨_, _, rfl, rfl⟩
  | object => exact ⟨_, _, rfl, rfl⟩

/-- Documents whose texts start alike are of one kind. -/
theorem Whole.kind_eq {a b : Json} (ha : a.Whole) (hb : b.Whole) {r s : List Char}
    (h : a.write ++ r = b.write ++ s) : a.kind = b.kind := by
  obtain ⟨c, cs, hwriteA, hkindA⟩ := ha.write_eq_cons
  obtain ⟨d, ds, hwriteB, hkindB⟩ := hb.write_eq_cons
  rw [hwriteA, hwriteB, List.cons_append, List.cons_append] at h
  rw [(List.cons.inj h).1, hkindB] at hkindA
  exact (Option.some.inj hkindA).symm

/-! ## Items and fields -/

/-- Every text but the first has a comma in front. -/
theorem commaSeparated_cons (text : List Char) (texts : List (List Char)) :
    commaSeparated (text :: texts) = text ++ texts.flatMap (',' :: ·) := by
  induction texts generalizing text with
  | nil => simp [commaSeparated]
  | cons next texts ih => rw [commaSeparated, ih, List.flatMap_cons, List.cons_append]; simp

section separated

variable {α : Type} {text : α → List Char} {closer : Char} {as bs : List α} {r s : List Char}

theorem endsNumber_flatMap_comma (hcloser : closer.isDigit = false) (texts : List (List Char)) :
    EndsNumber (texts.flatMap (',' :: ·) ++ closer :: r) := by
  cases texts with
  | nil => simpa using hcloser
  | cons text texts => simp [List.flatMap_cons]

theorem flatMap_comma_append_inj
    (htext : ∀ a ∈ as, ∀ b ∈ bs, ∀ {r s}, EndsNumber r → EndsNumber s →
      text a ++ r = text b ++ s → a = b ∧ r = s)
    (hdigit : closer.isDigit = false) (hcomma : closer ≠ ',')
    (h : (as.map text).flatMap (',' :: ·) ++ closer :: r
      = (bs.map text).flatMap (',' :: ·) ++ closer :: s) : as = bs ∧ r = s := by
  induction as generalizing bs with
  | nil =>
    cases bs with
    | nil => exact ⟨rfl, (List.cons.inj h).2⟩
    | cons b bs => exact absurd (List.cons.inj h).1 hcomma
  | cons a as ih =>
    cases bs with
    | nil => exact absurd (List.cons.inj h).1.symm hcomma
    | cons b bs =>
      simp only [List.map_cons, List.flatMap_cons, List.cons_append, List.append_assoc,
        List.cons.injEq, true_and] at h
      obtain ⟨rfl, hrest⟩ := htext a List.mem_cons_self b List.mem_cons_self
        (endsNumber_flatMap_comma hdigit _) (endsNumber_flatMap_comma hdigit _) h
      obtain ⟨rfl, hbehind⟩ := ih (fun a ha b hb ↦
        htext a (List.mem_cons_of_mem _ ha) b (List.mem_cons_of_mem _ hb)) hrest
      exact ⟨rfl, hbehind⟩

/-- Texts with commas between them determine what they are the texts of, if each of them does that
with something other than a digit behind it. -/
theorem commaSeparated_append_inj
    (htext : ∀ a ∈ as, ∀ b ∈ bs, ∀ {r s}, EndsNumber r → EndsNumber s →
      text a ++ r = text b ++ s → a = b ∧ r = s)
    (hdigit : closer.isDigit = false) (hcomma : closer ≠ ',')
    (hopensA : ∀ a ∈ as, ∀ r s, text a ++ r ≠ closer :: s)
    (hopensB : ∀ b ∈ bs, ∀ r s, text b ++ r ≠ closer :: s)
    (h : commaSeparated (as.map text) ++ closer :: r = commaSeparated (bs.map text) ++ closer :: s) :
    as = bs ∧ r = s := by
  cases as with
  | nil =>
    cases bs with
    | nil => exact ⟨rfl, (List.cons.inj h).2⟩
    | cons b bs =>
      rw [List.map_cons, commaSeparated_cons, List.append_assoc] at h
      exact absurd h.symm (hopensB b List.mem_cons_self _ _)
  | cons a as =>
    cases bs with
    | nil =>
      rw [List.map_cons, commaSeparated_cons, List.append_assoc] at h
      exact absurd h (hopensA a List.mem_cons_self _ _)
    | cons b bs =>
      rw [List.map_cons, List.map_cons, commaSeparated_cons, commaSeparated_cons, List.append_assoc,
        List.append_assoc] at h
      obtain ⟨rfl, hrest⟩ := htext a List.mem_cons_self b List.mem_cons_self
        (endsNumber_flatMap_comma hdigit _) (endsNumber_flatMap_comma hdigit _) h
      obtain ⟨rfl, hbehind⟩ := flatMap_comma_append_inj (fun a ha b hb ↦
        htext a (List.mem_cons_of_mem _ ha) b (List.mem_cons_of_mem _ hb)) hdigit hcomma hrest
      exact ⟨rfl, hbehind⟩

end separated

/-! ## Documents -/

/-- A document does not start with a closing bracket. -/
theorem Whole.append_ne_bracket {value : Json} (h : value.Whole) (r s : List Char) :
    value.write ++ r ≠ ']' :: s := by
  obtain ⟨c, cs, hwrite, hkind⟩ := h.write_eq_cons
  intro heq
  rw [hwrite, List.cons_append] at heq
  rw [(List.cons.inj heq).1] at hkind
  cases hkind

theorem writeField_append_ne_brace (field : String × Json) (r s : List Char) :
    writeField field ++ r ≠ '}' :: s := by
  intro h
  exact absurd (List.cons.inj h).1 (by decide)

theorem writeField_append_inj {field other : String × Json} {r s : List Char}
    (hvalue : ∀ {r s}, EndsNumber r → EndsNumber s →
      field.2.write ++ r = other.2.write ++ s → field.2 = other.2 ∧ r = s)
    (hr : EndsNumber r) (hs : EndsNumber s) (h : writeField field ++ r = writeField other ++ s) :
    field = other ∧ r = s := by
  rw [writeField, writeField, List.append_assoc, List.append_assoc] at h
  obtain ⟨hname, hrest⟩ := literalChars_append_inj h
  obtain ⟨hwritten, hbehind⟩ := hvalue hr hs (List.cons.inj hrest).2
  exact ⟨Prod.ext (String.toList_inj.1 hname) hwritten, hbehind⟩

/-- **A document and what stands behind it can be told from the text they make**, if that does not go
on with a digit. -/
theorem Whole.append_inj {a b : Json} (ha : a.Whole) (hb : b.Whole) {r s : List Char}
    (hr : EndsNumber r) (hs : EndsNumber s) (h : a.write ++ r = b.write ++ s) : a = b ∧ r = s := by
  induction ha generalizing b r s with
  | null =>
    have hkind := Whole.kind_eq .null hb h
    cases hb with
    | null => exact ⟨rfl, List.append_cancel_left h⟩
    | _ => cases hkind
  | bool value =>
    have hkind := Whole.kind_eq (.bool value) hb h
    cases hb with
    | bool other =>
      cases value <;> cases other
      · exact ⟨rfl, List.append_cancel_left h⟩
      · exact absurd (List.cons.inj h).1 (by decide)
      · exact absurd (List.cons.inj h).1 (by decide)
      · exact ⟨rfl, List.append_cancel_left h⟩
    | _ => cases hkind
  | int m =>
    have hkind := Whole.kind_eq (.int m) hb h
    cases hb with
    | int n =>
      obtain ⟨rfl, hbehind⟩ := text_append_inj hr hs h
      exact ⟨rfl, hbehind⟩
    | _ => cases hkind
  | string text =>
    have hkind := Whole.kind_eq (.string text) hb h
    cases hb with
    | string other =>
      obtain ⟨htext, hbehind⟩ := literalChars_append_inj h
      exact ⟨by rw [String.toList_inj.1 htext], hbehind⟩
    | _ => cases hkind
  | @array items hitems ih =>
    have hkind := Whole.kind_eq (.array hitems) hb h
    cases hb with
    | @array others hothers =>
      rw [write, write, writeItems_eq, writeItems_eq, List.cons_append, List.cons_append,
        List.append_assoc, List.append_assoc] at h
      obtain ⟨rfl, hbehind⟩ := commaSeparated_append_inj
        (fun a ha b hb _ _ hr hs h ↦ ih a ha (hothers b hb) hr hs h) (by decide) (by decide)
        (fun a ha ↦ (hitems a ha).append_ne_bracket) (fun b hb ↦ (hothers b hb).append_ne_bracket)
        (List.cons.inj h).2
      exact ⟨rfl, hbehind⟩
    | _ => cases hkind
  | @object fields hfields ih =>
    have hkind := Whole.kind_eq (.object hfields) hb h
    cases hb with
    | @object others hothers =>
      rw [write, write, writeFields_eq, writeFields_eq, List.cons_append, List.cons_append,
        List.append_assoc, List.append_assoc] at h
      obtain ⟨rfl, hbehind⟩ := commaSeparated_append_inj
        (fun a ha b hb _ _ hr hs h ↦ writeField_append_inj
          (fun hr hs h ↦ ih a ha (hothers b hb) hr hs h) hr hs h) (by decide) (by decide)
        (fun a _ ↦ writeField_append_ne_brace a) (fun b _ ↦ writeField_append_ne_brace b)
        (List.cons.inj h).2
      exact ⟨rfl, hbehind⟩
    | _ => cases hkind

/-- Documents with the same text are the same. -/
theorem Whole.compact_inj {a b : Json} (ha : a.Whole) (hb : b.Whole) (h : a.compact = b.compact) :
    a = b := by
  refine (ha.append_inj hb endsNumber_nil endsNumber_nil ?_).1
  rw [List.append_nil, List.append_nil]
  exact String.ofList_inj.1 h

end LogSearch.Json
