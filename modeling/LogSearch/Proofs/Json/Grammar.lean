import LogSearch.Json.Writer

/-!
# The grammar of documents

What a text must look like to be a document: values are words, numbers, strings, arrays and objects,
with commas between items and fields and blanks wherever tokens meet.  The grammar says nothing about
how texts are written or read here; that what is written follows it is `isValue_write`.

It is shown for documents whose numbers are whole (`Whole`), as all documents are that are sent.

## What is here

* `IsStringBody`, `IsNumber`, `IsValue` — strings, numbers and values as they may be spelled;
* `Whole` — documents without fractions;
* `isValue_write` — the text of a document is a value.
-/

set_option autoImplicit false
namespace LogSearch.Json

/-! ## Tokens -/

/-- Blanks between tokens, or none. -/
def IsBlanks (cs : List Char) : Prop := ∀ c ∈ cs, c ∈ [' ', '\t', '\n', '\r']

theorem isBlanks_nil : IsBlanks [] := List.forall_mem_nil _

/-- A hexadecimal digit. -/
def IsHexDigit (c : Char) : Prop := c ∈ "0123456789abcdefABCDEF".toList

/-- What stands between the quotes of a string. -/
inductive IsStringBody : List Char → Prop
  | nil : IsStringBody []
  /-- Any character but a control character, a quote and a backslash stands for itself. -/
  | plain {c : Char} {cs : List Char} (hc : 0x20 ≤ c.toNat) (hquote : c ≠ '"')
    (hbackslash : c ≠ '\\') (h : IsStringBody cs) : IsStringBody (c :: cs)
  | escape {c : Char} {cs : List Char} (hc : c ∈ ['"', '\\', '/', 'b', 'f', 'n', 'r', 't'])
    (h : IsStringBody cs) : IsStringBody ('\\' :: c :: cs)
  | unicode {digits cs : List Char} (hlength : digits.length = 4)
    (hdigits : ∀ c ∈ digits, IsHexDigit c) (h : IsStringBody cs) :
    IsStringBody ('\\' :: 'u' :: digits ++ cs)

/-- One digit or more. -/
def IsDigits (cs : List Char) : Prop := cs ≠ [] ∧ ∀ c ∈ cs, c.isDigit = true

/-- The digits in front of the point: a zero stands there alone or not in front. -/
def IsWholePart (cs : List Char) : Prop := IsDigits cs ∧ (cs.head? = some '0' → cs = ['0'])

/-- The point and the digits behind it, or nothing. -/
def IsFraction (cs : List Char) : Prop := cs = [] ∨ ∃ digits, IsDigits digits ∧ cs = '.' :: digits

/-- A power of ten, or nothing. -/
def IsExponent (cs : List Char) : Prop :=
  cs = [] ∨ ∃ e ∈ ['e', 'E'], ∃ sign ∈ [[], ['+'], ['-']], ∃ digits, IsDigits digits ∧
    cs = e :: sign ++ digits

/-- A number. -/
def IsNumber (cs : List Char) : Prop :=
  ∃ sign ∈ [[], ['-']], ∃ whole fraction exponent, IsWholePart whole ∧ IsFraction fraction ∧
    IsExponent exponent ∧ cs = sign ++ whole ++ fraction ++ exponent

/-! ## Values -/

/-- Texts with commas between them, one at least. -/
inductive Commas (P : List Char → Prop) : List Char → Prop
  | one {cs : List Char} (h : P cs) : Commas P cs
  | cons {cs ds : List Char} (h : P cs) (rest : Commas P ds) : Commas P (cs ++ ',' :: ds)

/-- A text with blanks around it. -/
inductive Padded (P : List Char → Prop) : List Char → Prop
  | mk {bs cs ds : List Char} (hb : IsBlanks bs) (h : P cs) (hd : IsBlanks ds) :
    Padded P (bs ++ cs ++ ds)

/-- A name, a colon and a text, with blanks between them. -/
inductive Named (P : List Char → Prop) : List Char → Prop
  | mk {bs name ds cs : List Char} (hb : IsBlanks bs) (hname : IsStringBody name)
    (hd : IsBlanks ds) (h : Padded P cs) : Named P (bs ++ '"' :: name ++ '"' :: ds ++ ':' :: cs)

/-- A value. -/
inductive IsValue : List Char → Prop
  | null : IsValue "null".toList
  | true : IsValue "true".toList
  | false : IsValue "false".toList
  | number {cs : List Char} (h : IsNumber cs) : IsValue cs
  | string {cs : List Char} (h : IsStringBody cs) : IsValue ('"' :: cs ++ ['"'])
  | emptyArray {bs : List Char} (h : IsBlanks bs) : IsValue ('[' :: bs ++ [']'])
  | array {cs : List Char} (h : Commas (Padded IsValue) cs) : IsValue ('[' :: cs ++ [']'])
  | emptyObject {bs : List Char} (h : IsBlanks bs) : IsValue ('{' :: bs ++ ['}'])
  | object {cs : List Char} (h : Commas (Named IsValue) cs) : IsValue ('{' :: cs ++ ['}'])

/-! ## Documents without fractions -/

/-- All numbers of the document are whole. -/
inductive Whole : Json → Prop
  | null : Whole .null
  | bool (value : Bool) : Whole (.bool value)
  | int (n : Int) : Whole (.number (.int n))
  | string (s : String) : Whole (.string s)
  | array {items : List Json} (h : ∀ item ∈ items, Whole item) : Whole (.array items)
  | object {fields : List (String × Json)} (h : ∀ field ∈ fields, Whole field.2) :
    Whole (.object fields)

theorem writeItems_eq (items : List Json) : writeItems items = items.map write := by
  induction items with
  | nil => rfl
  | cons item items ih => rw [writeItems, ih, List.map_cons]

/-- The text of a field. -/
def writeField (field : String × Json) : List Char :=
  literalChars field.1.toList ++ ':' :: field.2.write

theorem writeFields_eq (fields : List (String × Json)) :
    writeFields fields = fields.map writeField := by
  induction fields with
  | nil => rfl
  | cons field fields ih => rw [writeFields, ih, List.map_cons, writeField]

/-! ## What is written -/

theorem isHexDigit_digitChar {n : Nat} (h : n < 16) : IsHexDigit (Nat.digitChar n) := by
  have hall : ∀ m < 16, Nat.digitChar m ∈ "0123456789abcdefABCDEF".toList := by decide
  exact hall n h

theorem IsStringBody.escapeChar_append (c : Char) {cs : List Char} (h : IsStringBody cs) :
    IsStringBody (escapeChar c ++ cs) := by
  unfold escapeChar
  split
  case h_8 hquote hbackslash _ _ _ _ _ =>
    split
    · next hc =>
      refine @IsStringBody.unicode ['0', '0', _, _] _ rfl ?_ h
      have hhigh := isHexDigit_digitChar (n := c.toNat / 16) (by omega)
      have hlow := isHexDigit_digitChar (n := c.toNat % 16) (by omega)
      have hzero : IsHexDigit '0' := isHexDigit_digitChar (n := 0) (by decide)
      simpa using ⟨hzero, hhigh, hlow⟩
    · next hc => exact .plain (by omega) hquote hbackslash h
  all_goals exact .escape (by decide) h

theorem isStringBody_flatMap (cs : List Char) : IsStringBody (cs.flatMap escapeChar) := by
  induction cs with
  | nil => exact .nil
  | cons c cs ih =>
    rw [List.flatMap_cons]
    exact ih.escapeChar_append c

theorem isDigits_toDigits (n : Nat) : IsDigits (Nat.toDigits 10 n) :=
  ⟨Nat.toDigits_ne_nil, fun _ hc ↦ Nat.isDigit_of_mem_toDigits (by decide) (by decide) hc⟩

/-- A number other than zero has no zero in front. -/
theorem isWholePart_toDigits (n : Nat) : IsWholePart (Nat.toDigits 10 n) := by
  refine ⟨isDigits_toDigits n, ?_⟩
  induction n using Nat.strongRecOn with
  | ind n ih =>
    rw [Nat.toDigits_eq_if (by decide)]
    split
    · next hn =>
      have hall : ∀ m < 10, [Nat.digitChar m].head? = some '0' → [Nat.digitChar m] = ['0'] := by
        decide
      exact hall n hn
    · next hn =>
      intro hhead
      have hsome : (Nat.toDigits 10 (n / 10)).head?.isSome :=
        List.isSome_head?.2 Nat.toDigits_ne_nil
      rw [List.head?_append, Option.or_of_isSome hsome] at hhead
      have hzero := ih (n / 10) (by omega) hhead
      have hvalue := congrArg (Nat.ofDigitChars 10 · 0) hzero
      rw [Nat.ofDigitChars_ten_toDigits] at hvalue
      have : n / 10 = 0 := hvalue
      omega

theorem isNumber_int (n : Int) : IsNumber (Number.int n).text := by
  cases n with
  | ofNat n =>
    exact ⟨[], by simp, _, [], [], isWholePart_toDigits n, .inl rfl, .inl rfl, by simp [Number.text]⟩
  | negSucc n =>
    exact ⟨['-'], by simp, _, [], [], isWholePart_toDigits (n + 1), .inl rfl, .inl rfl,
      by simp [Number.text]⟩

theorem commas_commaSeparated {P : List Char → Prop} {text : List Char} {texts : List (List Char)}
    (h : ∀ t ∈ text :: texts, P t) : Commas P (commaSeparated (text :: texts)) := by
  induction texts generalizing text with
  | nil => exact .one (h text List.mem_cons_self)
  | cons next texts ih =>
    obtain ⟨htext, hrest⟩ := List.forall_mem_cons.1 h
    exact .cons htext (ih hrest)

theorem Padded.of_bare {P : List Char → Prop} {cs : List Char} (h : P cs) : Padded P cs := by
  have hpadded := Padded.mk isBlanks_nil h isBlanks_nil
  rwa [List.nil_append, List.append_nil] at hpadded

theorem named_writeField {field : String × Json} (h : IsValue field.2.write) :
    Named IsValue (writeField field) := by
  have hnamed := Named.mk isBlanks_nil (isStringBody_flatMap field.1.toList) isBlanks_nil (.of_bare h)
  simpa [writeField, literalChars] using hnamed

/-- **The text of a document is a value**, one and nothing else. -/
theorem isValue_write {value : Json} (h : value.Whole) : IsValue value.write := by
  induction h with
  | null => exact .null
  | bool value =>
    cases value with
    | true => exact .true
    | false => exact .false
  | int n => exact .number (isNumber_int n)
  | string s => exact .string (isStringBody_flatMap s.toList)
  | @array items _ ih =>
    rw [write, writeItems_eq]
    cases items with
    | nil => exact .emptyArray (List.forall_mem_nil _)
    | cons item items =>
      refine .array (commas_commaSeparated ?_)
      rw [← List.map_cons, List.forall_mem_map]
      exact fun item hitem ↦ .of_bare (ih item hitem)
  | @object fields _ ih =>
    rw [write, writeFields_eq]
    cases fields with
    | nil => exact .emptyObject (List.forall_mem_nil _)
    | cons field fields =>
      refine .object (commas_commaSeparated ?_)
      rw [← List.map_cons, List.forall_mem_map]
      exact fun field hfield ↦ named_writeField (ih field hfield)

end LogSearch.Json
