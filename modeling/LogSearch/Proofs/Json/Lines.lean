import LogSearch.Json.Writer

/-!
# Documents in one line

A document that is written without blanks has no control character in its text, whatever it holds:
string literals escape them, and all else is digits, signs and letters.  So it is a line of its own.

## What is here

* `IsPlain` — a text without control characters;
* `isPlain_write` — the text of a document is one;
* `newline_not_mem_compact` — a document is one line.
-/

set_option autoImplicit false
namespace LogSearch.Json

/-! ## Texts without control characters -/

/-- No control character stands in the text. -/
def IsPlain (cs : List Char) : Prop := ∀ c ∈ cs, 0x20 ≤ c.toNat

section plain

variable {cs ds : List Char} {c : Char}

@[simp] theorem isPlain_nil : IsPlain [] := List.forall_mem_nil _

@[simp] theorem isPlain_cons : IsPlain (c :: cs) ↔ 0x20 ≤ c.toNat ∧ IsPlain cs := List.forall_mem_cons

@[simp] theorem isPlain_append : IsPlain (cs ++ ds) ↔ IsPlain cs ∧ IsPlain ds := List.forall_mem_append

theorem IsPlain.take (h : IsPlain cs) (n : Nat) : IsPlain (cs.take n) :=
  fun c hc ↦ h c (List.mem_of_mem_take hc)

theorem IsPlain.drop (h : IsPlain cs) (n : Nat) : IsPlain (cs.drop n) :=
  fun c hc ↦ h c (List.mem_of_mem_drop hc)

@[simp] theorem isPlain_replicate_zero (n : Nat) : IsPlain (List.replicate n '0') := by
  intro c hc
  rw [List.eq_of_mem_replicate hc]
  decide

@[simp] theorem isPlain_toDigits (n : Nat) : IsPlain (Nat.toDigits 10 n) := by
  intro c hc
  have hdigit := Nat.isDigit_of_mem_toDigits (by decide) (by decide) hc
  simp only [Char.isDigit, Bool.and_eq_true, decide_eq_true_eq] at hdigit
  have hlow : '0'.toNat ≤ c.toNat := hdigit.1
  exact Nat.le_trans (by decide) hlow

theorem toNat_digitChar {n : Nat} (h : n < 16) : 0x20 ≤ (Nat.digitChar n).toNat := by
  have hall : ∀ m < 16, 0x20 ≤ (Nat.digitChar m).toNat := by decide
  exact hall n h

theorem isPlain_escapeChar (c : Char) : IsPlain (escapeChar c) := by
  unfold escapeChar
  split
  case h_8 =>
    split
    · next hc =>
      have hhigh := toNat_digitChar (n := c.toNat / 16) (by omega)
      have hlow := toNat_digitChar (n := c.toNat % 16) (by omega)
      simp [hhigh, hlow]
    · next hc => simpa using hc
  all_goals simp

@[simp] theorem isPlain_literalChars (cs : List Char) : IsPlain (literalChars cs) := by
  have hinner : IsPlain (cs.flatMap escapeChar) := by
    intro c hc
    obtain ⟨d, -, hd⟩ := List.mem_flatMap.1 hc
    exact isPlain_escapeChar d c hd
  simp [literalChars, hinner]

@[simp] theorem isPlain_decimalText (d : Decimal) : IsPlain (decimalText d) := by
  have hdigits := isPlain_toDigits d.digits
  rw [decimalText]
  dsimp only
  split
  · have hfraction : IsPlain (if (Nat.toDigits 10 d.digits).length == 1 then []
        else '.' :: (Nat.toDigits 10 d.digits).drop 1) := by
      split
      · exact isPlain_nil
      · exact isPlain_cons.2 ⟨by decide, hdigits.drop 1⟩
    have hsign (leading : Int) : 0x20 ≤ (if leading < 0 then '-' else '+').toNat := by
      split <;> decide
    simp only [isPlain_append, isPlain_cons, isPlain_nil]
    exact ⟨⟨⟨hdigits.take 1, hfraction⟩, by decide, hsign _, trivial⟩, isPlain_toDigits _⟩
  · split
    · simp
    · split
      · simp [hdigits.take, hdigits.drop]
      · simp

@[simp] theorem isPlain_floatText (bits : UInt64) : IsPlain (floatText bits) := by
  have hsign : IsPlain (if bits.toNat / Nat.pow 2 63 == 1 then ['-'] else []) := by
    split <;> simp
  rw [floatText]
  refine isPlain_append.2 ⟨hsign, ?_⟩
  split
  · simp
  · exact isPlain_decimalText _

@[simp] theorem Number.isPlain_text (n : Number) : IsPlain n.text := by
  rcases n with (n | n) | bits
  · exact isPlain_toDigits n
  · exact isPlain_cons.2 ⟨by decide, isPlain_toDigits (n + 1)⟩
  · exact isPlain_floatText bits

/-! ## Documents -/

theorem isPlain_commaSeparated {texts : List (List Char)} (h : ∀ text ∈ texts, IsPlain text) :
    IsPlain (commaSeparated texts) := by
  fun_induction commaSeparated texts with
  | case1 => exact isPlain_nil
  | case2 text => exact h text List.mem_cons_self
  | case3 text texts _ ih =>
    obtain ⟨htext, htexts⟩ := List.forall_mem_cons.1 h
    simp [htext, ih htexts]

mutual

theorem isPlain_write (value : Json) : IsPlain value.write := by
  cases value with
  | null => simp [write]
  | bool b => cases b <;> simp [write]
  | number n => simp [write]
  | string s => simp [write]
  | array items => simp [write, isPlain_commaSeparated (isPlain_writeItems items)]
  | object fields => simp [write, isPlain_commaSeparated (isPlain_writeFields fields)]

theorem isPlain_writeItems (items : List Json) : ∀ text ∈ writeItems items, IsPlain text := by
  cases items with
  | nil => simp [writeItems]
  | cons item items =>
    exact List.forall_mem_cons.2 ⟨isPlain_write item, isPlain_writeItems items⟩

theorem isPlain_writeFields (fields : List (String × Json)) :
    ∀ text ∈ writeFields fields, IsPlain text := by
  cases fields with
  | nil => simp [writeFields]
  | cons field fields =>
    obtain ⟨name, value⟩ := field
    refine List.forall_mem_cons.2 ⟨?_, isPlain_writeFields fields⟩
    simp [isPlain_write value]

end

/-- **A document without blanks is one line.** -/
theorem newline_not_mem_compact (value : Json) : '\n' ∉ value.compact.toList := by
  rw [compact, String.toList_ofList]
  exact fun h ↦ absurd (isPlain_write value '\n' h) (by decide)

end plain
end LogSearch.Json
