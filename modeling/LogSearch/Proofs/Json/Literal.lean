import LogSearch.Json.Literal
import LogSearch.Json.Writer

/-!
# String literals read back

A text written as a string literal is read as the same text, and the quote behind its last character
is the first one that closes it: inside a literal every quote has a backslash of its own in front.

## What is here

* `escapeChar_cases` — a character is written as it is, or as an escape that reads back as it;
* `readString_flatMap_escapeChar` — a whole text, with whatever stands behind the literal;
* `decodeLiteral_literalChars` — a literal with nothing behind it.
-/

set_option autoImplicit false
namespace LogSearch.Json

theorem hexValue?_digitChar {n : Nat} (h : n < 16) : Text.hexValue? (Nat.digitChar n) = some n := by
  have : ∀ m < 16, Text.hexValue? (Nat.digitChar m) = some m := by decide
  exact this n h

theorem digitChar_ne {n : Nat} (h : n < 16) : Nat.digitChar n ≠ '"' ∧ Nat.digitChar n ≠ '\\' := by
  have : ∀ m < 16, Nat.digitChar m ≠ '"' ∧ Nat.digitChar m ≠ '\\' := by decide
  exact this n h

/-- A control character, by its two digits behind `\u00`. -/
theorem readUnicode_control {c : Char} (h : c.toNat < 0x20) (rest : List Char) :
    readUnicode ('0' :: '0' :: Nat.digitChar (c.toNat / 16) :: Nat.digitChar (c.toNat % 16) :: rest)
      = .ok (c, rest) := by
  have h0 : Text.hexValue? '0' = some 0 := rfl
  have h1 := hexValue?_digitChar (n := c.toNat / 16) (by omega)
  have h2 := hexValue?_digitChar (n := c.toNat % 16) (by omega)
  have hn : ((0 * 16 + 0) * 16 + c.toNat / 16) * 16 + c.toNat % 16 = c.toNat := by omega
  have hread : readHex ('0' :: '0' :: Nat.digitChar (c.toNat / 16) ::
      Nat.digitChar (c.toNat % 16) :: rest) = .ok (c.toNat, rest) := by
    simp only [readHex, h0, h1, h2, hn]
  have hlow : c.toNat < 0xD800 := by omega
  rw [readUnicode, hread]
  simp [bind, Except.bind, pure, Except.pure, hlow, show ¬0xDC00 ≤ c.toNat by omega,
    Char.ofNat_toNat]

/-- A character is written as itself, or as a backslash and what reads back as the character; no
quote and no backslash stands in there that has none in front. -/
theorem escapeChar_cases (c : Char) :
    (escapeChar c = [c] ∧ c ≠ '"' ∧ c ≠ '\\' ∧ ¬c.toNat < 0x20) ∨
    ∃ x tail, escapeChar c = '\\' :: x :: tail ∧ (∀ d ∈ tail, d ≠ '"' ∧ d ≠ '\\') ∧
      ∀ rest, readEscape (x :: (tail ++ rest)) = .ok (c, rest) := by
  unfold escapeChar
  split
  case h_8 hq hb _ _ _ _ _ =>
    split
    · next h =>
      have h1 : c.toNat / 16 < 16 := by omega
      refine .inr ⟨'u', _, rfl, ?_, fun rest ↦ ?_⟩
      · have := digitChar_ne h1
        have := digitChar_ne (n := c.toNat % 16) (by omega)
        simp_all
      · exact readUnicode_control h rest
    · next h => exact .inl ⟨rfl, hq, hb, h⟩
  all_goals exact .inr ⟨_, [], rfl, by simp, fun _ ↦ rfl⟩

theorem readString_escapeChar (c : Char) (rest : List Char) :
    readString (escapeChar c ++ rest)
      = (readString rest).map fun (text, rest) ↦ (c :: text, rest) := by
  rcases escapeChar_cases c with ⟨he, hq, hb, hc⟩ | ⟨x, tail, he, -, hread⟩
  · rw [he, List.singleton_append, readString]
    · simp [hc]
    · exact fun h ↦ hq h
    · exact fun h ↦ hb h
  · rw [he, List.cons_append, List.cons_append, readString]
    split
    · next e h => rw [hread] at h; cases h
    · next d rest' h =>
      rw [hread] at h
      cases h
      rfl

/-- The text of a literal, and what follows its closing quote. -/
theorem readString_flatMap_escapeChar (cs rest : List Char) :
    readString (cs.flatMap escapeChar ++ '"' :: rest) = .ok (cs, rest) := by
  induction cs with
  | nil => rw [List.flatMap_nil, List.nil_append, readString]
  | cons c cs ih =>
    rw [List.flatMap_cons, List.append_assoc, readString_escapeChar, ih]
    rfl

theorem decodeLiteral_literalChars (cs : List Char) : decodeLiteral (literalChars cs) = .ok cs := by
  have h := readString_flatMap_escapeChar cs []
  simp only [decodeLiteral, literalChars, List.cons_append, h]
  rfl

end LogSearch.Json
