import LogSearch.Proofs.Json.Grammar
import LogSearch.Text.Numeral
import Mathlib.Tactic.Common

/-!
# What is read as a whole number

A number is added up digit by digit, and no digit makes it smaller; so it does not matter that a number
which does not fit is given up before its last digit.

## What is here

* `IsNatural` — the texts of a number: digits, with a plus sign or without;
* `readNatural_eq_ok_iff` — these are what is read, as far as they fit.
-/

set_option autoImplicit false
namespace LogSearch.Text

open Json (IsDigits isDigits_toDigits)

/-- The text is digits that spell the number, behind a plus sign or not. -/
def IsNatural (cs : List Char) (n : Nat) : Prop :=
  ∃ digits, IsDigits digits ∧ (cs = digits ∨ cs = '+' :: digits) ∧ Nat.ofDigitChars 10 digits 0 = n

theorem isNatural_toDigits (n : Nat) : IsNatural (Nat.toDigits 10 n) n :=
  ⟨_, isDigits_toDigits n, .inl rfl, Nat.ofDigitChars_ten_toDigits⟩

theorem IsNatural.isDigit_or_plus {cs : List Char} {n : Nat} (h : IsNatural cs n) {c : Char} (hc : c ∈ cs) :
    c.isDigit = true ∨ c = '+' := by
  obtain ⟨digits, ⟨-, hdigits⟩, rfl | rfl, -⟩ := h
  · exact .inl (hdigits c hc)
  · exact (List.mem_cons.1 hc).symm.imp (hdigits c) id

theorem le_ofDigitChars (digits : List Char) (start : Nat) : start ≤ Nat.ofDigitChars 10 digits start := by
  rw [Nat.ofDigitChars_eq_ofDigitChars_zero]
  exact Nat.le_add_right_of_le (Nat.le_mul_of_pos_left _ (Nat.pow_pos (by decide)))

theorem digitValue?_of_isDigit {c : Char} (h : c.isDigit = true) :
    digitValue? c = some (c.toNat - '0'.toNat) :=
  if_pos h

theorem readDigits_eq_ok_iff {bound start n : Nat} {digits : List Char} (hstart : start ≤ bound) :
    readDigits bound start digits = .ok n ↔
      (∀ c ∈ digits, c.isDigit = true) ∧ Nat.ofDigitChars 10 digits start = n ∧ n ≤ bound := by
  induction digits generalizing start with
  | nil =>
    simp only [readDigits, Except.ok.injEq, List.not_mem_nil, false_implies, implies_true,
      Nat.ofDigitChars_nil, true_and]
    exact ⟨fun h ↦ ⟨h, h ▸ hstart⟩, And.left⟩
  | cons c digits ih =>
    rw [readDigits, List.forall_mem_cons, Nat.ofDigitChars_cons, Nat.mul_comm 10 start]
    cases hc : c.isDigit with
    | false => simp [digitValue?, hc]
    | true =>
      rw [digitValue?_of_isDigit hc]
      dsimp only
      split
      · next hle => rw [ih hle, and_assoc]; simp
      · next hgt =>
        -- what is above the bound already does not come back below it
        have hmore := le_ofDigitChars digits (start * 10 + (c.toNat - '0'.toNat))
        refine ⟨nofun, fun ⟨_, hn, hle⟩ ↦ absurd ?_ hgt⟩
        omega

theorem isDigits_iff_of_ne_nil {digits : List Char} (h : digits ≠ []) :
    IsDigits digits ↔ ∀ c ∈ digits, c.isDigit = true :=
  and_iff_right h

theorem not_isDigits_plus (rest : List Char) : ¬ IsDigits ('+' :: rest) :=
  fun h ↦ absurd (h.2 '+' List.mem_cons_self) (by decide)

/-- A whole number is read from just the texts of it, if it fits. -/
theorem readNatural_eq_ok_iff {bound n : Nat} {cs : List Char} :
    readNatural bound cs = .ok n ↔ IsNatural cs n ∧ n ≤ bound := by
  unfold readNatural
  split
  · refine ⟨nofun, ?_⟩
    rintro ⟨⟨digits, hdigits, rfl | h, -⟩, -⟩
    · exact absurd rfl hdigits.1
    · cases h
  · refine ⟨nofun, ?_⟩
    rintro ⟨⟨digits, hdigits, rfl | h, -⟩, -⟩
    · exact absurd hdigits (not_isDigits_plus [])
    · cases h
      exact absurd rfl hdigits.1
  · next rest hrest =>
    have hne : rest ≠ [] := fun h ↦ hrest (h ▸ rfl)
    rw [readDigits_eq_ok_iff (Nat.zero_le bound), ← isDigits_iff_of_ne_nil hne]
    constructor
    · rintro ⟨hdigits, hvalue, hle⟩
      exact ⟨⟨rest, hdigits, .inr rfl, hvalue⟩, hle⟩
    · rintro ⟨⟨digits, hdigits, rfl | h, hvalue⟩, hle⟩
      · exact absurd hdigits (not_isDigits_plus rest)
      · cases h
        exact ⟨hdigits, hvalue, hle⟩
  · next hnil _ hplus =>
    have hne : cs ≠ [] := hnil
    rw [readDigits_eq_ok_iff (Nat.zero_le bound), ← isDigits_iff_of_ne_nil hne]
    constructor
    · rintro ⟨hdigits, hvalue, hle⟩
      exact ⟨⟨cs, hdigits, .inl rfl, hvalue⟩, hle⟩
    · rintro ⟨⟨digits, hdigits, rfl | h, hvalue⟩, hle⟩
      · exact ⟨hdigits, hvalue, hle⟩
      · exact absurd h (hplus digits)

end LogSearch.Text
