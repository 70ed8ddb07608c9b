import LogSearch.Proofs.Json.Unambiguous
import LogSearch.Proofs.Time.Calendar
import LogSearch.Time.Reader
import LogSearch.Time.Window
import Mathlib.Algebra.Order.Group.Unbundled.Int
import Mathlib.Tactic.Ring

/-!
# Timestamps as texts

A timestamp is sent in one form only: year, month, day and time in digits with a `T` between day and time,
without an offset.  It is read in several, tried one after the other: the internet format, which ends in an
offset from UTC, and three that do not.  No text that is sent ends in an offset, so the first format leaves
it alone and the second takes it back as it was.

Digits are scanned up to a bound, the year of a sign up to the first character that is no digit, and a
fraction of a second at nine places, so each part is followed through the text with what stands behind it.

## What is here
* `scanYear_yearText`, `scanFraction_append`: years of any length, and fractions of any length, are read
  back.
* `readInternet?_clockText`, `readPlain?_clockText`: what the two formats make of a day and a time.
* `parseTimestamp_format_self`, `format_injective`: the text that is sent.
* `IsInternet`, `IsInternet.parseTimestamp`: a local time with its offset.
* `parseTimestamp_trip`: all of it together.
-/

set_option autoImplicit false

namespace LogSearch.Time

open Json (IsDigits EndsNumber endsNumber_cons endsNumber_nil isDigits_toDigits padded span_digits)

/-! ## Numerals -/

/-- The digits spell the number. -/
def Spells (cs : List Char) (n : ℕ) : Prop := IsDigits cs ∧ digitsValue cs = n

theorem digitsValue_eq (cs : List Char) : digitsValue cs = Nat.ofDigitChars 10 cs 0 := by
  rw [digitsValue, Nat.ofDigitChars_eq_foldl]
  simp only [Nat.mul_comm 10]
  rfl

theorem digitsValue_append (cs ds : List Char) :
    digitsValue (cs ++ ds) = digitsValue cs * 10 ^ ds.length + digitsValue ds := by
  simp only [digitsValue_eq, Nat.ofDigitChars_append]
  rw [Nat.ofDigitChars_eq_ofDigitChars_zero, Nat.mul_comm]

theorem digitsValue_lt {cs : List Char} (h : ∀ c ∈ cs, c.isDigit = true) :
    digitsValue cs < 10 ^ cs.length := by
  induction cs using List.reverseRecOn with
  | nil => decide
  | append_singleton cs c ih =>
    have hinit := ih fun d hd ↦ h d (List.mem_append_left _ hd)
    have hlast : digitsValue [c] < 10 := by
      have hc := h c (List.mem_append_right _ (List.mem_singleton_self c))
      simp only [Char.isDigit, Bool.and_eq_true, decide_eq_true_eq] at hc
      have : c.toNat ≤ 57 := hc.2
      show 0 * 10 + (c.toNat - 48) < 10
      omega
    rw [digitsValue_append, List.length_append, List.length_singleton, Nat.pow_succ]
    omega

theorem spells_padded (places n : ℕ) : Spells (padded places n) n := by
  obtain ⟨hne, hdigits⟩ := isDigits_toDigits n
  refine ⟨⟨by simp [padded, hne], ?_⟩, ?_⟩
  · intro c hc
    rcases List.mem_append.1 hc with hzero | hdigit
    · rw [List.eq_of_mem_replicate hzero]
      rfl
    · exact hdigits c hdigit
  · rw [digitsValue_eq, padded, Nat.ofDigitChars_append, Nat.ofDigitChars_replicate_zero,
      Nat.mul_zero, Nat.ofDigitChars_ten_toDigits]

theorem length_padded {places n : ℕ} (hpos : 0 < places) (h : n < 10 ^ places) :
    (padded places n).length = places := by
  have hle := (Nat.length_toDigits_le_iff (b := 10) (by decide) hpos).2 h
  simp only [padded, List.length_append, List.length_replicate]
  omega

section scanners

variable {ds rest : List Char} {n most : ℕ}

theorem endsNumber_take (h : EndsNumber rest) (k : ℕ) : EndsNumber (rest.take k) := by
  cases k with
  | zero => exact endsNumber_nil
  | succ k => cases rest <;> simpa using h

/-- Digits are scanned up to their end, or as many as may be. -/
theorem scanNumber_append (h : Spells ds n) (hlength : ds.length ≤ most)
    (hrest : ds.length = most ∨ EndsNumber rest) :
    scanNumber most (ds ++ rest) = some (n, rest) := by
  have hends : EndsNumber (rest.take (most - ds.length)) := by
    rcases hrest with heq | hends
    · rw [heq, Nat.sub_self]
      exact endsNumber_nil
    · exact endsNumber_take hends _
  have htake : (ds ++ rest).take most = ds ++ rest.take (most - ds.length) := by
    rw [List.take_append, List.take_of_length_le hlength]
  rw [scanNumber, htake, (span_digits h.1 hends).1, h.2, List.drop_left]
  simp [h.1.1]

theorem scanExactly_append (h : Spells ds n) : scanExactly ds.length (ds ++ rest) = some (n, rest) := by
  have hspan := (span_digits h.1 endsNumber_nil).1
  rw [List.append_nil] at hspan
  rw [scanExactly, List.take_left, hspan, h.2, List.drop_left]
  exact if_pos rfl

theorem isBlank_of_isDigit {c : Char} (h : c.isDigit = true) : Text.isBlank c = false := by
  simp only [Char.isDigit, Bool.and_eq_true, decide_eq_true_eq] at h
  have : 48 ≤ c.toNat := h.1
  have : c.toNat ≤ 57 := h.2
  simp only [Text.isBlank]
  grind

theorem dropBlank_append (h : Spells ds n) : Text.dropBlank (ds ++ rest) = ds ++ rest := by
  obtain ⟨c, cs, rfl⟩ := List.exists_cons_of_ne_nil h.1.1
  exact List.dropWhile_cons_of_neg (by simp [isBlank_of_isDigit (h.1.2 c List.mem_cons_self)])

theorem scanPart_append (h : Spells ds n) (hlength : ds.length = 2) :
    scanPart (ds ++ rest) = some (n, rest) := by
  rw [scanPart, dropBlank_append h]
  exact scanNumber_append h hlength.le (.inl hlength)

end scanners

/-! ## Years -/

section year

variable {rest : List Char}

theorem scanYear_unsigned {ds : List Char} {n : ℕ} (h : Spells ds n) (hlength : ds.length = 4) :
    scanYear (ds ++ rest) = some ((n : ℤ), rest) := by
  obtain ⟨c, cs, rfl⟩ := List.exists_cons_of_ne_nil h.1.1
  have hdigit := h.1.2 c List.mem_cons_self
  have hminus : c ≠ '-' := by rintro rfl; cases hdigit
  have hplus : c ≠ '+' := by rintro rfl; cases hdigit
  rw [scanYear, dropBlank_append h, List.cons_append]
  split
  · next heq => exact absurd (List.cons.inj heq).1 hminus
  · next heq => exact absurd (List.cons.inj heq).1 hplus
  · rw [← List.cons_append, scanNumber_append h hlength.le (.inl hlength)]
    rfl

theorem scanYear_signed {ds : List Char} {n : ℕ} (h : Spells ds n) (hrest : EndsNumber rest) :
    scanYear ('-' :: ds ++ rest) = some (-(n : ℤ), rest) ∧
      scanYear ('+' :: ds ++ rest) = some ((n : ℤ), rest) := by
  have hscan : scanNumber (ds ++ rest).length (ds ++ rest) = some (n, rest) :=
    scanNumber_append h (by simp) (.inr hrest)
  constructor
  · show (scanNumber (ds ++ rest).length (ds ++ rest)).map _ = some (-(n : ℤ), rest)
    rw [hscan]
    rfl
  · show (scanNumber (ds ++ rest).length (ds ++ rest)).map _ = some ((n : ℤ), rest)
    rw [hscan]
    rfl

/-- The text of a year is read as that year. -/
theorem scanYear_yearText (year : ℤ) (hrest : EndsNumber rest) :
    scanYear (Timestamp.yearText year ++ rest) = some (year, rest) := by
  rw [Timestamp.yearText]
  split
  · next h =>
    simp only [Bool.and_eq_true, decide_eq_true_eq] at h
    have hlength : (padded 4 year.toNat).length = 4 := length_padded (by decide) (by omega)
    rw [scanYear_unsigned (spells_padded 4 year.toNat) hlength, Int.toNat_of_nonneg h.1]
  · next h =>
    obtain ⟨hminus, hplus⟩ := scanYear_signed (spells_padded 4 year.natAbs) hrest
    by_cases hsign : year < 0
    · rw [if_pos hsign, hminus, Int.natCast_natAbs, abs_of_neg hsign, neg_neg]
    · rw [if_neg hsign, hplus, Int.natAbs_of_nonneg (Int.not_lt.1 hsign)]

end year

/-! ## Fractions -/

/-- A fraction of a second as it may be spelled: nothing for none, or a point and as many digits as one
likes. -/
inductive SpellsFraction : List Char → ℕ → Prop
  | none : SpellsFraction [] 0
  | digits {ds : List Char} {v n : ℕ} (h : Spells ds v) (hv : v * 10 ^ 9 = n * 10 ^ ds.length) :
    SpellsFraction ('.' :: ds) n

/-- The text does not go on with a fraction. -/
def EndsSecond (rest : List Char) : Prop := EndsNumber rest ∧ rest.head? ≠ some '.'

theorem endsSecond_nil : EndsSecond [] := ⟨endsNumber_nil, by simp⟩

section fraction

variable {cs rest : List Char} {n : ℕ}

/-- Nine digits are kept, and those behind them are zeros. -/
theorem scanNanoseconds_append {ds : List Char} {v : ℕ} (h : Spells ds v)
    (hv : v * 10 ^ 9 = n * 10 ^ ds.length) (hrest : EndsNumber rest) :
    scanNanoseconds (ds ++ rest) = some (n, rest) := by
  obtain ⟨htake, hdrop⟩ := span_digits h.1 hrest
  have hvalue : digitsValue (ds.take 9) * 10 ^ (9 - (ds.take 9).length) = n := by
    rcases Nat.le_total ds.length 9 with hle | hle
    · rw [List.take_of_length_le hle, h.2]
      refine Nat.eq_of_mul_eq_mul_right (Nat.pow_pos (n := ds.length) (by decide : 0 < 10)) ?_
      rw [Nat.mul_assoc, ← Nat.pow_add, Nat.sub_add_cancel hle, hv]
    · have hsplit := digitsValue_append (ds.take 9) (ds.drop 9)
      have hlow := @digitsValue_lt (ds.drop 9) fun c hc ↦ h.1.2 c (List.mem_of_mem_drop hc)
      rw [List.take_append_drop, h.2] at hsplit
      have hpow : 10 ^ ds.length = 10 ^ 9 * 10 ^ (ds.drop 9).length := by
        rw [← Nat.pow_add, List.length_drop, Nat.add_sub_cancel' hle]
      have hwhole : v = n * 10 ^ (ds.drop 9).length := by
        refine Nat.eq_of_mul_eq_mul_right (by decide : 0 < 10 ^ 9) ?_
        rw [hv, hpow]
        ring
      have hkept : digitsValue (ds.take 9) = n := by
        have hpos := Nat.zero_lt_of_lt hlow
        calc digitsValue (ds.take 9)
            = v / 10 ^ (ds.drop 9).length := by
              rw [hsplit, Nat.add_comm, Nat.add_mul_div_right _ _ hpos, Nat.div_eq_of_lt hlow,
                Nat.zero_add]
          _ = n := by rw [hwhole, Nat.mul_div_cancel _ hpos]
      rw [hkept, List.length_take, Nat.min_eq_left hle, Nat.sub_self, Nat.pow_zero, Nat.mul_one]
  rw [scanNanoseconds, htake, hdrop]
  show (if ds.isEmpty then none
    else some (digitsValue (ds.take 9) * 10 ^ (9 - (ds.take 9).length), rest)) = some (n, rest)
  rw [hvalue]
  simp [h.1.1]

theorem scanFraction_append (h : SpellsFraction cs n) (hrest : EndsSecond rest) :
    scanFraction (cs ++ rest) = some (n, rest) := by
  cases h with
  | none =>
    rw [List.nil_append, scanFraction]
    rintro cs rfl
    exact hrest.2 rfl
  | digits h hv => exact scanNanoseconds_append h hv hrest.1

/-- The groups of digits that are written. -/
theorem spellsFraction_fractionText (hn : n < 1000000000) :
    SpellsFraction (Timestamp.fractionText n) n := by
  have hgroups {places m : ℕ} (hpos : 0 < places) (hlt : m < 10 ^ places)
      (hv : m * 10 ^ 9 = n * 10 ^ places) : SpellsFraction ('.' :: padded places m) n := by
    refine .digits (spells_padded places m) ?_
    rw [length_padded hpos hlt, hv]
  rw [Timestamp.fractionText]
  split
  · next hzero =>
    rw [eq_of_beq hzero]
    exact .none
  · split
    · next hmod =>
      have := eq_of_beq hmod
      exact hgroups (by decide) (by omega) (by omega)
    · split
      · next hmod =>
        have := eq_of_beq hmod
        exact hgroups (by decide) (by omega) (by omega)
      · exact hgroups (by decide) hn rfl

end fraction

/-! ## Days and times -/

/-- Day and time in digits, with a text behind them. -/
def clockText (year : List Char) (separator : Char) (t : Timestamp) (behind : List Char) : List Char :=
  year ++ '-' :: (padded 2 t.date.month ++ '-' :: (padded 2 t.date.day ++ separator ::
    (padded 2 t.hour ++ ':' :: (padded 2 t.minute ++ ':' :: (padded 2 t.second ++ behind)))))

/-- An offset from UTC in minutes, as it may be spelled: hours and minutes with a sign, or a letter for
none. -/
inductive SpellsOffset : List Char → ℤ → Prop
  | zero {c : Char} (hc : c ∈ ['Z', 'z']) : SpellsOffset [c] 0
  | east {hours minutes : ℕ} (hhours : hours < 24) (hminutes : minutes < 60) :
    SpellsOffset ('+' :: padded 2 hours ++ ':' :: padded 2 minutes) (hours * 60 + minutes : ℕ)
  | west {hours minutes : ℕ} (hhours : hours < 24) (hminutes : minutes < 60) :
    SpellsOffset ('-' :: padded 2 hours ++ ':' :: padded 2 minutes) (-(hours * 60 + minutes : ℕ))

/-- A local time in the internet format, with its offset from UTC. -/
inductive IsInternet (t : Timestamp) (offset : ℤ) : List Char → Prop
  | mk {separator : Char} {fraction zone : List Char} (hyear : 0 ≤ t.date.year ∧ t.date.year ≤ 9999)
    (hseparator : separator ∈ ['T', 't', ' ']) (hfraction : SpellsFraction fraction t.nanosecond)
    (hzone : SpellsOffset zone offset) :
    IsInternet t offset
      (clockText (padded 4 t.date.year.toNat) separator t (fraction ++ zone))

section clock

variable {t : Timestamp} {separator : Char} {fraction rest : List Char} {n : ℕ}

theorem scanExactly_padded {places : ℕ} (hpos : 0 < places) (hn : n < 10 ^ places) :
    scanExactly places (padded places n ++ rest) = some (n, rest) := by
  have hscan := @scanExactly_append _ rest _ (spells_padded places n)
  rwa [length_padded hpos hn] at hscan

@[simp] theorem scanChar_self (c : Char) (cs : List Char) : scanChar c (c :: cs) = some cs := if_pos rfl

/-- Two digits, as the internet format has them. -/
theorem scanPair_padded (hn : n < 100) : scanExactly 2 (padded 2 n ++ rest) = some (n, rest) :=
  scanExactly_padded (by decide) hn

theorem scanPart_padded (hn : n < 100) : scanPart (padded 2 n ++ rest) = some (n, rest) :=
  scanPart_append (spells_padded 2 n) (length_padded (by decide) hn)

theorem Timestamp.fields_lt (t : Timestamp) : t.date.month < 100 ∧ t.date.day < 100 ∧ t.hour < 100 ∧
    t.minute < 100 ∧ t.second < 100 := by
  obtain ⟨⟨-, hmonth⟩, -, hday⟩ := t.date.inYear
  have hlength : monthLength t.date.year t.date.month ≤ 31 := by
    unfold monthLength
    grind
  have := t.hour_lt
  have := t.minute_lt
  have := t.second_le
  omega

theorem Date.of?_self (d : Date) : Date.of? d.year d.month d.day = some d :=
  Date.of?_eq_some_iff.2 ⟨rfl, rfl, rfl⟩

theorem Timestamp.of?_self (t : Timestamp) :
    Timestamp.of? t.date t.hour t.minute t.second t.nanosecond = some t :=
  Timestamp.of?_eq_some_iff.2 ⟨rfl, rfl, rfl, rfl, rfl⟩

/-- **The internet format** is read up to the offset, which is taken off then. -/
theorem readInternet?_clockText (hyear : 0 ≤ t.date.year ∧ t.date.year ≤ 9999)
    (hseparator : separator ∈ ['T', 't', ' ']) (hfraction : SpellsFraction fraction t.nanosecond)
    (hrest : EndsSecond rest) :
    readInternet? (clockText (padded 4 t.date.year.toNat) separator t (fraction ++ rest))
      = (scanOffset rest).bind fun found ↦
          if !found.2.isEmpty then none else t.shift? (-found.1) := by
  obtain ⟨hmonth, hday, hhour, hminute, hsecond⟩ := t.fields_lt
  have hdate : Date.of? (Int.ofNat t.date.year.toNat) t.date.month t.date.day = some t.date := by
    rw [Int.ofNat_eq_natCast, Int.toNat_of_nonneg hyear.1]
    exact t.date.of?_self
  have hfour : t.date.year.toNat < 10 ^ 4 := by omega
  rw [readInternet?, clockText, scanExactly_padded (by decide) hfour]
  dsimp only [Option.bind_eq_bind, Option.bind_some]
  rw [scanChar_self, Option.bind_some, scanPair_padded hmonth, Option.bind_some, scanChar_self,
    Option.bind_some, scanPair_padded hday, Option.bind_some]
  simp only [List.mem_cons, List.not_mem_nil, or_false] at hseparator
  rcases hseparator with rfl | rfl | rfl
  all_goals
    show (scanExactly 2 (padded 2 t.hour ++ _)).bind _ = _
    rw [scanPair_padded hhour, Option.bind_some, scanChar_self, Option.bind_some,
      scanPair_padded hminute, Option.bind_some, scanChar_self, Option.bind_some,
      scanPair_padded hsecond, Option.bind_some, scanFraction_append hfraction hrest, Option.bind_some]
    simp only [hdate, t.of?_self, Option.bind_some]

/-- **A day and a time in UTC** are read up to the end. -/
theorem readPlain?_clockText (hfraction : SpellsFraction fraction t.nanosecond) :
    readPlain? (scanChar separator)
      (clockText (Timestamp.yearText t.date.year) separator t fraction) = some t := by
  obtain ⟨hmonth, hday, hhour, hminute, hsecond⟩ := t.fields_lt
  have hdash (rest : List Char) : EndsNumber ('-' :: rest) := endsNumber_cons.2 rfl
  have hscan := scanFraction_append hfraction endsSecond_nil
  rw [List.append_nil] at hscan
  rw [readPlain?, scanDate, clockText, scanYear_yearText t.date.year (hdash _)]
  dsimp only [Option.bind_eq_bind, Option.bind_some]
  rw [scanChar_self, Option.bind_some, scanPart_padded hmonth, Option.bind_some, scanChar_self,
    Option.bind_some, scanPart_padded hday, Option.bind_some, t.date.of?_self, Option.bind_some]
  dsimp only [pure, Option.bind_some]
  rw [scanChar_self, Option.bind_some, scanPart_padded hhour, Option.bind_some, scanChar_self,
    Option.bind_some, scanPart_padded hminute, Option.bind_some, scanChar_self,
    Option.bind_some, scanPart_padded hsecond, Option.bind_some, hscan, Option.bind_some]
  exact t.of?_self

/-- A text that starts with a sign is not in the internet format. -/
theorem readInternet?_cons {c : Char} {cs : List Char} (hc : c.isDigit = false) :
    readInternet? (c :: cs) = none := by
  have hscan : scanExactly 4 (c :: cs) = none := by simp [scanExactly, hc]
  rw [readInternet?, hscan]
  rfl

end clock

/-! ## Offsets -/

section offset

variable {zone : List Char} {offset : ℤ}

theorem SpellsOffset.bounds (h : SpellsOffset zone offset) : -1440 < offset ∧ offset < 1440 := by
  cases h with
  | zero hc => decide
  | east hhours hminutes => omega
  | west hhours hminutes => omega

theorem SpellsOffset.endsSecond (h : SpellsOffset zone offset) : EndsSecond zone := by
  cases h with
  | zero hc =>
    simp only [List.mem_cons, List.not_mem_nil, or_false] at hc
    rcases hc with rfl | rfl <;> simp [EndsSecond]
  | east hhours hminutes => simp [EndsSecond]
  | west hhours hminutes => simp [EndsSecond]

theorem scanOffset_eq (h : SpellsOffset zone offset) : scanOffset zone = some (offset, []) := by
  have hend {n : ℕ} (hn : n < 60) : scanExactly 2 (padded 2 n) = some (n, []) := by
    simpa using @scanPair_padded [] n (hn.trans (by decide))
  cases h with
  | zero hc =>
    simp only [List.mem_cons, List.not_mem_nil, or_false] at hc
    rcases hc with rfl | rfl <;> rfl
  | east hhours hminutes =>
    simp [scanOffset, scanPair_padded (hhours.trans (by decide)), hend hminutes, hhours, hminutes]
  | west hhours hminutes =>
    simp [scanOffset, scanPair_padded (hhours.trans (by decide)), hend hminutes, hhours, hminutes]

/-- Every offset of less than a day can be spelled. -/
theorem exists_spellsOffset (hlow : -1440 < offset) (hhigh : offset < 1440) :
    ∃ zone, SpellsOffset zone offset := by
  rcases Int.le_total 0 offset with hpos | hneg
  · have heast := @SpellsOffset.east (offset.toNat / 60) (offset.toNat % 60) (by omega) (by omega)
    rw [Nat.div_add_mod', Int.toNat_of_nonneg hpos] at heast
    exact ⟨_, heast⟩
  · have hwest := @SpellsOffset.west ((-offset).toNat / 60) ((-offset).toNat % 60) (by omega) (by omega)
    rw [Nat.div_add_mod', Int.toNat_of_nonneg (by omega), neg_neg] at hwest
    exact ⟨_, hwest⟩

end offset

/-! ## Texts -/

/-- The first and the last character are not blank. -/
theorem trim_eq_self {cs : List Char} (hhead : ∀ c ∈ cs.head?, Text.isBlank c = false)
    (hlast : ∀ c ∈ cs.getLast?, Text.isBlank c = false) : Text.trim cs = cs := by
  have hdrop {ds : List Char} (hds : ∀ c ∈ ds.head?, Text.isBlank c = false) :
      Text.dropBlank ds = ds := by
    cases ds with
    | nil => rfl
    | cons d ds => exact List.dropWhile_cons_of_neg (by simp [hds d rfl])
  rw [Text.trim, hdrop hhead, hdrop (by rwa [List.head?_reverse]), List.reverse_reverse]

section texts

variable {t there : Timestamp} {offset : ℤ}

theorem write_eq (separator : Char) (t : Timestamp) :
    t.write separator = clockText (Timestamp.yearText t.date.year) separator t
      (Timestamp.fractionText t.nanosecond) := by
  simp only [Timestamp.write, clockText, List.append_assoc, List.cons_append]

/-- The text that is sent has no offset, so it is not in the internet format. -/
theorem readInternet?_write (t : Timestamp) : readInternet? (t.write 'T') = none := by
  rw [write_eq]
  by_cases hyear : 0 ≤ t.date.year ∧ t.date.year ≤ 9999
  · have htext : Timestamp.yearText t.date.year = padded 4 t.date.year.toNat := by
      rw [Timestamp.yearText, if_pos (by simpa using hyear)]
    have hread := readInternet?_clockText hyear (List.mem_cons_self (a := 'T'))
      (spellsFraction_fractionText t.nanosecond_lt) endsSecond_nil
    rw [List.append_nil] at hread
    rw [htext, hread]
    rfl
  · have htext : Timestamp.yearText t.date.year
        = (if t.date.year < 0 then '-' else '+') :: padded 4 t.date.year.natAbs := by
      rw [Timestamp.yearText, if_neg (by simpa using hyear)]
    rw [htext, clockText, List.cons_append]
    exact readInternet?_cons (by split <;> rfl)

theorem readTimestamp?_write (t : Timestamp) : readTimestamp? (t.write 'T') = some t := by
  rw [readTimestamp?, readInternet?_write, write_eq,
    readPlain?_clockText (spellsFraction_fractionText t.nanosecond_lt)]
  rfl

/-- A local time in the internet format is read as the time in UTC. -/
theorem IsInternet.readTimestamp? {cs : List Char} (h : IsInternet there offset cs)
    (hthere : t.IsShifted there offset) : Time.readTimestamp? cs = some t := by
  obtain ⟨hyear, hseparator, hfraction, hzone⟩ := h
  have hbounds := hzone.bounds
  have hshift : there.shift? (-offset) = some t :=
    (Timestamp.shift?_eq_some_iff (by omega) (by omega)).2 hthere.symm
  have hread := readInternet?_clockText hyear hseparator hfraction hzone.endsSecond
  rw [scanOffset_eq hzone, Option.bind_some, if_neg (by simp), hshift] at hread
  rw [Time.readTimestamp?, hread]
  rfl

theorem isBlank_padded {places n : ℕ} : ∀ c ∈ padded places n, Text.isBlank c = false :=
  fun c hc ↦ isBlank_of_isDigit ((spells_padded places n).1.2 c hc)

theorem SpellsFraction.isBlank {cs : List Char} {n : ℕ} (h : SpellsFraction cs n) :
    ∀ c ∈ cs, Text.isBlank c = false := by
  cases h with
  | none => exact List.forall_mem_nil _
  | digits h hv => exact List.forall_mem_cons.2 ⟨rfl, fun c hc ↦ isBlank_of_isDigit (h.1.2 c hc)⟩

theorem SpellsOffset.isBlank {zone : List Char} (h : SpellsOffset zone offset) :
    ∀ c ∈ zone, Text.isBlank c = false := by
  have hsigned (sign : Char) (hsign : Text.isBlank sign = false) (m n : ℕ) :
      ∀ c ∈ sign :: padded 2 m ++ ':' :: padded 2 n, Text.isBlank c = false :=
    List.forall_mem_append.2 ⟨List.forall_mem_cons.2 ⟨hsign, isBlank_padded⟩,
      List.forall_mem_cons.2 ⟨rfl, isBlank_padded⟩⟩
  cases h with
  | zero hc =>
    simp only [List.mem_cons, List.not_mem_nil, or_false] at hc
    rcases hc with rfl | rfl <;> simp <;> rfl
  | east => exact hsigned '+' rfl _ _
  | west => exact hsigned '-' rfl _ _

theorem isBlank_yearText (year : ℤ) : ∀ c ∈ Timestamp.yearText year, Text.isBlank c = false := by
  rw [Timestamp.yearText]
  split
  · exact isBlank_padded
  · refine List.forall_mem_cons.2 ⟨?_, isBlank_padded⟩
    split <;> rfl

theorem yearText_ne_nil (year : ℤ) : Timestamp.yearText year ≠ [] := by
  rw [Timestamp.yearText]
  split
  · exact (spells_padded _ _).1.1
  · exact List.cons_ne_nil _ _

/-- No blanks are cut off a text that neither begins nor ends with one. -/
theorem parseTimestamp_clockText {text : String} {year behind : List Char} {separator : Char}
    (htext : text.toList = clockText year separator there behind)
    (hread : readTimestamp? text.toList = some t) (hne : year ≠ [])
    (hyear : ∀ c ∈ year, Text.isBlank c = false)
    (hbehind : ∀ c ∈ behind, Text.isBlank c = false) : parseTimestamp text = .ok t := by
  have hfront : ∃ front, text.toList = front ++ (padded 2 there.second ++ behind) := by
    rw [htext]
    exact ⟨year ++ '-' :: (padded 2 there.date.month ++ '-' :: (padded 2 there.date.day ++
      separator :: (padded 2 there.hour ++ ':' :: (padded 2 there.minute ++ [':'])))),
      by simp [clockText]⟩
  have htrim : Text.trim text.toList = text.toList := by
    apply trim_eq_self
    · rw [htext, clockText, List.head?_append_of_ne_nil _ hne]
      exact fun c hc ↦ hyear c (List.mem_of_mem_head? hc)
    · obtain ⟨front, hfront⟩ := hfront
      have hlast : padded 2 there.second ++ behind ≠ [] := by simp [(spells_padded 2 _).1.1]
      rw [hfront, List.getLast?_append_of_ne_nil _ hlast]
      exact fun c hc ↦ List.forall_mem_append.2 ⟨isBlank_padded, hbehind⟩ c (List.mem_of_getLast? hc)
  rw [parseTimestamp, htrim]
  simp only [hread]

/-! ## Round trips -/

/-- **The text that is sent is read back.** -/
theorem parseTimestamp_format_self (t : Timestamp) : parseTimestamp t.format = .ok t := by
  have htext : t.format.toList = t.write 'T' := String.toList_ofList
  refine parseTimestamp_clockText (htext.trans (write_eq 'T' t)) ?_ (yearText_ne_nil _)
    (isBlank_yearText _) (spellsFraction_fractionText t.nanosecond_lt).isBlank
  rw [htext]
  exact readTimestamp?_write t

theorem format_injective : Function.Injective Timestamp.format := by
  intro t u h
  have hread := parseTimestamp_format_self t
  rw [h, parseTimestamp_format_self u] at hread
  exact (Except.ok.inj hread).symm

/-- The bounds of a window can be told from the query that confines a search to it. -/
theorem toQuery_injective : Function.Injective TimeWindow.toQuery := by
  rintro ⟨field, start, finish⟩ ⟨field', start', finish'⟩ h
  simp only [TimeWindow.toQuery, Query.range.injEq, List.cons.injEq, Prod.mk.injEq, true_and] at h
  obtain ⟨rfl, hstart, hfinish⟩ := h
  obtain rfl := format_injective hstart
  cases finish <;> cases finish' <;> simp at hfinish
  · rfl
  · rw [format_injective hfinish]

/-- **A local time in the internet format** is read as the time in UTC. -/
theorem IsInternet.parseTimestamp {text : String} (h : IsInternet there offset text.toList)
    (hthere : t.IsShifted there offset) : Time.parseTimestamp text = .ok t := by
  have hread := h.readTimestamp? hthere
  generalize htext : text.toList = cs at h
  obtain ⟨hyear, hseparator, hfraction, hzone⟩ := h
  exact parseTimestamp_clockText htext hread (spells_padded _ _).1.1 isBlank_padded
    (List.forall_mem_append.2 ⟨hfraction.isBlank, hzone.isBlank⟩)

/-- **Timestamps survive the trip.**  The text that is sent is read back as the timestamp, so that
different bounds of a window are sent as different texts.  A timestamp is also read from every text in
the internet format that gives a local time and its offset from UTC. -/
theorem parseTimestamp_trip :
    (∀ t : Timestamp, parseTimestamp t.format = .ok t) ∧ Function.Injective Timestamp.format ∧
    Function.Injective TimeWindow.toQuery ∧
    ∀ (t there : Timestamp) (offset : ℤ), -1440 < offset → offset < 1440 →
      t.IsShifted there offset → 0 ≤ there.date.year → there.date.year ≤ 9999 →
      (∃ text : String, IsInternet there offset text.toList) ∧
      ∀ text : String, IsInternet there offset text.toList → parseTimestamp text = .ok t := by
  refine ⟨parseTimestamp_format_self, format_injective, toQuery_injective, ?_⟩
  intro t there offset hlow hhigh hthere hyear hyear'
  refine ⟨?_, fun text h ↦ h.parseTimestamp hthere⟩
  obtain ⟨zone, hzone⟩ := exists_spellsOffset hlow hhigh
  have htext := IsInternet.mk ⟨hyear, hyear'⟩ (List.mem_cons_self (a := 'T'))
    (spellsFraction_fractionText there.nanosecond_lt) hzone
  exact ⟨String.ofList _, by rwa [String.toList_ofList]⟩

/-- A leap second at the end of the last day before year 0, given in a zone half an hour ahead. -/
theorem parseTimestamp_trip_border :
    let t : Timestamp := ⟨⟨-1, 12, 31, by decide⟩, 23, 30, 60, 500000000, by decide, by decide,
      by decide, by decide⟩
    let there : Timestamp := ⟨⟨0, 1, 1, by decide⟩, 0, 0, 60, 500000000, by decide, by decide,
      by decide, by decide⟩
    parseTimestamp t.format = .ok t ∧ t.IsShifted there 30 ∧
      IsInternet there 30 "0000-01-01T00:00:60.5+00:30".toList ∧
      parseTimestamp "0000-01-01T00:00:60.5+00:30" = .ok t := by
  intro t there
  have hthere : t.IsShifted there 30 := ⟨by decide +kernel, rfl, rfl⟩
  have hfraction : SpellsFraction ['.', '5'] 500000000 :=
    @SpellsFraction.digits ['5'] 5 _ ⟨⟨by decide, List.forall_mem_singleton.2 rfl⟩, rfl⟩ (by decide)
  have hzone : SpellsOffset ['+', '0', '0', ':', '3', '0'] 30 :=
    @SpellsOffset.east 0 30 (by decide) (by decide)
  have hpieces : "0000-01-01T00:00:60.5+00:30".toList = clockText (padded 4 0) 'T' there
      (['.', '5'] ++ ['+', '0', '0', ':', '3', '0']) := by decide +kernel
  have htext : IsInternet there 30 "0000-01-01T00:00:60.5+00:30".toList := by
    rw [hpieces]
    exact .mk (by decide) (by decide) hfraction hzone
  obtain ⟨hformat, -, -, hinternet⟩ := parseTimestamp_trip
  exact ⟨hformat t, hthere, htext,
    (hinternet t there 30 (by decide) (by decide) hthere (by decide) (by decide)).2 _ htext⟩

end texts

end LogSearch.Time
