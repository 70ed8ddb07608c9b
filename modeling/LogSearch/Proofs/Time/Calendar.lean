import LogSearch.Time.Timestamp
import Mathlib.Algebra.BigOperators.Intervals
import Mathlib.Algebra.Order.BigOperators.Group.Finset

/-!
# Days and minutes, counted

The days of the calendar can be numbered: in front of a day stand the years before it, the months
before it in its year, and the days before it in its month.  Different days have different numbers
(`numberOf_inj`), and the days around a day are those with the numbers around its own.  With the days,
the minutes are numbered, and moving a timestamp adds to its number of minutes and leaves its second as
it is (`shift?_eq_some_iff`), whatever borders of days, months and years are crossed.

## What is here

* `daysBeforeYear`, `daysBeforeMonth`, `numberOf`, `Date.number` — the numbers of days;
* `Date.previous?_eq_some_iff`, `Date.next?_eq_some_iff` — the days around a day;
* `Timestamp.minutes`, `Timestamp.IsShifted`, `Timestamp.shift?_eq_some_iff` — moving timestamps.
-/

set_option autoImplicit false
namespace LogSearch.Time

/-! ## The numbers of days -/

/-- The days of the years from year 0 on that are before a year, less those from the year on that are
before year 0.  Every year has 365 days, and the leap years one more. -/
def daysBeforeYear (year : ℤ) : ℤ :=
  365 * year + (year + 3) / 4 - (year + 99) / 100 + (year + 399) / 400

/-- The days of a year before a month. -/
def daysBeforeMonth (year : ℤ) (month : ℕ) : ℕ := ∑ m ∈ Finset.Ico 1 month, monthLength year m

/-- The number of a day. -/
def numberOf (year : ℤ) (month day : ℕ) : ℤ :=
  daysBeforeYear year + (daysBeforeMonth year month + day : ℕ)

/-- There is such a day in the year, if there is such a year. -/
def InYear (year : ℤ) (month day : ℕ) : Prop :=
  (1 ≤ month ∧ month ≤ 12) ∧ 1 ≤ day ∧ day ≤ monthLength year month

section days

variable {year year' : ℤ} {month month' day day' : ℕ}

theorem daysBeforeMonth_succ (h : 1 ≤ month) :
    daysBeforeMonth year (month + 1) = daysBeforeMonth year month + monthLength year month :=
  Finset.sum_Ico_succ_top h _

theorem daysBeforeMonth_mono (h : month ≤ month') :
    daysBeforeMonth year month ≤ daysBeforeMonth year month' :=
  Finset.sum_le_sum_of_subset (Finset.Ico_subset_Ico_right h)

/-- The days of all months of a year. -/
theorem daysBeforeMonth_thirteen :
    daysBeforeMonth year 13 = if isLeapYear year then 366 else 365 := by
  simp only [daysBeforeMonth, Finset.sum_Ico_succ_top, Nat.reduceLeDiff, Finset.Ico_self,
    Finset.sum_empty, monthLength]
  split <;> rfl

theorem daysBeforeYear_succ (year : ℤ) :
    daysBeforeYear (year + 1) = daysBeforeYear year + daysBeforeMonth year 13 := by
  rw [daysBeforeMonth_thirteen, daysBeforeYear, daysBeforeYear]
  split <;> rename_i h <;> simp [isLeapYear] at h <;> push_cast <;> omega

theorem daysBeforeYear_mono (h : year ≤ year') : daysBeforeYear year ≤ daysBeforeYear year' := by
  rw [daysBeforeYear, daysBeforeYear]
  omega

/-- A day is behind all days of the months before its own, and not behind those of its own. -/
theorem InYear.bounds (h : InYear year month day) :
    0 < day ∧ daysBeforeMonth year month + day ≤ daysBeforeMonth year (month + 1) := by
  obtain ⟨⟨hmonth, -⟩, hday, hlength⟩ := h
  rw [daysBeforeMonth_succ hmonth]
  omega

theorem InYear.number_le (h : InYear year month day) :
    daysBeforeYear year < numberOf year month day ∧
      numberOf year month day ≤ daysBeforeYear (year + 1) := by
  obtain ⟨hpos, hle⟩ := h.bounds
  have hyear := @daysBeforeMonth_mono year (month + 1) 13 (Nat.add_le_add_right h.1.2 1)
  rw [daysBeforeYear_succ, numberOf]
  omega

/-- Days with the same number are the same. -/
theorem numberOf_inj (h : InYear year month day) (h' : InYear year' month' day')
    (heq : numberOf year month day = numberOf year' month' day') :
    year = year' ∧ month = month' ∧ day = day' := by
  have hyear : year = year' := by
    have hle := h.number_le
    have hle' := h'.number_le
    rcases lt_trichotomy year year' with hlt | heq | hlt
    · have := daysBeforeYear_mono (Int.add_one_le_of_lt hlt)
      omega
    · exact heq
    · have := daysBeforeYear_mono (Int.add_one_le_of_lt hlt)
      omega
  subst hyear
  have hdays : daysBeforeMonth year month + day = daysBeforeMonth year month' + day' := by
    rw [numberOf, numberOf] at heq
    omega
  have hmonth : month = month' := by
    have hle := h.bounds
    have hle' := h'.bounds
    rcases lt_trichotomy month month' with hlt | heq | hlt
    · have := @daysBeforeMonth_mono year (month + 1) month' hlt
      omega
    · exact heq
    · have := @daysBeforeMonth_mono year (month' + 1) month hlt
      omega
  subst hmonth
  exact ⟨rfl, rfl, Nat.add_left_cancel hdays⟩

end days

/-! ## The days around a day -/

namespace Date

variable {d e : Date}

/-- The number of a day. -/
def number (d : Date) : ℤ := numberOf d.year d.month d.day

theorem inYear (d : Date) : InYear d.year d.month d.day := d.valid.2

theorem number_inj (h : d.number = e.number) : d = e := by
  obtain ⟨hyear, hmonth, hday⟩ := numberOf_inj d.inYear e.inYear h
  cases d
  cases e
  cases hyear
  cases hmonth
  cases hday
  rfl

theorem of?_eq_some_iff {year : ℤ} {month day : ℕ} :
    of? year month day = some e ↔ e.year = year ∧ e.month = month ∧ e.day = day := by
  rw [of?]
  constructor
  · intro h
    split at h
    · cases h
      exact ⟨rfl, rfl, rfl⟩
    · cases h
  · rintro ⟨rfl, rfl, rfl⟩
    exact dif_pos e.valid

/-- A day is found by its number. -/
theorem of?_eq_some_iff_number {year : ℤ} {month day : ℕ} (h : InYear year month day) :
    of? year month day = some e ↔ e.number = numberOf year month day := by
  rw [of?_eq_some_iff]
  constructor
  · rintro ⟨rfl, rfl, rfl⟩
    rfl
  · exact numberOf_inj e.inYear h

theorem previous?_eq (d : Date) : ∃ year month day, d.previous? = of? year month day ∧
    InYear year month day ∧ numberOf year month day + 1 = d.number := by
  obtain ⟨⟨hmonth, hmonth'⟩, hday, hday'⟩ := d.inYear
  rw [previous?, number, numberOf]
  split
  · refine ⟨_, _, _, rfl, ⟨⟨hmonth, hmonth'⟩, by omega, by omega⟩, ?_⟩
    rw [numberOf]
    omega
  · split
    · next hlt hmonths =>
      obtain ⟨m, hm⟩ : ∃ m, d.month = m + 1 := Nat.exists_eq_add_of_le' hmonth
      have hsucc := @daysBeforeMonth_succ d.year m (by omega)
      have hlength : 1 ≤ monthLength d.year m := by
        unfold monthLength
        grind
      rw [hm, Nat.add_sub_cancel]
      refine ⟨_, _, _, rfl, ⟨⟨by omega, by omega⟩, hlength, le_rfl⟩, ?_⟩
      rw [numberOf]
      omega
    · refine ⟨_, _, _, rfl, ⟨by decide, by decide, le_rfl⟩, ?_⟩
      have hone : d.month = 1 := by omega
      have hyear := daysBeforeYear_succ (d.year - 1)
      rw [Int.sub_add_cancel, @daysBeforeMonth_succ _ 12 (by decide)] at hyear
      have hfirst : daysBeforeMonth d.year 1 = 0 := rfl
      have hlast : monthLength (d.year - 1) 12 = 31 := rfl
      rw [hone, numberOf, hyear, hfirst, hlast]
      omega

theorem next?_eq (d : Date) : ∃ year month day, d.next? = of? year month day ∧
    InYear year month day ∧ numberOf year month day = d.number + 1 := by
  obtain ⟨⟨hmonth, hmonth'⟩, hday, hday'⟩ := d.inYear
  rw [next?, number, numberOf]
  split
  · refine ⟨_, _, _, rfl, ⟨⟨hmonth, hmonth'⟩, by omega, by omega⟩, ?_⟩
    rw [numberOf]
    omega
  · split
    · have hsucc := @daysBeforeMonth_succ d.year d.month hmonth
      have hlength : 1 ≤ monthLength d.year (d.month + 1) := by
        unfold monthLength
        grind
      refine ⟨_, _, _, rfl, ⟨⟨by omega, by omega⟩, le_rfl, hlength⟩, ?_⟩
      rw [numberOf]
      omega
    · refine ⟨_, _, _, rfl, ⟨by decide, le_rfl, Nat.le_add_left 1 30⟩, ?_⟩
      have htwelve : d.month = 12 := by omega
      have hyear := daysBeforeYear_succ d.year
      have hfirst : daysBeforeMonth (d.year + 1) 1 = 0 := rfl
      rw [@daysBeforeMonth_succ _ 12 (by decide), ← htwelve] at hyear
      rw [numberOf, hyear, hfirst]
      omega

/-- **The day before a day** has the number before its number. -/
theorem previous?_eq_some_iff : d.previous? = some e ↔ e.number + 1 = d.number := by
  obtain ⟨year, month, day, hprevious, hin, hnumber⟩ := d.previous?_eq
  rw [hprevious, of?_eq_some_iff_number hin, ← hnumber]
  exact Int.add_left_inj 1 |>.symm

/-- **The day after a day** has the number after its number. -/
theorem next?_eq_some_iff : d.next? = some e ↔ e.number = d.number + 1 := by
  obtain ⟨year, month, day, hnext, hin, hnumber⟩ := d.next?_eq
  rw [hnext, of?_eq_some_iff_number hin, hnumber]

end Date

/-! ## Moving timestamps -/

namespace Timestamp

/-- The minutes of a day in front of a timestamp. -/
def minuteOfDay (t : Timestamp) : ℕ := t.hour * 60 + t.minute

/-- The number of the minute of a timestamp. -/
def minutes (t : Timestamp) : ℤ := t.date.number * 1440 + t.minuteOfDay

/-- One timestamp is so many minutes after another, at the same second of its minute. -/
structure IsShifted (t u : Timestamp) (minutes : ℤ) : Prop where
  minutes_eq : u.minutes = t.minutes + minutes
  seconds_eq : u.second = t.second ∧ u.nanosecond = t.nanosecond

variable {t u : Timestamp} {minutes : ℤ}

theorem IsShifted.symm (h : t.IsShifted u minutes) : u.IsShifted t (-minutes) :=
  ⟨by rw [h.minutes_eq]; omega, h.seconds_eq.1.symm, h.seconds_eq.2.symm⟩

theorem minuteOfDay_lt (t : Timestamp) : t.minuteOfDay < 1440 := by
  have := t.hour_lt
  have := t.minute_lt
  rw [minuteOfDay]
  omega

theorem of?_eq_some_iff {date : Date} {hour minute second nanosecond : ℕ} :
    of? date hour minute second nanosecond = some u ↔
      u.date = date ∧ u.hour = hour ∧ u.minute = minute ∧ u.second = second ∧
        u.nanosecond = nanosecond := by
  rw [of?]
  constructor
  · intro h
    split at h
    · cases h
      exact ⟨rfl, rfl, rfl, rfl, rfl⟩
    · cases h
  · rintro ⟨rfl, rfl, rfl, rfl, rfl⟩
    exact dif_pos ⟨⟨u.hour_lt, u.minute_lt⟩, u.second_le, u.nanosecond_lt⟩

theorem setMinutes_eq_some_iff {date : Date} {n : ℕ} :
    t.setMinutes date n = some u ↔
      u.date = date ∧ u.minuteOfDay = n ∧ u.second = t.second ∧ u.nanosecond = t.nanosecond := by
  have := u.minute_lt
  rw [setMinutes, of?_eq_some_iff, minuteOfDay]
  constructor
  · rintro ⟨hdate, hhour, hminute, hseconds⟩
    exact ⟨hdate, by omega, hseconds⟩
  · rintro ⟨hdate, hminutes, hseconds⟩
    exact ⟨hdate, by omega, by omega, hseconds⟩

/-- The minute `n` of the day that is so many days after that of `t`. -/
theorem bind_setMinutes_eq_some_iff {day : Option Date} (days : ℤ) {n : ℕ} (hn : n < 1440)
    (h : t.minuteOfDay + minutes = days * 1440 + n)
    (hday : ∀ date, day = some date ↔ date.number = t.date.number + days) :
    (day.bind fun date ↦ t.setMinutes date n) = some u ↔ t.IsShifted u minutes := by
  have := u.minuteOfDay_lt
  rw [Option.bind_eq_some_iff]
  constructor
  · rintro ⟨date, hdate, hset⟩
    obtain ⟨rfl, hminute, hseconds⟩ := setMinutes_eq_some_iff.1 hset
    have hnumber := (hday _).1 hdate
    refine ⟨?_, hseconds⟩
    rw [Timestamp.minutes, Timestamp.minutes]
    omega
  · rintro ⟨hminutes, hseconds⟩
    rw [Timestamp.minutes, Timestamp.minutes] at hminutes
    exact ⟨u.date, (hday _).2 (by omega), setMinutes_eq_some_iff.2 ⟨rfl, by omega, hseconds⟩⟩

/-- **Moving a timestamp** by less than a day finds the one that is so many minutes after it. -/
theorem shift?_eq_some_iff (hlow : -1440 < minutes) (hhigh : minutes < 1440) :
    t.shift? minutes = some u ↔ t.IsShifted u minutes := by
  have := t.minuteOfDay_lt
  have htotal : Int.ofNat (t.hour * 60 + t.minute) = t.minuteOfDay := rfl
  rw [shift?, htotal]
  split
  · refine bind_setMinutes_eq_some_iff (-1) (by omega) (by omega) fun date ↦ ?_
    rw [Date.previous?_eq_some_iff]
    omega
  · split
    · have hsame : ∀ date, some t.date = some date ↔ date.number = t.date.number + 0 := by
        intro date
        rw [Int.add_zero, Option.some_inj]
        exact ⟨fun h ↦ by rw [h], fun h ↦ (Date.number_inj h).symm⟩
      exact bind_setMinutes_eq_some_iff 0 (by omega) (by omega) hsame
    · refine bind_setMinutes_eq_some_iff 1 (by omega) (by omega) fun date ↦ ?_
      rw [Date.next?_eq_some_iff]

end Timestamp

end LogSearch.Time
