import LogSearch.Proofs.Client.Attempts
import Mathlib.Data.List.Basic
import Mathlib.Tactic.Ring

/-!
# Delays that double

The usual delays are one second, two, four and so on.  They are computed in doubles, which hold powers
of two exactly, but a delay has less than `2 ^ 64` seconds.  So an operation that always fails for
reasons that may pass is called as often as is allowed, up to 65 times.  If more calls are allowed, the
65th failure asks for a delay that does not exist, and nothing more can be done (`retry_doubling`).

## What is here

* `twoTo`, `power_two` — powers of two in doubles, and that squaring computes them;
* `doubling`, `delay?_later_doubling` — the usual delays, with any number of attempts;
* `Doubled`, `retry_doubling` — attempts that all fail.
-/

set_option autoImplicit false
namespace LogSearch.Backoff

open Time (Duration)

/-! ## Powers of two -/

/-- A power of two as a double: the exponent stands above 52 bits that are zero. -/
def twoTo (i : ℕ) : Float := .ofBits ((1023 + i) <<< 52).toUInt64

theorem twoTo_mul : ∀ k ≤ 6, ∀ r < 2 ^ k, r + 2 ^ k ≤ 64 →
    twoTo r * twoTo (2 ^ k) = twoTo (r + 2 ^ k) := by
  decide +kernel

theorem twoTo_mul_self : ∀ k < 6, twoTo (2 ^ k) * twoTo (2 ^ k) = twoTo (2 ^ (k + 1)) := by
  decide +kernel

/-- After `k` rounds the result has the last `k` digits of the exponent, and the base is squared `k`
times. -/
theorem powerLoop_twoTo {k r n : ℕ} (hk : k ≤ 6) (hr : r < 2 ^ k) (hn : r + n * 2 ^ k ≤ 64) :
    powerLoop (twoTo r) (twoTo (2 ^ k)) n = twoTo (r + n * 2 ^ k) := by
  induction n using Nat.strongRecOn generalizing k r with
  | ind n ih =>
    have hpos : 0 < 2 ^ k := Nat.two_pow_pos k
    have hstep : (if n % 2 == 1 then twoTo r * twoTo (2 ^ k) else twoTo r)
        = twoTo (r + n % 2 * 2 ^ k) := by
      rcases Nat.mod_two_eq_zero_or_one n with hmod | hmod
      · simp [hmod]
      · have hle : 2 ^ k ≤ n * 2 ^ k := Nat.le_mul_of_pos_left _ (by omega)
        simp [hmod, twoTo_mul k hk r hr (by omega)]
    rw [powerLoop, hstep]
    split
    · next hzero =>
      rw [Nat.mod_eq_of_lt (by omega)]
    · next hne =>
      have hsplit : r + n % 2 * 2 ^ k + n / 2 * 2 ^ (k + 1) = r + n * 2 ^ k := by
        conv_rhs => rw [← Nat.div_add_mod n 2]
        ring
      have hbit : n % 2 * 2 ^ k ≤ 1 * 2 ^ k :=
        Nat.mul_le_mul_right _ (Nat.le_of_lt_succ (Nat.mod_lt n two_pos))
      have hmore : 1 * 2 ^ (k + 1) ≤ n / 2 * 2 ^ (k + 1) :=
        Nat.mul_le_mul_right _ (Nat.one_le_iff_ne_zero.2 hne)
      have hk' : k < 6 := by
        by_contra hge
        obtain rfl : k = 6 := by omega
        omega
      rw [twoTo_mul_self k hk', ih (n / 2) (by omega) hk' ?_ (hsplit ▸ hn), hsplit]
      rw [Nat.pow_succ']
      omega

/-- **Powers of two are exact** as far as delays need them. -/
theorem power_two {n : ℕ} (hn : n ≤ 64) : power 2 n = twoTo n := by
  have hbase : (2 : Float) = twoTo (2 ^ 0) := by decide +kernel
  have hone : (1 : Float) = twoTo 0 := by decide +kernel
  have hloop : powerLoop 1 2 n = twoTo (0 + n * 2 ^ 0) := by
    rw [hbase, hone]
    exact powerLoop_twoTo (Nat.zero_le 6) (by decide) (by omega)
  rw [power, if_neg (by omega), Int.natAbs_natCast, hloop]
  simp

/-! ## The delays -/

/-- The usual delays, with so many attempts. -/
def doubling (maximum : ℕ) : Backoff := new default.base default.factor maximum

/-- The largest number of attempts whose delays are all in range. -/
def maxDoubling : ℕ := 65

theorem maximum_doubling {maximum : ℕ} (h : 1 ≤ maximum) : (doubling maximum).maximum = maximum :=
  Nat.max_eq_left h

theorem delay?_eq (maximum : ℕ) {delays : ℕ} (h : delays < maxDoubling) :
    ((doubling maximum).later delays).delay?
      = Duration.ofSeconds? (twoTo delays * default.factor.toSeconds) := by
  have hexponent : ∀ i < maxDoubling, (Int.ofNat (0 + i)).bmod (Nat.pow 2 32) = Int.ofNat i := by
    decide
  have hpower : power 2 ((doubling maximum).later delays).exponent = twoTo delays := by
    rw [← power_two (Nat.le_of_lt_succ h)]
    exact congrArg (power 2) (hexponent delays h)
  rw [← hpower]
  rfl

/-- **The delays double** as long as there are any. -/
theorem delay?_later_doubling (maximum : ℕ) {delays : ℕ} (h : delays + 1 < maxDoubling) :
    ((doubling maximum).later delays).delay? = some (.ofWholeSeconds (2 ^ delays)) := by
  have hall : ∀ i < 64, Duration.ofSeconds? (twoTo i * default.factor.toSeconds)
      = some (.ofWholeSeconds (2 ^ i)) := by
    decide +kernel
  rw [delay?_eq maximum (Nat.lt_of_succ_lt h)]
  exact hall delays (Nat.lt_of_succ_lt_succ h)

/-- A delay of `2 ^ 64` seconds is out of range. -/
theorem delay?_later_maxDoubling (maximum : ℕ) :
    ((doubling maximum).later (maxDoubling - 1)).delay? = none := by
  rw [delay?_eq maximum (by decide)]
  decide +kernel

/-! ## Attempts that all fail -/

section retry

variable {ε α : Type} {errors : ℕ → ε} {transient : ε → Bool} {maximum : ℕ}

/-- What is known behind so many attempts that all failed: the failures, and a delay between two of
them, each twice as long as the one before. -/
structure Doubled (errors : ℕ → ε) (attempts : ℕ) (b : Backoff) (diary : Diary ℕ ε α) : Prop where
  called : diary.peer = attempts ∧
    diary.notes.filterMap Note.result? = (List.range attempts).map fun i ↦ .error (errors i)
  slept : diary.notes.filterMap Note.delay?
    = (List.range (attempts - 1)).map fun i ↦ .ofWholeSeconds (2 ^ i)
  count_eq : b.count = attempts - 1

/-- The attempts in front of the last, and what is known once that was called too. -/
theorem retry_doubling_waits (α : Type) (hooked : Bool) (hmaximum : 1 ≤ maximum)
    (ht : ∀ i, transient (errors i) = true) {j : ℕ} (hlt : j < maximum) (hle : j < maxDoubling) :
    ∃ notes : List (Note ε α),
      (doubling maximum).retry (Diary.attempt (prepared fun i ↦ .error (errors i))) transient
          (Diary.pause hooked) ⟨0, []⟩
        = ((doubling maximum).later j).retry (Diary.attempt (prepared fun i ↦ .error (errors i)))
            transient (Diary.pause hooked) ⟨j, notes⟩ ∧
      Doubled errors (j + 1) ((doubling maximum).later j)
        ⟨j + 1, notes ++ [.tried (.error (errors j))]⟩ := by
  have hwait : ∀ i < j, (doubling maximum).count + i + 1 < (doubling maximum).maximum ∧
      ((doubling maximum).later i).delay?.isSome ∧
      ∃ error, (.error (errors (0 + i)) : Except ε α) = .error error ∧ transient error = true := by
    intro i hi
    refine ⟨?_, ?_, errors i, by rw [Nat.zero_add], ht i⟩
    · rw [maximum_doubling hmaximum]
      show 0 + i + 1 < maximum
      omega
    · rw [delay?_later_doubling maximum (by omega)]
      rfl
  obtain ⟨notes, hrun, htried, hslept⟩ :=
    @retry_waits ε α hooked (fun i ↦ .error (errors i)) transient j (doubling maximum) 0 [] hwait
  have hdelays : notes.filterMap Note.delay? = (List.range j).map fun i ↦ .ofWholeSeconds (2 ^ i) := by
    refine List.map_injective_iff.2 (Option.some_injective _) (hslept.trans ?_)
    rw [List.map_map]
    refine List.map_congr_left fun i hi ↦ delay?_later_doubling maximum ?_
    have := List.mem_range.1 hi
    omega
  rw [Nat.zero_add, List.nil_append] at hrun
  refine ⟨notes, hrun, ⟨rfl, ?_⟩, ?_, Nat.zero_add j⟩
  · have hlast := @filterMap_result?_concat ε α (fun i ↦ .error (errors i)) notes 0 j htried
    simpa only [Nat.zero_add] using hlast
  · rw [List.filterMap_append, hdelays]
    exact List.append_nil _

/-- **An operation that always fails is called as often as is allowed**, and the last failure stands; but
if more than 65 calls are allowed, the delay behind the 65th is out of range. -/
theorem retry_doubling (hooked : Bool) (hmaximum : 1 ≤ maximum)
    (ht : ∀ i, transient (errors i) = true) :
    (maximum ≤ maxDoubling → ∃ (b : Backoff) (diary : Diary ℕ ε α),
      (doubling maximum).retry (Diary.attempt (prepared fun i ↦ .error (errors i))) transient
          (Diary.pause hooked) ⟨0, []⟩
        = ((.failure (errors (maximum - 1)), b), diary) ∧ Doubled errors maximum b diary) ∧
    (maxDoubling < maximum → ∃ (b : Backoff) (diary : Diary ℕ ε α),
      (doubling maximum).retry (Diary.attempt (prepared fun i ↦ .error (errors i))) transient
          (Diary.pause hooked) ⟨0, []⟩
        = ((.overflow, b), diary) ∧ Doubled errors maxDoubling b diary) := by
  constructor
  · intro hle
    obtain ⟨j, rfl⟩ := Nat.exists_eq_add_of_le' hmaximum
    obtain ⟨notes, hrun, hdoubled⟩ :=
      retry_doubling_waits α hooked hmaximum ht (Nat.lt_succ_self j) (Nat.lt_of_succ_le hle)
    refine ⟨_, _, hrun.trans (retry_of_stop fun _ _ _ ↦ ?_), hdoubled⟩
    rw [show ((doubling (j + 1)).later j).maximum = j + 1 from maximum_doubling hmaximum]
    exact Nat.le_of_eq (by rw [hdoubled.count_eq]; rfl)
  · intro hlt
    have hlast : maxDoubling - 1 < maxDoubling := by decide
    obtain ⟨notes, hrun, hdoubled⟩ :=
      retry_doubling_waits α hooked hmaximum ht (hlast.trans hlt) hlast
    refine ⟨_, _, hrun.trans (retry_of_overflow rfl (ht _) ?_ (delay?_later_maxDoubling maximum)),
      hdoubled⟩
    rw [show ((doubling maximum).later (maxDoubling - 1)).maximum = maximum from
      maximum_doubling hmaximum, hdoubled.count_eq]
    exact hlt

/-- Three calls, and then as many as a counter of 32 bits allows. -/
theorem retry_doubling_samples :
    let errors : ℕ → String := fun i ↦ s!"failure {i + 1}"
    let most : ℕ := 2 ^ 32 - 1
    (1 ≤ 3 ∧ ∃ (b : Backoff) (diary : Diary ℕ String Unit),
      (doubling 3).retry (Diary.attempt (prepared fun i ↦ .error (errors i))) (fun _ ↦ true)
          (Diary.pause true) ⟨0, []⟩ = ((.failure (errors 2), b), diary) ∧
        Doubled errors 3 b diary ∧
        diary.notes.filterMap Note.delay? = [.ofWholeSeconds 1, .ofWholeSeconds 2]) ∧
    1 ≤ most ∧ ∃ (b : Backoff) (diary : Diary ℕ String Unit),
      (doubling most).retry (Diary.attempt (prepared fun i ↦ .error (errors i))) (fun _ ↦ true)
          (Diary.pause true) ⟨0, []⟩ = ((.overflow, b), diary) ∧ Doubled errors 65 b diary := by
  intro errors most
  have hthree : 1 ≤ 3 := by decide
  have hmost : 1 ≤ most := by decide
  obtain ⟨b, diary, hrun, hdoubled⟩ :=
    (@retry_doubling String Unit errors (fun _ ↦ true) 3 true hthree fun _ ↦ rfl).1 (by decide)
  exact ⟨⟨hthree, b, diary, hrun, hdoubled, hdoubled.slept⟩, hmost,
    (retry_doubling true hmost fun _ ↦ rfl).2 (by decide)⟩

end retry

end LogSearch.Backoff
