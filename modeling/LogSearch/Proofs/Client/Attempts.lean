import LogSearch.Proofs.Client.Counting
import Mathlib.Order.Bounds.Basic
import Mathlib.Order.Nat

/-!
# How many attempts are made

Repeated attempts end with the first success, with the first failure for good, or with the last attempt
that the backoff allows, whichever comes first, and with what the operation gave then.  Between two of
them stands one delay, so there is one delay less than there are attempts, and the count goes up with
each (`retry_attempts`).

A failure leaves the count where it is.  So attempts that are used up stay so: what is done with the
backoff changes nothing until a success or a reset, and repeated attempts are one call.

## What is here

* `Diary.called`, `retry_of_stop`, `retry_of_transient`, `retry_of_overflow` — one attempt, the last or
  not, or one whose delay is out of range;
* `prepared`, `retry_waits`, `retry_prepared` — attempts at an operation whose outcomes are known;
* `Stops`, `UsedUp`, `Attempted` — what ends attempts, and what is known behind them;
* `retry_attempts` — repeated attempts from end to end.
-/

set_option autoImplicit false
namespace LogSearch.Backoff

open Time (Duration)

/-! ## One attempt -/

/-- The backoff so many delays later. -/
def later (b : Backoff) (delays : ℕ) : Backoff := { b with count := b.count + delays }

theorem later_later (b : Backoff) (i j : ℕ) : (b.later i).later j = b.later (i + j) := by
  rw [later, later, later, Nat.add_assoc]

/-- The ending that an outcome is. -/
def Ending.ofOutcome {ε α : Type} : Except ε α → Ending ε α
  | .ok value => .success value
  | .error error => .failure error

/-- What stands in a diary of a failure that may pass and the delay behind it. -/
def turn {ε α : Type} (hooked : Bool) (error : ε) (delay : Duration) : List (Note ε α) :=
  .tried (.error error) :: warning hooked error delay ++ [.slept delay]

/-- The diary behind a call of the operation. -/
def Diary.called {τ ε α : Type} (operation : τ → Except ε α × τ) (diary : Diary τ ε α) :
    Diary τ ε α :=
  ⟨(operation diary.peer).2, diary.notes ++ [.tried (operation diary.peer).1]⟩

section attempt

variable {τ ε α : Type} {b : Backoff} {hooked : Bool} {operation : τ → Except ε α × τ}
  {transient : ε → Bool} {diary : Diary τ ε α}

theorem attempt_eq :
    Diary.attempt operation diary = ((operation diary.peer).1, diary.called operation) :=
  rfl

/-- **An attempt that is the last**: a success, a failure for good, or the last one that is allowed. -/
theorem retry_of_stop (hstop : ∀ error, (operation diary.peer).1 = .error error →
      transient error = true → b.maximum ≤ b.count + 1) :
    b.retry (Diary.attempt operation) transient (Diary.pause hooked) diary
      = ((.ofOutcome (operation diary.peer).1,
          if (operation diary.peer).1.isOk then b.reset else b), diary.called operation) := by
  rw [retry_eq]
  simp only [bind, StateT.bind, attempt_eq]
  cases hresult : (operation diary.peer).1 with
  | ok value => rfl
  | error error =>
    by_cases ht : transient error = true
    · have hexhausted : b.trigger = .exhausted := if_pos (hstop error hresult ht)
      simp only [ht, if_true, hexhausted]
      rfl
    · simp only [ht]
      rfl

/-- **An attempt that another follows**, behind a delay. -/
theorem retry_of_transient {error : ε} {delay : Duration}
    (hresult : (operation diary.peer).1 = .error error) (ht : transient error = true)
    (hlt : b.count + 1 < b.maximum) (hdelay : b.delay? = some delay) :
    b.retry (Diary.attempt operation) transient (Diary.pause hooked) diary
      = (b.later 1).retry (Diary.attempt operation) transient (Diary.pause hooked)
          ⟨(operation diary.peer).2, diary.notes ++ turn hooked error delay⟩ := by
  have hsleep : b.trigger = .sleep delay (b.later 1) := by
    rw [trigger, if_neg (Nat.not_le.2 hlt), hdelay]
    rfl
  rw [retry_eq]
  simp only [bind, StateT.bind, attempt_eq, hresult, ht, if_true, hsleep, pause_eq, Diary.called, turn]
  simp only [List.append_assoc, List.cons_append, List.nil_append]

/-- **An attempt whose delay is out of range**, behind which nothing can be done. -/
theorem retry_of_overflow {error : ε} (hresult : (operation diary.peer).1 = .error error)
    (ht : transient error = true) (hlt : b.count + 1 < b.maximum) (hdelay : b.delay? = none) :
    b.retry (Diary.attempt operation) transient (Diary.pause hooked) diary
      = ((.overflow, b), diary.called operation) := by
  have hoverflow : b.trigger = .overflow := by rw [trigger, if_neg (Nat.not_le.2 hlt), hdelay]
  rw [retry_eq]
  simp only [bind, StateT.bind, attempt_eq, hresult, ht, if_true, hoverflow]
  rfl

end attempt

/-! ## Prepared outcomes -/

namespace Note

variable {ε α : Type}

/-- What an attempt gave. -/
def result? : Note ε α → Option (Except ε α)
  | .tried result => some result
  | _ => none

/-- How long was slept. -/
def delay? : Note ε α → Option Duration
  | .slept delay => some delay
  | _ => none

end Note

/-- An operation whose outcomes are prepared, one for each call; its state is the number of calls. -/
def prepared {ε α : Type} (outcomes : ℕ → Except ε α) (calls : ℕ) : Except ε α × ℕ :=
  (outcomes calls, calls + 1)

section prepared

variable {ε α : Type} {hooked : Bool} {outcomes : ℕ → Except ε α} {transient : ε → Bool}

theorem filterMap_result?_turn (error : ε) (delay : Duration) :
    (turn hooked error delay : List (Note ε α)).filterMap Note.result? = [.error error] := by
  cases hooked <;> rfl

theorem filterMap_delay?_turn (error : ε) (delay : Duration) :
    (turn hooked error delay : List (Note ε α)).filterMap Note.delay? = [delay] := by
  cases hooked <;> rfl

theorem map_range_succ {β : Type} (f : ℕ → β) (n : ℕ) :
    (List.range (n + 1)).map f = f 0 :: (List.range n).map fun i ↦ f (i + 1) := by
  rw [List.range_succ_eq_map, List.map_cons, List.map_map]
  rfl

/-- **Attempts that others follow**, each behind a delay, from any number of calls on. -/
theorem retry_waits (j : ℕ) (b : Backoff) (calls : ℕ) (notes : List (Note ε α))
    (hwait : ∀ i < j, b.count + i + 1 < b.maximum ∧ (b.later i).delay?.isSome ∧
      ∃ error, outcomes (calls + i) = .error error ∧ transient error = true) :
    ∃ new : List (Note ε α),
      b.retry (Diary.attempt (prepared outcomes)) transient (Diary.pause hooked) ⟨calls, notes⟩
        = (b.later j).retry (Diary.attempt (prepared outcomes)) transient (Diary.pause hooked)
            ⟨calls + j, notes ++ new⟩ ∧
      new.filterMap Note.result? = (List.range j).map (fun i ↦ outcomes (calls + i)) ∧
      (new.filterMap Note.delay?).map some = (List.range j).map fun i ↦ (b.later i).delay? := by
  induction j generalizing b calls notes with
  | zero => exact ⟨[], by rw [List.append_nil]; rfl, rfl, rfl⟩
  | succ j ih =>
    obtain ⟨hlt, hsome, error, hresult, ht⟩ := hwait 0 (Nat.succ_pos j)
    obtain ⟨delay, hdelay⟩ := Option.isSome_iff_exists.1 hsome
    -- The attempts behind the delay are those of a later backoff, one call further on.
    have hcalls (i : ℕ) : calls + 1 + i = calls + (i + 1) := by omega
    have hlater (i : ℕ) : (b.later 1).later i = b.later (i + 1) := by rw [later_later, Nat.add_comm]
    have hwait' : ∀ i < j, (b.later 1).count + i + 1 < (b.later 1).maximum ∧
        ((b.later 1).later i).delay?.isSome ∧
        ∃ error, outcomes (calls + 1 + i) = .error error ∧ transient error = true := by
      intro i hi
      obtain ⟨hlt, hrest⟩ := hwait (i + 1) (Nat.succ_lt_succ hi)
      rw [hlater, hcalls]
      exact ⟨by simp only [later]; omega, hrest⟩
    obtain ⟨new, hrun, htried, hslept⟩ :=
      ih (b.later 1) (calls + 1) (notes ++ turn hooked error delay) hwait'
    simp only [hcalls, hlater] at hrun htried hslept
    refine ⟨turn hooked error delay ++ new, ?_, ?_, ?_⟩
    · calc b.retry (Diary.attempt (prepared outcomes)) transient (Diary.pause hooked) ⟨calls, notes⟩
          = (b.later 1).retry (Diary.attempt (prepared outcomes)) transient (Diary.pause hooked)
              ⟨calls + 1, notes ++ turn hooked error delay⟩ :=
            retry_of_transient hresult ht hlt hdelay
        _ = _ := hrun
        _ = _ := by rw [List.append_assoc]
    · rw [List.filterMap_append, filterMap_result?_turn, htried, map_range_succ _ j, hresult]
      rfl
    · rw [List.filterMap_append, filterMap_delay?_turn, List.map_append, hslept, map_range_succ,
        hdelay]
      rfl

/-- Behind the attempts that others follow stands one more. -/
theorem filterMap_result?_concat {new : List (Note ε α)} {calls j : ℕ}
    (h : new.filterMap Note.result? = (List.range j).map fun i ↦ outcomes (calls + i)) :
    (new ++ [Note.tried (outcomes (calls + j))]).filterMap Note.result?
      = (List.range (j + 1)).map fun i ↦ outcomes (calls + i) := by
  rw [List.filterMap_append, h, List.range_succ, List.map_append]
  rfl

/-- **Attempts of which all but the last are followed by a delay**, from any number of calls on. -/
theorem retry_prepared (j : ℕ) (b : Backoff) (calls : ℕ) (notes : List (Note ε α))
    (hwait : ∀ i < j, b.count + i + 1 < b.maximum ∧ (b.later i).delay?.isSome ∧
      ∃ error, outcomes (calls + i) = .error error ∧ transient error = true)
    (hstop : ∀ error, outcomes (calls + j) = .error error → transient error = true →
      b.maximum ≤ b.count + j + 1) :
    ∃ new : List (Note ε α),
      b.retry (Diary.attempt (prepared outcomes)) transient (Diary.pause hooked) ⟨calls, notes⟩
        = ((.ofOutcome (outcomes (calls + j)),
            if (outcomes (calls + j)).isOk then b.reset else b.later j),
          ⟨calls + j + 1, notes ++ new⟩) ∧
      new.filterMap Note.result? = (List.range (j + 1)).map (fun i ↦ outcomes (calls + i)) ∧
      (new.filterMap Note.delay?).map some = (List.range j).map fun i ↦ (b.later i).delay? := by
  obtain ⟨new, hrun, htried, hslept⟩ := @retry_waits ε α hooked outcomes transient j b calls notes hwait
  refine ⟨new ++ [.tried (outcomes (calls + j))], ?_, filterMap_result?_concat htried, ?_⟩
  · rw [hrun, ← List.append_assoc]
    exact retry_of_stop hstop
  · rw [List.filterMap_append, ← hslept]
    exact congrArg _ (List.append_nil _)

/-! ## Attempts from end to end -/

/-- The attempts, counted from one, that end repeated attempts if they are reached. -/
inductive Stops (b : Backoff) (transient : ε → Bool) (outcomes : ℕ → Except ε α) : ℕ → Prop
  /-- A success. -/
  | success {i : ℕ} {value : α} (h : outcomes i = .ok value) : Stops b transient outcomes (i + 1)
  /-- A failure for good. -/
  | fatal {i : ℕ} {error : ε} (h : outcomes i = .error error) (ht : transient error = false) :
    Stops b transient outcomes (i + 1)
  /-- The last attempt that the backoff allows; it always allows one. -/
  | usedUp : Stops b transient outcomes (max (b.maximum - b.count) 1)

/-- The attempts are used up.  Whatever is done with the backoff changes nothing unless the count starts
again, and then repeated attempts at any operation are one call of it, with no delay. -/
def UsedUp (b : Backoff) : Prop :=
  ∀ (τ ε α : Type) (hooked : Bool) (orders : List (Order τ ε α)) (peer : τ) (b' : Backoff)
    (diary : Diary τ ε α), follow hooked orders b ⟨peer, []⟩ = (b', diary) →
    (∀ note ∈ diary.notes, note.clears = false) →
    b' = b ∧ ∀ (operation : τ → Except ε α × τ) (transient : ε → Bool),
      b.retry (Diary.attempt operation) transient (Diary.pause hooked) diary
        = ((.ofOutcome (operation diary.peer).1,
            if (operation diary.peer).1.isOk then b.reset else b), diary.called operation)

/-- What is known behind `k` attempts at an operation with prepared outcomes. -/
structure Attempted (b : Backoff) (outcomes : ℕ → Except ε α) (k : ℕ) (b' : Backoff)
    (diary : Diary ℕ ε α) : Prop where
  /-- The operation was called so often, and gave the first outcomes. -/
  called : diary.peer = k ∧ diary.notes.filterMap Note.result? = (List.range k).map outcomes
  /-- There was one delay less, each with the next count. -/
  slept : (diary.notes.filterMap Note.delay?).map some
    = (List.range (k - 1)).map fun i ↦ (b.later i).delay?
  /-- The count starts again after a success, and else it has gone up with each delay. -/
  backoff_eq : b' = { b with count := if (outcomes (k - 1)).isOk then 0 else b.count + k - 1 }
  /-- Attempts that are used up without a success stay so. -/
  usedUp : (outcomes (k - 1)).isOk = false → k = max (b.maximum - b.count) 1 → b'.UsedUp

variable {b b' : Backoff} {notes : List (Note ε α)} {k : ℕ}

theorem Ran.eq_start (h : Ran b hooked b' notes) (hb : b.maximum ≤ b.count + 1)
    (hclear : ∀ note ∈ notes, note.clears = false) : b' = b := by
  induction h with
  | start => rfl
  | cleared _ hnote _ =>
    have hkept := hclear _ (List.mem_append_right _ (List.mem_singleton_self _))
    rw [hnote] at hkept
    cases hkept
  | stood _ _ ih => exact ih fun note hmem ↦ hclear note (List.mem_append_left _ hmem)
  | slept _ _ hlt _ ih =>
    have hsame := ih fun note hmem ↦ hclear note (by simp [hmem])
    rw [hsame] at hlt
    omega

theorem usedUp_of_le (hb : b.maximum ≤ b.count + 1) : b.UsedUp := by
  intro τ ε α hooked orders peer b' diary hfollow hclear
  exact ⟨(ran_follow .start hfollow).eq_start hb hclear,
    fun operation transient ↦ retry_of_stop fun _ _ _ ↦ hb⟩

theorem Stops.pos (h : Stops b transient outcomes k) : 0 < k := by
  cases h with
  | success h => exact Nat.succ_pos _
  | fatal h ht => exact Nat.succ_pos _
  | usedUp => exact Nat.lt_of_lt_of_le Nat.one_pos (Nat.le_max_right _ _)

theorem exists_isLeast_stops (b : Backoff) (transient : ε → Bool) (outcomes : ℕ → Except ε α) :
    ∃ k, IsLeast {k | Stops b transient outcomes k} k := by
  classical exact ⟨_, Nat.isLeast_find ⟨_, .usedUp⟩⟩

/-- In front of the attempt that ends them stand failures that may pass. -/
theorem transient_of_lt (hk : IsLeast {k | Stops b transient outcomes k} k) {i : ℕ} (hi : i + 1 < k) :
    b.count + i + 1 < b.maximum ∧ ∃ error, outcomes i = .error error ∧ transient error = true := by
  have hnot : ¬ Stops b transient outcomes (i + 1) := fun h ↦ Nat.not_le.2 hi (hk.2 h)
  have hmax : k ≤ max (b.maximum - b.count) 1 := hk.2 .usedUp
  refine ⟨by omega, ?_⟩
  cases houtcome : outcomes i with
  | ok value => exact absurd (.success houtcome) hnot
  | error error =>
    refine ⟨error, rfl, ?_⟩
    by_contra ht
    exact hnot (.fatal houtcome (by simpa using ht))

/-- A failure that may pass ends only attempts that are used up. -/
theorem maximum_le_of_stops (hk : Stops b transient outcomes (k + 1)) {error : ε}
    (herror : outcomes k = .error error) (ht : transient error = true) :
    b.maximum ≤ b.count + k + 1 := by
  generalize hlast : k + 1 = last at hk
  cases hk with
  | success h =>
    obtain rfl := Nat.succ.inj hlast
    cases h.symm.trans herror
  | fatal h hfatal =>
    obtain rfl := Nat.succ.inj hlast
    cases h.symm.trans herror
    cases hfatal.symm.trans ht
  | usedUp => omega

/-- **Repeated attempts from end to end.**  Let the `k`-th call be the first success, the first failure
for good, or the last attempt that the backoff allows, whichever comes first.  If the delays in front of
it are in range, the operation is called `k` times, and what it gave at last stands. -/
theorem retry_attempts (b : Backoff) (transient : ε → Bool) (hooked : Bool)
    (outcomes : ℕ → Except ε α) :
    ∃ k, IsLeast {k | Stops b transient outcomes k} k ∧
      ((∀ i, i + 1 < k → (b.later i).delay?.isSome) →
        ∃ (b' : Backoff) (diary : Diary ℕ ε α),
          b.retry (Diary.attempt (prepared outcomes)) transient (Diary.pause hooked) ⟨0, []⟩
            = ((.ofOutcome (outcomes (k - 1)), b'), diary) ∧
          Attempted b outcomes k b' diary) := by
  obtain ⟨k, hk⟩ := exists_isLeast_stops b transient outcomes
  refine ⟨k, hk, fun hdelay ↦ ?_⟩
  obtain ⟨j, rfl⟩ := Nat.exists_eq_succ_of_ne_zero hk.1.pos.ne'
  have hwait : ∀ i < j, b.count + i + 1 < b.maximum ∧ (b.later i).delay?.isSome ∧
      ∃ error, outcomes (0 + i) = .error error ∧ transient error = true := by
    intro i hi
    obtain ⟨hlt, hfailed⟩ := transient_of_lt hk (Nat.succ_lt_succ hi)
    rw [Nat.zero_add]
    exact ⟨hlt, hdelay i (Nat.succ_lt_succ hi), hfailed⟩
  have hstop : ∀ error, outcomes (0 + j) = .error error → transient error = true →
      b.maximum ≤ b.count + j + 1 := by
    intro error herror ht
    rw [Nat.zero_add] at herror
    exact maximum_le_of_stops hk.1 herror ht
  obtain ⟨new, hrun, htried, hslept⟩ := retry_prepared j b 0 [] hwait hstop
  simp only [Nat.zero_add, List.nil_append] at hrun htried
  refine ⟨_, _, hrun, ⟨rfl, htried⟩, hslept, ?_, fun hfailed hlast ↦ ?_⟩
  · show (if (outcomes j).isOk then b.reset else b.later j)
      = { b with count := if (outcomes j).isOk then 0 else b.count + j }
    split <;> rfl
  · have hfailed' : (outcomes j).isOk = false := hfailed
    have hmaximum : (b.later j).maximum ≤ (b.later j).count + 1 := by
      show b.maximum ≤ b.count + j + 1
      omega
    rw [hfailed']
    exact usedUp_of_le hmaximum

/-- Five attempts at most, one of which is gone: two failures that may pass and a success.  Then three
attempts at most, one of which is gone, and nothing but failures that may pass. -/
theorem retry_attempts_samples :
    let busy : ℕ → Except String Unit := fun i ↦ if i < 2 then .error "busy" else .ok ()
    let down : ℕ → Except String Unit := fun _ ↦ .error "down"
    let five : Backoff := ⟨2, .ofWholeSeconds 1, 5, 1⟩
    let three : Backoff := ⟨2, .ofWholeSeconds 1, 3, 1⟩
    ((∀ i, i + 1 < 3 → (five.later i).delay?.isSome) ∧ ∃ b' diary,
      five.retry (Diary.attempt (prepared busy)) (fun _ ↦ true) (Diary.pause true) ⟨0, []⟩
        = ((.success (), b'), diary) ∧ Attempted five busy 3 b' diary ∧ b'.count = 0) ∧
    (∀ i, i + 1 < 2 → (three.later i).delay?.isSome) ∧ ∃ b' diary,
      three.retry (Diary.attempt (prepared down)) (fun _ ↦ true) (Diary.pause true) ⟨0, []⟩
        = ((.failure "down", b'), diary) ∧ Attempted three down 2 b' diary ∧ b'.count = 2 ∧
      b'.UsedUp := by
  intro busy down five three
  have hfive : ∀ i < 3, (five.later i).delay?.isSome := by decide +kernel
  have hthree : ∀ i < 2, (three.later i).delay?.isSome := by decide +kernel
  refine ⟨⟨fun i hi ↦ hfive i (by omega), ?_⟩, fun i hi ↦ hthree i (by omega), ?_⟩
  · obtain ⟨k, hk, hrun⟩ := retry_attempts five (fun _ ↦ true) true busy
    have hleast : IsLeast {k | Stops five (fun _ ↦ true) busy k} 3 := by
      have hsuccess : busy 2 = .ok () := rfl
      refine ⟨.success hsuccess, ?_⟩
      rintro k (@⟨i, value, h⟩ | ⟨h, ht⟩ | _)
      · by_contra hlt
        have hbusy : busy i = .error "busy" := if_pos (by omega)
        cases hbusy.symm.trans h
      · cases ht
      · decide
    obtain rfl := hk.unique hleast
    obtain ⟨b', diary, hretry, hattempted⟩ := hrun fun i hi ↦ hfive i (by omega)
    exact ⟨b', diary, hretry, hattempted, by rw [hattempted.backoff_eq]; rfl⟩
  · obtain ⟨k, hk, hrun⟩ := retry_attempts three (fun _ ↦ true) true down
    have hleast : IsLeast {k | Stops three (fun _ ↦ true) down k} 2 := by
      refine ⟨.usedUp, ?_⟩
      rintro k (h | ⟨h, ht⟩ | _)
      · cases h
      · cases ht
      · decide
    obtain rfl := hk.unique hleast
    obtain ⟨b', diary, hretry, hattempted⟩ := hrun fun i hi ↦ hthree i (by omega)
    exact ⟨b', diary, hretry, hattempted, by rw [hattempted.backoff_eq]; rfl, hattempted.usedUp rfl rfl⟩

end prepared

end LogSearch.Backoff
