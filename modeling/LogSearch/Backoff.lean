import LogSearch.Time.Duration

/-!
# Trying again after failures

An operation that failed for a reason that may pass is tried again after a delay, which grows with
every failure in a row: the delay before the attempt after the `n`-th failure is the factor times
the base to the power `n`, counted from zero.  A success starts the count again; once the allowed
number of attempts is used up, the last failure stands.

Delays are computed in doubles.  A product that is negative, too large or no number is no delay, and
then nothing more can be done: `overflow`.

## What is here

* `power` — a double to a whole power, by squaring;
* `Backoff` — base, factor, the number of attempts, and the failures so far;
* `Backoff.trigger` — what a failure leads to;
* `Backoff.pause`, `Backoff.fail` — what is done about a failure;
* `Backoff.retry` — repeats an operation until it succeeds, fails for good, or its attempts run out.
-/

set_option autoImplicit false
namespace LogSearch

open Time (Duration)

/-- The product of `result` and a power of `base`, by squaring.  The base is squared only while
there is more of the exponent to come. -/
def powerLoop (result base : Float) (exponent : Nat) : Float :=
  let result := if exponent % 2 == 1 then result * base else result
  if exponent / 2 = 0 then result else powerLoop result (base * base) (exponent / 2)
  termination_by exponent
  decreasing_by omega

/-- A double to a whole power; one that is negative is the reciprocal of its opposite. -/
def power (base : Float) (exponent : Int) : Float :=
  let result := powerLoop 1 base exponent.natAbs
  if exponent < 0 then 1 / result else result

/-- The delays after failures, and the failures in a row so far. -/
structure Backoff where
  base : Float
  factor : Duration
  /-- The number of attempts, which is not zero. -/
  maximum : Nat
  /-- The failures that were slept after since the last success. -/
  count : Nat
  deriving Repr

namespace Backoff

/-- A backoff before any failure. -/
def new (base : Float) (factor : Duration) (maximum : Nat) : Backoff :=
  ⟨base, factor, max maximum 1, 0⟩

/-- Doubling from one second, ten attempts. -/
def default : Backoff := new 2 (.ofWholeSeconds 1) 10

/-- The count as an exponent, which has a sign and 32 bits. -/
def exponent (b : Backoff) : Int := (b.count : Int).bmod (Nat.pow 2 32)

/-- The delay after the next failure, if there is one. -/
def delay? (b : Backoff) : Option Duration :=
  Duration.ofSeconds? (power b.base b.exponent * b.factor.toSeconds)

/-- The backoff after a success. -/
def reset (b : Backoff) : Backoff := { b with count := 0 }

/-- What a failure leads to. -/
inductive Trigger
  /-- The attempts are used up. -/
  | exhausted
  /-- A delay, and the backoff after it. -/
  | sleep (delay : Duration) (next : Backoff)
  /-- The delay is out of range. -/
  | overflow
  deriving Repr

/-- Counts a failure. -/
def trigger (b : Backoff) : Trigger :=
  if b.maximum ≤ b.count + 1 then .exhausted
  else match b.delay? with
    | some delay => .sleep delay { b with count := b.count + 1 }
    | none => .overflow

theorem trigger_eq_sleep {b next : Backoff} {delay : Duration}
    (h : b.trigger = .sleep delay next) :
    b.count + 1 < b.maximum ∧ b.delay? = some delay ∧ next = { b with count := b.count + 1 } := by
  unfold trigger at h
  split at h
  · cases h
  · split at h
    · next d hd =>
      cases h
      exact ⟨by omega, hd, rfl⟩
    · cases h

/-- How repeated attempts ended. -/
inductive Ending (ε α : Type)
  | success (value : α)
  /-- The last failure: one for good, or one too many. -/
  | failure (error : ε)
  /-- A delay was out of range. -/
  | overflow
  deriving Repr

variable {m : Type → Type} [Monad m] {ε α : Type}

/-- What is done before another attempt: the hook is told of the failure, if there is a hook, and then
the delay is slept. -/
def pause (hook : Option (ε → Duration → m Unit)) (sleep : Duration → m Unit) (error : ε)
    (delay : Duration) : m Unit := do
  if let some tell := hook then tell error delay
  sleep delay

/-- Counts a failure, and pauses if an attempt remains; otherwise the failure stands. -/
def fail (pause : ε → Duration → m Unit) (error : ε) (b : Backoff) :
    m (Ending ε Unit × Backoff) := do
  match b.trigger with
  | .exhausted => return (.failure error, b)
  | .overflow => return (.overflow, b)
  | .sleep delay next =>
    pause error delay
    return (.success (), next)

/-- Repeats an operation.  `transient` tells the failures that may pass; `pause` is what is done
between such a failure and the next attempt. -/
def retry (operation : m (Except ε α)) (transient : ε → Bool) (pause : ε → Duration → m Unit)
    (b : Backoff) : m (Ending ε α × Backoff) := do
  match ← operation with
  | .ok value => return (.success value, b.reset)
  | .error error =>
    if transient error then
      match _h : b.trigger with
      | .exhausted => return (.failure error, b)
      | .overflow => return (.overflow, b)
      | .sleep delay next =>
        pause error delay
        retry operation transient pause next
    else return (.failure error, b)
  termination_by b.maximum - b.count
  decreasing_by
    obtain ⟨h1, -, rfl⟩ := trigger_eq_sleep ‹_›
    simp only
    omega

end Backoff

end LogSearch
