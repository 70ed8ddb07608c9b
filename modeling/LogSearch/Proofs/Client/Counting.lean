import LogSearch.Proofs.Client.Retry
import Mathlib.Algebra.Group.Nat.Defs

/-!
# What a backoff counts

A backoff may be told of failures, reset, and used for attempts at operations, in any order and for as
long as one likes.  At every point its count is the number of delays since it was last reset or an
attempt succeeded, and it never reaches the number of attempts (`reach_counted`).  The hook is told of
a failure just before the delay that it causes, and never otherwise.

What was done is put down in a *diary*.  A backoff and its diary go together in one of four ways
(`Ran`), each operation is a few of these steps, and everything that is known of the diary is kept by
each of them.

## What is here

* `round`, `rounds`, `retry_eq_rounds` — repeated attempts, round by round;
* `Note`, `Diary`, `Order`, `follow`, `reach` — what can be done with a backoff;
* `Ran`, `ran_reach` — how a backoff and its diary go together;
* `Counted`, `reach_counted` — what is known of them.
-/

set_option autoImplicit false
namespace LogSearch.Backoff

open Time (Duration)

/-! ## Rounds -/

section rounds

variable {m : Type → Type} [Monad m] {ε α : Type} (operation : m (Except ε α))
  (transient : ε → Bool) (pause : ε → Duration → m Unit)

/-- One attempt, and what is done about its failure; no ending if another attempt follows. -/
def round (b : Backoff) : m (Option (Ending ε α) × Backoff) := do
  match ← operation with
  | .ok value => return (some (.success value), b.reset)
  | .error error =>
    if transient error then
      match ← b.fail pause error with
      | (.success (), b) => return (none, b)
      | (.failure error, b) => return (some (.failure error), b)
      | (.overflow, b) => return (some .overflow, b)
    else return (some (.failure error), b)

/-- So many rounds, or fewer if they end. -/
def rounds : Nat → Backoff → m (Option (Ending ε α) × Backoff)
  | 0, b => return (none, b)
  | n + 1, b => do
    match ← round operation transient pause b with
    | (some ending, b) => return (some ending, b)
    | (none, b) => rounds n b

variable [LawfulMonad m]

theorem retry_eq_round (b : Backoff) :
    b.retry operation transient pause = do
      match ← round operation transient pause b with
      | (none, b) => b.retry operation transient pause
      | (some ending, b) => return (ending, b) := by
  rw [retry_eq, round, bind_assoc]
  congr
  funext result
  cases result with
  | ok value => simp only [pure_bind]
  | error error =>
    dsimp only
    split
    · rw [fail]
      cases b.trigger <;> simp only [bind_assoc, pure_bind]
    · simp only [pure_bind]

/-- **Repeated attempts are their first rounds**, and the attempts behind them if these do not end. -/
theorem retry_eq_rounds (n : Nat) (b : Backoff) :
    b.retry operation transient pause = do
      match ← rounds operation transient pause n b with
      | (none, b) => b.retry operation transient pause
      | (some ending, b) => return (ending, b) := by
  induction n generalizing b with
  | zero => simp only [rounds, pure_bind]
  | succ n ih =>
    rw [retry_eq_round, rounds, bind_assoc]
    congr
    funext ⟨found, b⟩
    cases found with
    | none => exact ih b
    | some ending => simp only [pure_bind]

end rounds

/-! ## Diaries -/

/-- A thing that was done with a backoff. -/
inductive Note (ε α : Type)
  /-- It was told of a failure. -/
  | failed (error : ε)
  /-- It was reset. -/
  | cleared
  /-- An attempt was made. -/
  | tried (result : Except ε α)
  /-- The hook was told of a failure and the delay behind it. -/
  | told (error : ε) (delay : Duration)
  | slept (delay : Duration)

namespace Note

variable {ε α : Type}

/-- The failure that may lead to a delay. -/
def error? : Note ε α → Option ε
  | .failed error | .tried (.error error) => some error
  | _ => none

/-- Whether the count starts again. -/
def clears : Note ε α → Bool
  | .cleared | .tried (.ok _) => true
  | _ => false

def isSlept : Note ε α → Bool
  | .slept _ => true
  | _ => false

end Note

/-- What operations act on, and what was done so far, in order. -/
structure Diary (τ ε α : Type) where
  peer : τ
  notes : List (Note ε α)

namespace Diary

variable {τ ε α : Type}

/-- Puts a note down. -/
def add (diary : Diary τ ε α) (note : Note ε α) : Diary τ ε α :=
  { diary with notes := diary.notes ++ [note] }

/-- An attempt at an operation. -/
def attempt (operation : τ → Except ε α × τ) : StateM (Diary τ ε α) (Except ε α) :=
  modifyGet fun diary ↦
    let (result, peer) := operation diary.peer
    (result, ({ diary with peer }).add (.tried result))

/-- What is done before another attempt; the hook is told if there is one. -/
def pause (hooked : Bool) : ε → Duration → StateM (Diary τ ε α) Unit :=
  Backoff.pause (if hooked then some fun error delay ↦ modify (·.add (.told error delay)) else none)
    fun delay ↦ modify (·.add (.slept delay))

end Diary

/-- A thing that can be done with a backoff. -/
inductive Order (τ ε α : Type)
  | trigger (error : ε)
  | reset
  | retry (operation : τ → Except ε α × τ) (transient : ε → Bool)

section orders

variable {τ ε α : Type}

/-- Does one thing with a backoff. -/
def Order.perform (hooked : Bool) (order : Order τ ε α) (b : Backoff) :
    StateM (Diary τ ε α) Backoff := do
  match order with
  | .trigger error =>
    modify (·.add (.failed error))
    return (← b.fail (Diary.pause hooked) error).2
  | .reset =>
    modify (·.add .cleared)
    return b.reset
  | .retry operation transient =>
    return (← b.retry (Diary.attempt operation) transient (Diary.pause hooked)).2

/-- Does one thing after the other with a backoff. -/
def follow (hooked : Bool) : List (Order τ ε α) → Backoff → StateM (Diary τ ε α) Backoff
  | [], b => return b
  | order :: orders, b => do follow hooked orders (← order.perform hooked b)

/-- A point in the life of a backoff: some orders, and so many rounds of attempts behind them. -/
def reach (hooked : Bool) (orders : List (Order τ ε α)) (operation : τ → Except ε α × τ)
    (transient : ε → Bool) (n : Nat) (b : Backoff) : StateM (Diary τ ε α) Backoff := do
  let b ← follow hooked orders b
  return (← rounds (Diary.attempt operation) transient (Diary.pause hooked) n b).2

end orders

/-! ## How a backoff and its diary go together -/

section ran

variable {τ ε α : Type}

/-- What stands between a failure and the delay that it causes. -/
def warning (hooked : Bool) (error : ε) (delay : Duration) : List (Note ε α) :=
  if hooked then [.told error delay] else []

/-- A backoff, and what was done with it. -/
inductive Ran (start : Backoff) (hooked : Bool) : Backoff → List (Note ε α) → Prop
  | start : Ran start hooked start []
  /-- The count starts again. -/
  | cleared {b : Backoff} {notes : List (Note ε α)} {note : Note ε α}
    (before : Ran start hooked b notes) (hnote : note.clears = true) :
    Ran start hooked b.reset (notes ++ [note])
  /-- A failure stands. -/
  | stood {b : Backoff} {notes : List (Note ε α)} {note : Note ε α} {error : ε}
    (before : Ran start hooked b notes) (hnote : note.error? = some error) :
    Ran start hooked b (notes ++ [note])
  /-- A failure causes a delay. -/
  | slept {b : Backoff} {notes : List (Note ε α)} {note : Note ε α} {error : ε} {delay : Duration}
    (before : Ran start hooked b notes) (hnote : note.error? = some error)
    (hlt : b.count + 1 < b.maximum) (hdelay : b.delay? = some delay) :
    Ran start hooked { b with count := b.count + 1 }
      (notes ++ note :: warning hooked error delay ++ [.slept delay])

variable {start b b' : Backoff} {hooked : Bool} {notes : List (Note ε α)} {note : Note ε α}
  {error : ε} {diary diary' : Diary τ ε α} {operation : τ → Except ε α × τ} {transient : ε → Bool}

theorem pause_eq (error : ε) (delay : Duration) (diary : Diary τ ε α) :
    Diary.pause hooked error delay diary = ((),
      { diary with notes := diary.notes ++ warning hooked error delay ++ [.slept delay] }) := by
  cases hooked with
  | false =>
    rw [warning, if_neg (by simp), List.append_nil]
    rfl
  | true => rfl

/-- What is done about a failure if an attempt remains. -/
theorem fail_eq_of_lt (hlt : b.count + 1 < b.maximum) {delay : Duration}
    (hdelay : b.delay? = some delay) (error : ε) (diary : Diary τ ε α) :
    b.fail (Diary.pause hooked) error diary = ((.success (), { b with count := b.count + 1 }),
      { diary with notes := diary.notes ++ warning hooked error delay ++ [.slept delay] }) := by
  rw [fail, trigger, if_neg (Nat.not_le.2 hlt), hdelay]
  simp only [bind, StateT.bind, pause_eq]
  rfl

/-- What is done about a failure that has just been put down. -/
theorem ran_fail (h : Ran start hooked b notes) (hnote : note.error? = some error)
    (hdiary : diary.notes = notes ++ [note]) {ending : Ending ε Unit}
    (hrun : b.fail (Diary.pause hooked) error diary = ((ending, b'), diary')) :
    Ran start hooked b' diary'.notes ∧
      (ending = .success () →
        b.count + 1 < b.maximum ∧ b' = { b with count := b.count + 1 }) := by
  cases htrigger : b.trigger with
  | exhausted | overflow =>
    rw [fail, htrigger] at hrun
    cases hrun
    rw [hdiary]
    exact ⟨h.stood hnote, by simp⟩
  | sleep delay next =>
    obtain ⟨hlt, hdelay, -⟩ := trigger_eq_sleep htrigger
    rw [fail_eq_of_lt hlt hdelay, hdiary, List.append_assoc notes, List.singleton_append] at hrun
    cases hrun
    exact ⟨h.slept hnote hlt hdelay, fun _ ↦ ⟨hlt, rfl⟩⟩

theorem ran_round (h : Ran start hooked b diary.notes) {found : Option (Ending ε α)}
    (hrun : round (Diary.attempt operation) transient (Diary.pause hooked) b diary
      = ((found, b'), diary')) :
    Ran start hooked b' diary'.notes ∧
      (found = none → b.count + 1 < b.maximum ∧ b' = { b with count := b.count + 1 }) := by
  cases ho : operation diary.peer with
  | mk result peer =>
    have hattempt : Diary.attempt operation diary
        = (result, ({ diary with peer } : Diary τ ε α).add (.tried result)) := by
      simp only [Diary.attempt, modifyGet, MonadStateOf.modifyGet, StateT.modifyGet, ho]
      rfl
    simp only [round, bind, StateT.bind, hattempt] at hrun
    cases result with
    | ok value =>
      cases hrun
      exact ⟨h.cleared rfl, by simp⟩
    | error error =>
      dsimp only at hrun
      split at hrun
      · cases hf : b.fail (Diary.pause hooked) error
          (({ diary with peer } : Diary τ ε α).add (.tried (.error error))) with
        | mk found behind =>
          obtain ⟨ending, next⟩ := found
          obtain ⟨hran, hnext⟩ := ran_fail h rfl rfl hf
          simp only [StateT.bind, bind, hf] at hrun
          cases ending <;> cases hrun
          · exact ⟨hran, fun _ ↦ hnext rfl⟩
          · exact ⟨hran, by simp⟩
          · exact ⟨hran, by simp⟩
      · cases hrun
        exact ⟨h.stood rfl, by simp⟩

/-- **Rounds keep a backoff and its diary together.**  A round that is not the last one counts. -/
theorem ran_rounds {n : Nat} (h : Ran start hooked b diary.notes) {found : Option (Ending ε α)}
    (hrun : rounds (Diary.attempt operation) transient (Diary.pause hooked) n b diary
      = ((found, b'), diary')) :
    Ran start hooked b' diary'.notes ∧
      (found = none → n = 0 ∨ b.count + n < b.maximum) := by
  induction n generalizing b diary with
  | zero =>
    cases hrun
    exact ⟨h, fun _ ↦ .inl rfl⟩
  | succ n ih =>
    cases hr : round (Diary.attempt operation) transient (Diary.pause hooked) b diary with
    | mk one behind =>
      obtain ⟨one, next⟩ := one
      obtain ⟨hran, hnext⟩ := ran_round h hr
      simp only [rounds, bind, StateT.bind, hr] at hrun
      cases one with
      | some ending =>
        cases hrun
        exact ⟨hran, by simp⟩
      | none =>
        obtain ⟨hlt, rfl⟩ := hnext rfl
        obtain ⟨hran', hrest⟩ := ih hran hrun
        refine ⟨hran', fun hfound ↦ .inr ?_⟩
        rcases hrest hfound with rfl | hrest
        · exact hlt
        · simp only at hrest
          omega

theorem ran_retry (h : Ran start hooked b diary.notes) {ending : Ending ε α}
    (hrun : b.retry (Diary.attempt operation) transient (Diary.pause hooked) diary
      = ((ending, b'), diary')) : Ran start hooked b' diary'.notes := by
  -- more rounds than there are attempts always end
  rw [retry_eq_rounds _ _ _ (b.maximum + 1)] at hrun
  cases hr : rounds (Diary.attempt operation) transient (Diary.pause hooked) (b.maximum + 1) b
    diary with
  | mk found behind =>
    obtain ⟨found, next⟩ := found
    obtain ⟨hran, hmany⟩ := ran_rounds h hr
    simp only [bind, StateT.bind, hr] at hrun
    cases found with
    | some ending =>
      cases hrun
      exact hran
    | none =>
      have := hmany rfl
      omega

theorem ran_perform {order : Order τ ε α} (h : Ran start hooked b diary.notes)
    (hrun : order.perform hooked b diary = (b', diary')) : Ran start hooked b' diary'.notes := by
  cases order with
  | trigger error =>
    cases hf : b.fail (Diary.pause hooked) error (diary.add (.failed error)) with
    | mk found behind =>
      have hbehind : (found.2, behind) = (b', diary') := by
        have hperform : (Order.trigger error : Order τ ε α).perform hooked b diary
            = ((b.fail (Diary.pause hooked) error (diary.add (.failed error))).1.2,
              (b.fail (Diary.pause hooked) error (diary.add (.failed error))).2) := rfl
        rw [← hrun, hperform, hf]
      cases hbehind
      exact (ran_fail h rfl rfl hf).1
  | reset =>
    cases hrun
    exact h.cleared rfl
  | retry operation transient =>
    cases hr : b.retry (Diary.attempt operation) transient (Diary.pause hooked) diary with
    | mk found behind =>
      obtain ⟨ending, next⟩ := found
      simp only [Order.perform, bind, StateT.bind, hr] at hrun
      cases hrun
      exact ran_retry h hr

theorem ran_follow {orders : List (Order τ ε α)} (h : Ran start hooked b diary.notes)
    (hrun : follow hooked orders b diary = (b', diary')) : Ran start hooked b' diary'.notes := by
  induction orders generalizing b diary with
  | nil =>
    cases hrun
    exact h
  | cons order orders ih =>
    cases hp : order.perform hooked b diary with
    | mk next behind =>
      simp only [follow, bind, StateT.bind, hp] at hrun
      exact ih (ran_perform h hp) hrun

/-- **Every point in the life of a backoff is reached by steps of the four kinds.** -/
theorem ran_reach {orders : List (Order τ ε α)} {n : Nat} (h : Ran start hooked b diary.notes)
    (hrun : reach hooked orders operation transient n b diary = (b', diary')) :
    Ran start hooked b' diary'.notes := by
  cases hf : follow hooked orders b diary with
  | mk next behind =>
    cases hr : rounds (Diary.attempt operation) transient (Diary.pause hooked) n next behind with
    | mk found last =>
      obtain ⟨found, final⟩ := found
      simp only [reach, bind, StateT.bind, hf, hr] at hrun
      cases hrun
      exact (ran_rounds (ran_follow h hf) hr).1

/-! ## What is known of a diary -/

/-- The number of delays since the count last started again. -/
def sleepsSince (notes : List (Note ε α)) : Nat :=
  notes.foldl (fun n note ↦ if note.clears then 0 else if note.isSlept then n + 1 else n) 0

theorem sleepsSince_concat (notes : List (Note ε α)) (note : Note ε α) :
    sleepsSince (notes ++ [note]) = if note.clears then 0
      else if note.isSlept then sleepsSince notes + 1 else sleepsSince notes := by
  rw [sleepsSince, List.foldl_append]
  rfl

theorem sleepsSince_concat_error (hnote : note.error? = some error) :
    sleepsSince (notes ++ [note]) = sleepsSince notes := by
  rw [sleepsSince_concat]
  cases note with
  | failed => rfl
  | tried result =>
    cases result with
    | ok value => cases hnote
    | error error => rfl
  | cleared | told | slept => cases hnote

theorem sleepsSince_warned {delay : Duration} (hnote : note.error? = some error) :
    sleepsSince (notes ++ note :: warning hooked error delay) = sleepsSince notes := by
  rw [List.append_cons]
  cases hooked with
  | false => exact (congrArg _ (List.append_nil _)).trans (sleepsSince_concat_error hnote)
  | true => exact (sleepsSince_concat _ _).trans (sleepsSince_concat_error hnote)

/-- A stretch without a new start counts all of its delays. -/
theorem sleepsSince_append (before : List (Note ε α)) {stretch : List (Note ε α)}
    (hstretch : ∀ note ∈ stretch, note.clears = false) :
    sleepsSince (before ++ stretch) = sleepsSince before + stretch.countP Note.isSlept := by
  induction stretch generalizing before with
  | nil => rw [List.append_nil, List.countP_nil, Nat.add_zero]
  | cons note stretch ih =>
    have hnote := hstretch note List.mem_cons_self
    have hrest := ih (before ++ [note]) fun note hmem ↦ hstretch note (List.mem_cons_of_mem _ hmem)
    rw [List.append_cons, hrest, sleepsSince_concat, hnote, List.countP_cons]
    cases note.isSlept with
    | false => rfl
    | true => exact Nat.add_right_comm _ _ _

theorem prefix_warned {delay : Duration} {before : List (Note ε α)}
    (h : before <+: notes ++ note :: warning hooked error delay) :
    before <+: notes ∨ before = notes ++ [note] ∨
      hooked = true ∧ before = notes ++ [note] ++ [.told error delay] := by
  rw [List.append_cons] at h
  cases hooked with
  | false =>
    rw [warning, if_neg (by simp), List.append_nil, List.prefix_concat_iff] at h
    exact h.symm.imp_right .inl
  | true =>
    rw [warning, if_pos rfl, List.prefix_concat_iff, List.prefix_concat_iff] at h
    rcases h with h | h | h
    · exact .inr (.inr ⟨rfl, h⟩)
    · exact .inr (.inl h)
    · exact .inl h

/-- The count is the number of delays since it last started again, and nothing else changes. -/
theorem Ran.backoff_eq (h : Ran start hooked b notes) (hstart : start.count = 0) :
    b = { start with count := sleepsSince notes } := by
  induction h with
  | start =>
    cases start
    cases hstart
    rfl
  | cleared before hnote ih => rw [ih, sleepsSince_concat, hnote, reset, if_pos rfl]
  | stood before hnote ih => rw [ih, sleepsSince_concat_error hnote]
  | slept before hnote hlt hdelay ih =>
    rw [ih, sleepsSince_concat, sleepsSince_warned hnote]
    rfl

/-- The count never reached the number of attempts. -/
theorem Ran.sleepsSince_lt (h : Ran start hooked b notes) (hstart : start.count = 0)
    (hmaximum : 1 ≤ start.maximum) {before : List (Note ε α)} (hbefore : before <+: notes) :
    sleepsSince before < start.maximum := by
  induction h generalizing before with
  | start =>
    rw [List.prefix_nil.1 hbefore]
    exact hmaximum
  | cleared _ hnote ih =>
    rcases List.prefix_concat_iff.1 hbefore with rfl | hbefore
    · rw [sleepsSince_concat, hnote]
      exact hmaximum
    · exact ih hbefore
  | stood _ hnote ih =>
    rcases List.prefix_concat_iff.1 hbefore with rfl | hbefore
    · rw [sleepsSince_concat_error hnote]
      exact ih (List.prefix_refl _)
    · exact ih hbefore
  | @slept b notes note error delay hran hnote hlt hdelay ih =>
    rcases List.prefix_concat_iff.1 hbefore with rfl | hbefore
    · rw [hran.backoff_eq hstart] at hlt
      rw [sleepsSince_concat, sleepsSince_warned hnote]
      exact hlt
    · rcases prefix_warned hbefore with hbefore | rfl | ⟨-, rfl⟩
      · exact ih hbefore
      · rw [sleepsSince_concat_error hnote]
        exact ih (List.prefix_refl _)
      · rw [sleepsSince_concat, sleepsSince_concat_error hnote]
        exact ih (List.prefix_refl _)

/-- Every delay is the one that the count in front of it asks for, and right behind the failure that
causes it, with what the hook is told in between. -/
theorem Ran.slept_eq (h : Ran start hooked b notes) (hstart : start.count = 0)
    {before : List (Note ε α)} {delay : Duration} (hbefore : before ++ [.slept delay] <+: notes) :
    Backoff.delay? { start with count := sleepsSince before } = some delay ∧
      ∃ earlier note error, note.error? = some error ∧
        before = earlier ++ note :: warning hooked error delay := by
  induction h with
  | start => simp at hbefore
  | cleared _ hnote ih | stood _ hnote ih =>
    rcases List.prefix_concat_iff.1 hbefore with heq | hbefore
    · cases (List.append_inj' heq rfl).2
      cases hnote
    · exact ih hbefore
  | @slept b notes note error delay' hran hnote hlt hdelay ih =>
    rcases List.prefix_concat_iff.1 hbefore with heq | hbefore
    · obtain ⟨rfl, hlast⟩ := List.append_inj' heq rfl
      cases hlast
      rw [sleepsSince_warned hnote, ← hran.backoff_eq hstart]
      exact ⟨hdelay, notes, note, error, hnote, rfl⟩
    · rcases prefix_warned hbefore with hbefore | heq | ⟨-, heq⟩
      · exact ih hbefore
      · cases (List.append_inj' heq rfl).2
        cases hnote
      · cases (List.append_inj' heq rfl).2

/-- The hook is told of nothing but a delay that follows at once. -/
theorem Ran.told_eq (h : Ran start hooked b notes) {before : List (Note ε α)} {error : ε}
    {delay : Duration} (hbefore : before ++ [.told error delay] <+: notes) :
    hooked = true ∧ before ++ [.told error delay] ++ [.slept delay] <+: notes := by
  induction h with
  | start => simp at hbefore
  | cleared _ hnote ih | stood _ hnote ih =>
    rcases List.prefix_concat_iff.1 hbefore with heq | hbefore
    · cases (List.append_inj' heq rfl).2
      cases hnote
    · obtain ⟨hhooked, hslept⟩ := ih hbefore
      exact ⟨hhooked, hslept.trans (List.prefix_append _ _)⟩
  | @slept b notes note error' delay' hran hnote hlt hdelay ih =>
    rcases List.prefix_concat_iff.1 hbefore with heq | hbefore
    · cases (List.append_inj' heq rfl).2
    · rcases prefix_warned hbefore with hbefore | heq | ⟨rfl, heq⟩
      · obtain ⟨hhooked, hslept⟩ := ih hbefore
        exact ⟨hhooked, hslept.trans ((List.prefix_append _ _).trans (List.prefix_append _ _))⟩
      · cases (List.append_inj' heq rfl).2
        cases hnote
      · obtain ⟨rfl, hlast⟩ := List.append_inj' heq rfl
        cases hlast
        have hnotes : notes ++ note :: warning true error delay
            = notes ++ [note] ++ [.told error delay] := List.append_cons _ _ _
        rw [hnotes]
        exact ⟨rfl, List.prefix_refl _⟩

/-- What is known of a backoff and its diary. -/
structure Counted (base : Float) (factor : Duration) (maximum : UInt32) (hooked : Bool)
    (b : Backoff) (notes : List (Note ε α)) : Prop where
  /-- The count is the number of delays since it last started again, and nothing else changes. -/
  backoff_eq : b = ⟨base, factor, max maximum.toNat 1, sleepsSince notes⟩
  count_le : b.count ≤ max maximum.toNat 1 - 1
  /-- The next failure can be counted in 32 bits. -/
  count_lt : b.count + 1 < 2 ^ 32
  /-- There are not more delays in a row than failures that may pass. -/
  sleeps_le : ∀ before stretch, before ++ stretch <+: notes →
    (∀ note ∈ stretch, note.clears = false) →
    stretch.countP Note.isSlept ≤ max maximum.toNat 1 - 1
  /-- Every delay is the one that the count in front of it asks for, and it comes right behind the
  failure that causes it, with what the hook is told in between. -/
  slept_eq : ∀ before delay, before ++ [.slept delay] <+: notes →
    Backoff.delay? ⟨base, factor, max maximum.toNat 1, sleepsSince before⟩ = some delay ∧
      ∃ earlier note error, note.error? = some error ∧
        before = earlier ++ note :: warning hooked error delay
  /-- The hook is told of nothing but a delay that follows at once. -/
  told_eq : ∀ before error delay, before ++ [.told error delay] <+: notes →
    hooked = true ∧ before ++ [.told error delay] ++ [.slept delay] <+: notes

theorem Ran.counted {base : Float} {factor : Duration} {maximum : UInt32}
    (h : Ran (new base factor maximum.toNat) hooked b notes) :
    Counted base factor maximum hooked b notes := by
  have hmaximum : 1 ≤ (new base factor maximum.toNat).maximum := Nat.le_max_right _ _
  have hlt : ∀ before, before <+: notes → sleepsSince before < max maximum.toNat 1 :=
    fun _ hbefore ↦ h.sleepsSince_lt rfl hmaximum hbefore
  have hcount : b.count = sleepsSince notes := congrArg count (h.backoff_eq rfl)
  have hend := hlt notes (List.prefix_refl _)
  refine ⟨h.backoff_eq rfl, by omega, ?_, fun before stretch hstretch hclear ↦ ?_,
    fun before delay hslept ↦ h.slept_eq rfl hslept, fun before error delay htold ↦ h.told_eq htold⟩
  · have := maximum.toNat_lt
    omega
  · have := hlt _ hstretch
    rw [sleepsSince_append before hclear] at this
    omega

/-- **What a backoff counts**, at every point of its life: after any orders and any number of rounds
of attempts behind them.  If it is told of a failure then, a delay follows as long as an attempt
remains.  Once none does, nothing changes: there is no delay, and the hook is not told. -/
theorem reach_counted (base : Float) (factor : Duration) (maximum : UInt32) (hooked : Bool)
    (orders : List (Order τ ε α)) (operation : τ → Except ε α × τ) (transient : ε → Bool) (n : Nat)
    (peer : τ) :
    let (b, diary) := reach hooked orders operation transient n (new base factor maximum.toNat)
      ⟨peer, []⟩
    Counted base factor maximum hooked b diary.notes ∧
      (b.maximum ≤ b.count + 1 → ∀ error,
        b.fail (Diary.pause hooked) error diary = ((.failure error, b), diary)) ∧
      (b.count + 1 < b.maximum → ∀ error delay, b.delay? = some delay →
        b.fail (Diary.pause hooked) error diary = ((.success (), { b with count := b.count + 1 }),
          { diary with notes := diary.notes ++ warning hooked error delay ++ [.slept delay] })) := by
  cases hrun : reach hooked orders operation transient n (new base factor maximum.toNat)
    ⟨peer, []⟩ with
  | mk b diary =>
    refine ⟨(ran_reach .start hrun).counted, fun hexhausted error ↦ ?_,
      fun hlt error delay hdelay ↦ fail_eq_of_lt hlt hdelay error diary⟩
    rw [fail, trigger, if_pos hexhausted]
    rfl

/-- A count outlives attempts that fail: the second failure is one too many. -/
example :
    let orders : List (Order Unit String Unit) :=
      [.trigger "a", .retry (fun _ ↦ (.error "b", ())) fun _ ↦ true]
    (follow true orders (new 2 (.ofWholeSeconds 1) 2) ⟨(), []⟩).2.notes.map Note.isSlept
      = [false, false, true, false] := by
  decide +kernel

end ran

end LogSearch.Backoff
