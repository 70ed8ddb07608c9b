import LogSearch.Proofs.Client.Scan

/-!
# Who answers

In the world of a book the answers come from the backend, whatever a scan does in between: they are
what the backend gives to the requests that were put, one after the other (`answers_of_calls`).

This is a property of the book alone, kept by each of the actions that a scan is made of, so it is
enough to look at the actions one by one.

## What is here

* `Backoff.retry_rule` — what attempts lead to, from what one of them does;
* `Keeps` — an action that keeps a property of its state; `keeps_calls` for scans;
* `Backend.serve`, `answers_of_calls` — the answers are the backend's.
-/

set_option autoImplicit false
namespace LogSearch

/-! ## Actions that keep a property -/

/-- An action keeps a property of its state. -/
def Keeps {τ α : Type} (P : τ → Prop) (action : StateM τ α) : Prop := ∀ s, P s → P (action s).2

section keeps

variable {τ α β : Type} {P : τ → Prop}

theorem keeps_pure (a : α) : Keeps P (pure a : StateM τ α) := fun _ h ↦ h

theorem Keeps.bind {action : StateM τ α} {next : α → StateM τ β} (h : Keeps P action)
    (hnext : ∀ a, Keeps P (next a)) : Keeps P (action >>= next) :=
  fun s hs ↦ hnext _ _ (h s hs)

theorem keeps_forM {step : α → StateM τ Unit} (h : ∀ a, Keeps P (step a)) (as : List α) :
    Keeps P (as.forM step) := by
  induction as with
  | nil => exact keeps_pure ()
  | cons a as ih => exact (h a).bind fun _ ↦ ih

/-- **What attempts lead to**, from what one attempt does: `P` holds in front of each attempt, and `R`
behind it. -/
theorem Backoff.retry_rule {ε : Type} {operation : StateM τ (Except ε α)} {transient : ε → Bool}
    {pause : ε → Time.Duration → StateM τ Unit} {R : Except ε α → τ → Prop}
    {Q : Ending ε α → τ → Prop} {b b' : Backoff} {s s' : τ} {ending : Ending ε α}
    (hrun : b.retry operation transient pause s = ((ending, b'), s')) (h : P s)
    (hop : ∀ s, P s → R (operation s).1 (operation s).2)
    (hok : ∀ value s, R (.ok value) s → Q (.success value) s)
    (hfail : ∀ error s, R (.error error) s → Q (.failure error) s)
    (hoverflow : ∀ error s, transient error = true → R (.error error) s → Q .overflow s)
    (hpause : ∀ error delay s, R (.error error) s → P (pause error delay s).2) : Q ending s' := by
  induction hn : b.maximum - b.count using Nat.strongRecOn generalizing b s with
  | ind n ih =>
    have hR := hop s h
    rw [retry_eq] at hrun
    cases hresult : operation s with
    | mk result attempted =>
      rw [hresult] at hR
      simp only [bind, StateT.bind, hresult] at hrun
      cases result with
      | ok value =>
        cases hrun
        exact hok value _ hR
      | error error =>
        dsimp only at hrun
        by_cases ht : transient error = true
        · rw [if_pos ht] at hrun
          cases htrigger : b.trigger with
          | exhausted =>
            rw [htrigger] at hrun
            cases hrun
            exact hfail error _ hR
          | overflow =>
            rw [htrigger] at hrun
            cases hrun
            exact hoverflow error _ ht hR
          | sleep delay next =>
            rw [htrigger] at hrun
            obtain ⟨hlt, -, rfl⟩ := trigger_eq_sleep htrigger
            exact ih _ (by simp only; omega) hrun (hpause error delay attempted hR) rfl
        · rw [if_neg ht] at hrun
          cases hrun
          exact hfail error _ hR

/-- Attempts and delays that keep a property keep it however often they are repeated. -/
theorem Backoff.keeps_retry {ε : Type} {operation : StateM τ (Except ε α)} {transient : ε → Bool}
    {pause : ε → Time.Duration → StateM τ Unit} (hop : Keeps P operation)
    (hpause : ∀ error delay, Keeps P (pause error delay)) (b : Backoff) :
    Keeps P (b.retry operation transient pause) :=
  fun _ hs ↦ retry_rule (R := fun _ ↦ P) (Q := fun _ ↦ P) rfl hs hop (fun _ _ h ↦ h)
    (fun _ _ h ↦ h) (fun _ _ _ h ↦ h) hpause

namespace Scan

variable {world : World (StateM τ)}

theorem keeps_next (hsearch : ∀ request, Keeps P (world.search request))
    (hsleep : ∀ delay, Keeps P (world.sleep delay)) (hlog : ∀ entry, Keeps P (world.log entry))
    (scan : Scan) : Keeps P (scan.next world) := by
  have hpause : ∀ error delay, Keeps P (pause world scan.announce error delay) := fun _ delay ↦
    (keeps_forM hlog _).bind fun _ ↦ hsleep delay
  rw [next]
  split
  · refine (Backoff.keeps_retry (hsearch scan.request) hpause scan.backoff).bind fun found ↦ ?_
    obtain ⟨ending, backoff⟩ := found
    cases ending with
    | success page => exact (keeps_forM hlog _).bind fun _ ↦ keeps_pure _
    | failure error => exact keeps_pure _
    | overflow => exact keeps_pure _
  · exact keeps_pure _

/-- **Calls keep what searching, sleeping and writing to the log keep.** -/
theorem keeps_calls (hsearch : ∀ request, Keeps P (world.search request))
    (hsleep : ∀ delay, Keeps P (world.sleep delay)) (hlog : ∀ entry, Keeps P (world.log entry))
    (k : Nat) (scan : Scan) : Keeps P (calls world k scan) := by
  induction k with
  | zero => exact keeps_pure _
  | succ k ih =>
    exact ih.bind fun found ↦ (keeps_next hsearch hsleep hlog found.2).bind fun _ ↦ keeps_pure _

end Scan

end keeps

/-! ## The answers of a backend -/

/-- The answers to some requests that are put one after the other, and the backend behind them. -/
def Backend.serve {σ : Type} (backend : Backend σ) (peer : σ) (requests : List SearchRequest) :
    List Answer × σ :=
  requests.foldl (fun (answers, peer) request ↦
    let (answer, peer) := backend.search request peer
    (answers ++ [answer], peer)) ([], peer)

section answers

variable {σ ω : Type} {backend : Backend σ} {out : Sink ω} {peer : σ}

theorem Backend.serve_concat {requests : List SearchRequest} {answers : List Answer} {peer' : σ}
    (h : backend.serve peer requests = (answers, peer')) (request : SearchRequest) :
    backend.serve peer (requests ++ [request])
      = (answers ++ [(backend.search request peer').1], (backend.search request peer').2) := by
  rw [serve, List.foldl_append, ← serve, h]
  rfl

/-- The book has the answers of the backend to the requests in it, and the backend as it is behind
them. -/
def Book.AnsweredBy (backend : Backend σ) (peer : σ) (book : Book σ ω) : Prop :=
  backend.serve peer (book.exchanges.map Prod.fst) = (book.exchanges.map Prod.snd, book.peer)

theorem Book.AnsweredBy.note {book : Book σ ω} (h : book.AnsweredBy backend peer) {event : Event}
    (hevent : event.exchange? = none) : (book.note event).AnsweredBy backend peer := by
  rw [AnsweredBy, exchanges_note, hevent, Option.toList_none, List.append_nil]
  exact h

theorem Book.AnsweredBy.search {book : Book σ ω} (h : book.AnsweredBy backend peer)
    (request : SearchRequest) :
    ((World.booked backend out).search request book).2.AnsweredBy backend peer := by
  rw [AnsweredBy, exchanges_search, List.map_append, List.map_append]
  exact Backend.serve_concat h request

/-- **The answers are the backend's**, to the requests that were put one after the other. -/
theorem Scan.answers_of_calls {request : SearchRequest} {backoff : Backoff}
    {announce : Announcement} {sink : ω} {k : Nat} {found : List Outcome × Scan} {book : Book σ ω}
    (h : calls (World.booked backend out) k (new request backoff announce) (.start peer sink)
      = (found, book)) : book.AnsweredBy backend peer := by
  have hkeeps : Keeps (Book.AnsweredBy backend peer)
      (calls (World.booked backend out) k (new request backoff announce)) :=
    keeps_calls (fun request book hbook ↦ hbook.search request)
      (fun delay book hbook ↦ hbook.note rfl) (fun entry book hbook ↦ hbook.note rfl) k _
  have hbook := hkeeps (.start peer sink) rfl
  rwa [h] at hbook

end answers

end LogSearch
