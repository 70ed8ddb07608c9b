import LogSearch.Client.Scan

/-!
# Attempts in a book

In the world of a book, everything that a search does is put down.  What it asked and what it was
answered are its *exchanges*; sleeping and writing to the log leave them as they are.  So repeated
attempts add just one exchange for each of them (`Backoff.retry_booked`): some failures that may pass,
and then a page or a failure that stands.

## What is here

* `Book.exchanges`, `Book.answers` — what was asked and answered, in order;
* `exchanges_search`, `exchanges_pause` — a search adds its exchange, a delay adds none;
* `Backoff.retry_booked` — what repeated attempts add.
-/

set_option autoImplicit false
namespace LogSearch

/-! ## Exchanges -/

/-- What an event asked and was answered. -/
def Event.exchange? : Event → Option (SearchRequest × Answer)
  | .asked request answer => some (request, answer)
  | _ => none

namespace Book

variable {σ ω : Type}

/-- What was asked and answered, in order. -/
def exchanges (book : Book σ ω) : List (SearchRequest × Answer) :=
  book.events.reverse.filterMap Event.exchange?

/-- The answers, in order. -/
def answers (book : Book σ ω) : List Answer := book.exchanges.map Prod.snd

theorem requests_eq (book : Book σ ω) : book.requests = book.exchanges.map Prod.fst := by
  rw [requests, exchanges, List.map_filterMap]
  congr
  funext event
  cases event <;> rfl

theorem exchanges_note (book : Book σ ω) (event : Event) :
    (book.note event).exchanges = book.exchanges ++ event.exchange?.toList := by
  rw [exchanges, note, List.reverse_cons, List.filterMap_append]
  cases event <;> rfl

end Book

/-! ## One attempt -/

/-- Repeated attempts are one attempt, and after a failure that may pass a delay and the others. -/
theorem Backoff.retry_eq {m : Type → Type} [Monad m] {ε α : Type} (operation : m (Except ε α))
    (transient : ε → Bool) (pause : ε → Time.Duration → m Unit) (b : Backoff) :
    b.retry operation transient pause = do
      match ← operation with
      | .ok value => return (.success value, b.reset)
      | .error error =>
        if transient error then
          match b.trigger with
          | .exhausted => return (.failure error, b)
          | .overflow => return (.overflow, b)
          | .sleep delay next =>
            pause error delay
            next.retry operation transient pause
        else return (.failure error, b) := by
  rw [retry]
  congr
  funext result
  cases result with
  | ok value => rfl
  | error error =>
    dsimp only
    congr 1
    split <;> rename_i h <;> rw [h]

section booked

variable {σ ω : Type} (backend : Backend σ) (out : Sink ω)

/-- A search adds its exchange. -/
theorem exchanges_search (request : SearchRequest) (book : Book σ ω) :
    ((World.booked backend out).search request book).2.exchanges
      = book.exchanges ++ [(request, (backend.search request book.peer).1)] :=
  Book.exchanges_note _ _

theorem exchanges_log (entries : List LogEntry) (book : Book σ ω) :
    (entries.forM (World.booked backend out).log book).2.exchanges = book.exchanges := by
  induction entries generalizing book with
  | nil => rfl
  | cons entry entries ih =>
    refine (ih (book.note (.logged entry))).trans ?_
    rw [Book.exchanges_note]
    exact List.append_nil _

/-- A delay and what is said about it add no exchange. -/
theorem exchanges_pause (announce : Announcement) (error : ClientError) (delay : Time.Duration)
    (book : Book σ ω) :
    (Scan.pause (World.booked backend out) announce error delay book).2.exchanges
      = book.exchanges := by
  have hsleep : ∀ book : Book σ ω, (book.note (.slept delay)).exchanges = book.exchanges := by
    intro book
    rw [Book.exchanges_note]
    exact List.append_nil _
  exact (hsleep _).trans (exchanges_log backend out (announce error delay) book)

/-! ## Attempts -/

/-- How attempts ended, by the last answer and the number of failures in front of it. -/
def Backoff.Ended (b : Backoff) (failures : Nat) (answer : Answer) :
    Backoff.Ending ClientError SearchResponse → Prop
  | .success page => answer = .ok page
  | .failure error => answer = .error error ∧
      (error.isTransient = true → b.maximum ≤ b.count + failures + 1)
  | .overflow => ∃ error, answer = .error error

theorem Backoff.Ended.shift {b : Backoff} {failures : Nat} {answer : Answer}
    {ending : Backoff.Ending ClientError SearchResponse}
    (h : Backoff.Ended { b with count := b.count + 1 } failures answer ending) :
    b.Ended (failures + 1) answer ending := by
  cases ending with
  | success page => exact h
  | failure error =>
    refine ⟨h.1, fun ht ↦ ?_⟩
    have hmax := h.2 ht
    simp only at hmax
    omega
  | overflow => exact h

theorem Backoff.maximum_le_of_trigger {b : Backoff} (h : b.trigger = .exhausted) :
    b.maximum ≤ b.count + 1 := by
  rw [trigger] at h
  split at h
  · next hle => exact hle
  · split at h <;> cases h

/-- The exchanges of attempts with the same request: failures, and a last answer. -/
def attempts (request : SearchRequest) (errors : List ClientError) (answer : Answer) :
    List (SearchRequest × Answer) :=
  errors.map (fun error ↦ (request, .error error)) ++ [(request, answer)]

/-- **What repeated attempts add to a book**: failures that may pass, fewer than are allowed, and the
answer that ends them. -/
theorem Backoff.retry_booked (request : SearchRequest) (announce : Announcement) (b : Backoff)
    (hb : b.count < b.maximum) (book book' : Book σ ω) (b' : Backoff)
    (ending : Backoff.Ending ClientError SearchResponse)
    (h : b.retry ((World.booked backend out).search request) ClientError.isTransient
      (Scan.pause (World.booked backend out) announce) book = ((ending, b'), book')) :
    ∃ (errors : List ClientError) (answer : Answer),
      (∀ error ∈ errors, error.isTransient = true) ∧ b.count + errors.length < b.maximum ∧
      book'.exchanges = book.exchanges ++ attempts request errors answer ∧
      b.Ended errors.length answer ending ∧ b'.maximum = b.maximum ∧
      (∀ page, ending = .success page → b'.count = 0) := by
  induction hn : b.maximum - b.count using Nat.strongRecOn generalizing b book with
  | ind n ih =>
    rw [retry_eq] at h
    cases hs : backend.search request book.peer with
    | mk answer peer =>
      have hop : (World.booked backend out).search request book
          = (answer, ({ book with peer } : Book σ ω).note (.asked request answer)) := by
        simp only [World.booked, modifyGet, MonadStateOf.modifyGet, StateT.modifyGet, hs]
        rfl
      simp only [bind, StateT.bind, hop] at h
      have hex : ((({ book with peer } : Book σ ω).note (.asked request answer)).exchanges)
          = book.exchanges ++ attempts request [] answer := Book.exchanges_note _ _
      generalize ({ book with peer } : Book σ ω).note (.asked request answer) = asked at h hex
      cases answer with
      | ok page =>
        cases h
        exact ⟨[], .ok page, by simp, hb, hex, rfl, rfl, fun _ _ ↦ rfl⟩
      | error error =>
        dsimp only at h
        by_cases ht : error.isTransient = true
        · rw [if_pos ht] at h
          cases htrigger : b.trigger with
          | exhausted =>
            rw [htrigger] at h
            cases h
            refine ⟨[], .error error, by simp, hb, hex, ⟨rfl, fun _ ↦ ?_⟩, rfl, by simp⟩
            exact maximum_le_of_trigger htrigger
          | overflow =>
            rw [htrigger] at h
            cases h
            exact ⟨[], .error error, by simp, hb, hex, ⟨error, rfl⟩, rfl, by simp⟩
          | sleep delay next =>
            rw [htrigger] at h
            -- the attempts behind the delay start from the next count, in the book behind it
            obtain ⟨hlt, -, rfl⟩ := trigger_eq_sleep htrigger
            let slept := (Scan.pause (World.booked backend out) announce error delay asked).2
            obtain ⟨errors, last, herrors, hcount, hbook', hended, hmax, hreset⟩ :=
              ih _ (by simp only; omega) { b with count := b.count + 1 } hlt slept h rfl
            refine ⟨error :: errors, last, ?_, ?_, ?_, ?_, hmax, hreset⟩
            · simpa using ⟨ht, herrors⟩
            · simp only [List.length_cons] at hcount ⊢
              omega
            · rw [hbook', exchanges_pause, hex, List.append_assoc]
              rfl
            · exact hended.shift
        · rw [if_neg ht] at h
          cases h
          exact ⟨[], .error error, by simp, hb, hex, ⟨rfl, fun h ↦ absurd h ht⟩, rfl, by simp⟩

end booked

end LogSearch
