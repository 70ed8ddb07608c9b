import LogSearch.Proofs.Client.Answering
import LogSearch.Stream

/-!
# The first request of a stream

Before anything else a stream asks for the page it was started with.  Whatever is done later is only put
down behind that, so the first request of the book stays the first, however long the stream runs
(`Stream.opens_run`).

## What is here

* `World.Keeps`, `Stream.keeps_run` — what all actions of a world keep, rounds keep;
* `Book.Opens`, `Scan.opens_next` — the first request, put by the first call;
* `Stream.opens_run` — a whole stream.
-/

set_option autoImplicit false

namespace LogSearch

/-! ## What streams keep -/

/-- All actions of the world keep the property. -/
structure World.Keeps {τ : Type} (P : τ → Prop) (world : World (StateM τ)) : Prop where
  search (request : SearchRequest) : LogSearch.Keeps P (world.search request)
  sleep (delay : Time.Duration) : LogSearch.Keeps P (world.sleep delay)
  log (entry : LogEntry) : LogSearch.Keeps P (world.log entry)
  write (text : String) : LogSearch.Keeps P (world.write text)
  flush : LogSearch.Keeps P world.flush

namespace Stream

section keeps

variable {τ : Type} {P : τ → Prop} {world : World (StateM τ)}

theorem keeps_close (h : world.Keeps P) (s : Stream) (fault : OutputFault) :
    Keeps P (s.close world fault) := by
  cases fault with
  | closed => exact (h.log _).bind fun _ ↦ keeps_pure _
  | other reason => exact keeps_pure _

theorem keeps_put (h : world.Keeps P) (s : Stream) (hit : Hit) : Keeps P (s.put world hit) := by
  refine (h.write _).bind fun fault ↦ ?_
  cases fault with
  | some fault => exact (keeps_close h s fault).bind fun _ ↦ keeps_pure _
  | none =>
    dsimp only
    split
    · refine h.flush.bind fun fault ↦ ?_
      cases fault with
      | some fault => exact (keeps_close h _ fault).bind fun _ ↦ keeps_pure _
      | none => exact keeps_pure _
    · exact keeps_pure _

theorem keeps_finish (h : world.Keeps P) (s : Stream) : Keeps P (s.finish world) := by
  refine h.flush.bind fun fault ↦ ?_
  cases fault with
  | some fault => exact keeps_close h s fault
  | none => exact (h.log _).bind fun _ ↦ keeps_pure _

/-- What follows a call for the next hit. -/
def settle {m : Type → Type} [Monad m] (world : World m) (s : Stream) :
    Scan.Outcome × Scan → m (Option Ending × Stream)
  | (.hit hit, scan) => ({ s with scan } : Stream).put world hit
  | (.finished, scan) => do return (some (← ({ s with scan } : Stream).finish world), { s with scan })
  | (.failure error, scan) => return (some (.failed error), { s with scan })
  | (.overflow, scan) => return (some .overflow, { s with scan })

theorem step_eq {m : Type → Type} [Monad m] (world : World m) (s : Stream) :
    s.step world = s.scan.next world >>= s.settle world := by
  rw [step]
  congr
  funext found
  obtain ⟨outcome, scan⟩ := found
  cases outcome <;> rfl

theorem keeps_settle (h : world.Keeps P) (s : Stream) (found : Scan.Outcome × Scan) :
    Keeps P (s.settle world found) := by
  obtain ⟨outcome, scan⟩ := found
  cases outcome with
  | hit hit => exact keeps_put h _ hit
  | finished => exact (keeps_finish h _).bind fun _ ↦ keeps_pure _
  | failure error => exact keeps_pure _
  | overflow => exact keeps_pure _

/-- **Rounds keep what all actions of the world keep.** -/
theorem keeps_run (h : world.Keeps P) (rounds : Nat) (s : Stream) : Keeps P (s.run world rounds) := by
  induction rounds generalizing s with
  | zero => exact keeps_pure _
  | succ rounds ih =>
    rw [run, step_eq]
    refine ((Scan.keeps_next h.search h.sleep h.log s.scan).bind (keeps_settle h s)).bind fun found ↦ ?_
    obtain ⟨_ | ending, s⟩ := found
    · exact ih s
    · exact keeps_pure _

end keeps

end Stream

/-! ## The first request -/

section first

variable {σ ω : Type} {backend : Backend σ} {out : Sink ω} {request : SearchRequest} {book : Book σ ω}

/-- The first request that was put. -/
def Book.Opens (request : SearchRequest) (book : Book σ ω) : Prop := book.requests.head? = some request

theorem Book.Opens.note (h : book.Opens request) (event : Event) : (book.note event).Opens request := by
  rw [Opens, requests_eq] at h ⊢
  rw [exchanges_note, List.map_append, List.head?_append, h]
  rfl

/-- Whatever is done, the first request stays the first. -/
theorem booked_keeps_opens (backend : Backend σ) (out : Sink ω) (request : SearchRequest) :
    (World.booked backend out).Keeps (Book.Opens request) where
  search _ _ h := Book.Opens.note h _
  sleep _ _ h := Book.Opens.note h _
  log _ _ h := Book.Opens.note h _
  write _ _ h := Book.Opens.note h _
  flush _ h := Book.Opens.note h _

theorem opens_search (h : book.requests = [] ∨ book.Opens request) :
    ((World.booked backend out).search request book).2.Opens request := by
  rcases h with hnone | hopens
  · rw [Book.requests_eq, List.map_eq_nil_iff] at hnone
    rw [Book.Opens, Book.requests_eq, exchanges_search, hnone]
    rfl
  · exact (booked_keeps_opens backend out request).search request book hopens

/-- What holds behind an action still holds behind what follows it. -/
theorem bind_holds {τ α β : Type} {P : τ → Prop} {action : StateM τ α} {next : α → StateM τ β} {s : τ}
    (h : P (action s).2) (hnext : ∀ a, Keeps P (next a)) : P ((action >>= next) s).2 := hnext _ _ h

/-- A scan before its first page puts its request first. -/
theorem Scan.opens_next (request : SearchRequest) (backoff : Backoff) (announce : Announcement)
    (h : book.requests = []) :
    ((Scan.new request backoff announce).next (World.booked backend out) book).2.Opens request := by
  have hkeeps := booked_keeps_opens backend out request
  have hpause (error : ClientError) (delay : Time.Duration) :
      Keeps (Book.Opens request) (pause (World.booked backend out) announce error delay) :=
    (keeps_forM hkeeps.log _).bind fun _ ↦ hkeeps.sleep delay
  let Waits (book : Book σ ω) : Prop := book.requests = [] ∨ book.Opens request
  have hretry : (backoff.retry ((World.booked backend out).search request) ClientError.isTransient
      (pause (World.booked backend out) announce) book).2.Opens request :=
    Backoff.retry_rule (P := Waits) (R := fun _ ↦ Book.Opens request) (Q := fun _ ↦ Book.Opens request)
      rfl (.inl h) (fun _ h ↦ opens_search h) (fun _ _ h ↦ h) (fun _ _ h ↦ h) (fun _ _ _ h ↦ h)
      fun error delay book h ↦ .inr (hpause error delay book h)
  refine bind_holds hretry fun found ↦ ?_
  obtain ⟨ending, backoff⟩ := found
  cases ending with
  | success page => exact (keeps_forM hkeeps.log _).bind fun _ ↦ keeps_pure _
  | failure error => exact keeps_pure _
  | overflow => exact keeps_pure _

/-- **A stream asks for the page it was started with first.** -/
theorem Stream.opens_run (backend : Backend σ) (out : Sink ω) (request : SearchRequest) (rounds : Nat)
    (peer : σ) (sink : ω) :
    ((Stream.start request).run (World.booked backend out) (rounds + 1) (.start peer sink)).2.Opens
      request := by
  have hkeeps := booked_keeps_opens backend out request
  rw [run, step_eq]
  refine bind_holds (bind_holds (Scan.opens_next request _ _ rfl) (keeps_settle hkeeps _)) fun found ↦ ?_
  obtain ⟨_ | ending, s⟩ := found
  · exact keeps_run hkeeps rounds s
  · exact keeps_pure _

end first

end LogSearch
