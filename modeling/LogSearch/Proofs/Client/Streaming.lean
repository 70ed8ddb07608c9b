import LogSearch.Proofs.Client.Answering
import LogSearch.Proofs.Json.Lines
import LogSearch.Stream

/-!
# Flushing before waiting

While a stream waits for a page, whoever reads its output can see all hits of the pages before.  For
this the output is flushed behind the last hit of each page, and only then is the backend called again.

What was done is put down in a book, and all that matters of it is an account: what was written, what
of that was passed on, and the hits and the last of the answers.  An account is *settled* if a line was
written for every hit, and all lines were passed on.  Attempts to get a page start settled, and neither
a failure nor a delay changes that; a page adds hits to the account, which the rounds behind it write
one by one.  So the hits at hand are always what is missing from the output (`Sound`), and when none
is at hand the account is settled again.

## What is here

* `Account`, `Account.Settled` — what events say of the output;
* `Timely` — the account was settled whenever the backend was called;
* `Backoff.retry_tells` — attempts leave the output as it is;
* `Stream.Sound`, `Stream.step_tells`, `Stream.run_tells` — what one round keeps, and any number;
* `Stream.run_flushes` — a stream flushes before it waits.
-/

set_option autoImplicit false
namespace LogSearch

/-! ## What a book says of the output -/

/-- The hits of an answer. -/
def Answer.hits : Answer → List Hit
  | .ok page => page.hits
  | .error _ => []

/-- What is known of a stream from what was done. -/
structure Account where
  /-- The texts that were written, in order. -/
  written : List String
  /-- Those of them that were passed on. -/
  passedOn : List String
  /-- The hits of the pages that were got, in order. -/
  hits : List Hit
  /-- The last answer. -/
  last : Option Answer

namespace Account

/-- What is known after one more answer. -/
def answered (a : Account) (answer : Answer) : Account :=
  { a with hits := a.hits ++ answer.hits, last := some answer }

/-- What is known after one more event. -/
def add (a : Account) : Event → Account
  | .asked _ answer => a.answered answer
  | .wrote text none => { a with written := a.written ++ [text] }
  | .flushed none => { a with passedOn := a.written }
  | _ => a

/-- What is known from events, the last of them first. -/
def of (events : List Event) : Account :=
  events.foldr (fun event a ↦ a.add event) ⟨[], [], [], none⟩

/-- The lines that the hits make. -/
def lines (a : Account) : List String := a.hits.map fun hit ↦ hit.source.compact ++ "\n"

/-- All hits were written, a line for each, and nothing else, and all of it was passed on. -/
def Settled (a : Account) : Prop := a.written = a.lines ∧ a.passedOn = a.lines

theorem answered_error (a : Account) (error : ClientError) :
    a.answered (.error error) = { a with last := some (.error error) } := by
  rw [answered, Answer.hits, List.append_nil]

theorem Settled.answered {a : Account} (h : a.Settled) (error : ClientError) :
    (a.answered (.error error)).Settled := by
  rw [answered_error]
  exact h

end Account

/-- Whenever the backend was called, everything was settled. -/
def Timely (events : List Event) : Prop :=
  ∀ behind request answer before, events = behind ++ .asked request answer :: before →
    (Account.of before).Settled

section timely

variable {events : List Event}

theorem timely_cons (h : Timely events) {event : Event}
    (hevent : event.exchange?.isSome → (Account.of events).Settled) : Timely (event :: events) := by
  rintro (_ | ⟨_, behind⟩) request answer before hevents
  · cases hevents
    exact hevent rfl
  · cases hevents
    exact h behind request answer before rfl

end timely

/-! ## Waiting for pages -/

/-- The book has this to say, and was always settled when the backend was called. -/
def Tells {σ ω : Type} (a : Account) (book : Book σ ω) : Prop :=
  Account.of book.events = a ∧ Timely book.events

section tells

variable {σ ω : Type} {backend : Backend σ} {out : Sink ω} {a : Account}

theorem Tells.note {book : Book σ ω} (h : Tells a book) {event : Event}
    (hevent : event.exchange? = none) : Tells (a.add event) (book.note event) :=
  ⟨congrArg (·.add event) h.1, timely_cons h.2 (by simp [hevent])⟩

theorem tells_start (peer : σ) (sink : ω) : Tells (Account.of []) (Book.start peer sink) := by
  refine ⟨rfl, fun behind _ _ _ hevents ↦ ?_⟩
  cases behind <;> cases hevents

variable (backend out)

theorem keeps_log (entry : LogEntry) : Keeps (Tells a) ((World.booked backend out).log entry) :=
  fun _ h ↦ h.note rfl

theorem keeps_pause (announce : Announcement) (error : ClientError) (delay : Time.Duration) :
    Keeps (Tells a) (Scan.pause (World.booked backend out) announce error delay) :=
  (keeps_forM (keeps_log backend out) _).bind fun _ _ h ↦ h.note rfl

theorem Tells.search {book : Book σ ω} (h : Tells a book) (hs : a.Settled)
    (request : SearchRequest) :
    Tells (a.add (.asked request ((World.booked backend out).search request book).1))
      ((World.booked backend out).search request book).2 :=
  ⟨h.1 ▸ rfl, timely_cons h.2 fun _ ↦ h.1 ▸ hs⟩

variable {backend out}

/-- What the end of attempts says of the account in front of them and that behind them. -/
def Backoff.Brought (a a' : Account) : Backoff.Ending ClientError SearchResponse → Prop
  | .success page => a' = a.answered (.ok page)
  | .failure error => a' = a.answered (.error error)
  | .overflow => ∃ error, error.isTransient = true ∧ a' = a.answered (.error error)

/-- **Attempts that start settled leave the output as it is**, and bring the hits of a page at
most. -/
theorem Backoff.retry_tells {request : SearchRequest} {announce : Announcement} {b b' : Backoff}
    {book book' : Book σ ω} {ending : Backoff.Ending ClientError SearchResponse}
    (h : b.retry ((World.booked backend out).search request) ClientError.isTransient
      (Scan.pause (World.booked backend out) announce) book = ((ending, b'), book'))
    (ha : Tells a book) (hs : a.Settled) : ∃ a', Tells a' book' ∧ Brought a a' ending := by
  -- in front of every attempt, all but the last answer is as it was in front of the first
  refine retry_rule (P := fun book ↦ ∃ last, Tells { a with last } book)
    (R := fun answer ↦ Tells (a.answered answer))
    (Q := fun ending book ↦ ∃ a', Tells a' book ∧ Brought a a' ending) h ⟨a.last, ha⟩ ?_ ?_ ?_ ?_ ?_
  · rintro book ⟨last, hbook⟩
    exact hbook.search backend out hs request
  · exact fun page book hbook ↦ ⟨_, hbook, rfl⟩
  · exact fun error book hbook ↦ ⟨_, hbook, rfl⟩
  · exact fun error book ht hbook ↦ ⟨_, hbook, error, ht, rfl⟩
  · intro error delay book hbook
    rw [Account.answered_error] at hbook
    exact ⟨_, keeps_pause backend out announce error delay book hbook⟩

/-! ## Writing and flushing -/

/-- An output that never fails. -/
structure Sink.Reliable (out : Sink ω) : Prop where
  write : ∀ text sink, (out.write text sink).1 = none
  flush : ∀ sink, (out.flush sink).1 = none

theorem booked_write {book : Book σ ω} {text : String} {fault : Option OutputFault} {sink : ω}
    (h : out.write text book.sink = (fault, sink)) :
    (World.booked backend out).write text book
      = (fault, ({ book with sink } : Book σ ω).note (.wrote text fault)) := by
  simp only [World.booked, modifyGet, MonadStateOf.modifyGet, StateT.modifyGet, h]
  rfl

theorem booked_flush {book : Book σ ω} {fault : Option OutputFault} {sink : ω}
    (h : out.flush book.sink = (fault, sink)) :
    (World.booked backend out).flush book
      = (fault, ({ book with sink } : Book σ ω).note (.flushed fault)) := by
  simp only [World.booked, modifyGet, MonadStateOf.modifyGet, StateT.modifyGet, h]
  rfl

theorem Tells.write {book : Book σ ω} (h : Tells a book) (backend : Backend σ) (hout : out.Reliable)
    (text : String) : ∃ book', (World.booked backend out).write text book = (none, book') ∧
      Tells (a.add (.wrote text none)) book' := by
  cases hwrite : out.write text book.sink with
  | mk fault sink =>
    obtain rfl : fault = none := by simpa [hwrite] using hout.write text book.sink
    exact ⟨_, booked_write hwrite, h.note rfl⟩

theorem Tells.flush {book : Book σ ω} (h : Tells a book) (backend : Backend σ)
    (hout : out.Reliable) : ∃ book', (World.booked backend out).flush book = (none, book') ∧
      Tells (a.add (.flushed none)) book' := by
  cases hflush : out.flush book.sink with
  | mk fault sink =>
    obtain rfl : fault = none := by simpa [hflush] using hout.flush book.sink
    exact ⟨_, booked_flush hflush, h.note rfl⟩

namespace Stream

/-! ## One round -/

/-- The hits at hand are all that is not written yet, what is written is flushed if none is at hand,
hits are counted as they are written, and no page has failed. -/
structure Sound (s : Stream) (a : Account) : Prop where
  written_eq : a.written ++ s.scan.buffer.map line = a.lines
  passedOn_eq : s.scan.buffer = [] → a.passedOn = a.written
  count_eq : s.count = a.written.length
  last_ne : ∀ error, a.last ≠ some (.error error)
  done_last : s.scan.done = true → ∃ page, a.last = some (.ok page) ∧ page.isLast = true

theorem Sound.settled {s : Stream} (h : s.Sound a) (hbuffer : s.scan.buffer = []) : a.Settled := by
  have hwritten := h.written_eq
  rw [hbuffer, List.map_nil, List.append_nil] at hwritten
  exact ⟨hwritten, (h.passedOn_eq hbuffer).trans hwritten⟩

/-- What the outcome of a call says of a scan behind it. -/
def Handed (scan : Scan) (count : Nat) (a : Account) : Scan.Outcome → Prop
  | .hit hit => Sound ⟨{ scan with buffer := hit :: scan.buffer }, count⟩ a
  | .finished => Sound ⟨scan, count⟩ a ∧ scan.buffer = [] ∧ scan.done = true
  | .failure error => a.last = some (.error error) ∧ a.Settled
  | .overflow => (∃ error, error.isTransient = true ∧ a.last = some (.error error)) ∧ a.Settled

section round

variable {scan scan' : Scan} {count : Nat} {outcome : Scan.Outcome}

theorem Sound.take (h : Sound ⟨scan, count⟩ a) (hdone : scan.buffer = [] → scan.done = true)
    (htake : scan.take = (outcome, scan')) : Handed scan' count a outcome := by
  cases hbuffer : scan.buffer with
  | nil =>
    rw [Scan.take, hbuffer] at htake
    cases htake
    exact ⟨h, hbuffer, hdone hbuffer⟩
  | cons hit rest =>
    rw [Scan.take, hbuffer] at htake
    cases htake
    rw [Handed, ← hbuffer]
    exact h

/-- A page behind all that was written. -/
theorem Sound.accept (h : Sound ⟨scan, count⟩ a) (hbuffer : scan.buffer = [])
    (hdone : scan.done = false) (backoff : Backoff) (page : SearchResponse) :
    Sound ⟨(Scan.accept { scan with backoff } page).1, count⟩ (a.answered (.ok page)) := by
  obtain ⟨hwritten, hpassed⟩ := h.settled hbuffer
  rw [Scan.accept_eq]
  refine ⟨?_, fun _ ↦ hpassed.trans hwritten.symm, h.count_eq, fun _ ↦ ?_, fun hlast ↦ ⟨page, rfl, ?_⟩⟩
  · change a.written ++ (scan.buffer ++ page.hits).map line = (a.hits ++ page.hits).map line
    rw [hbuffer, List.nil_append, List.map_append, hwritten]
    rfl
  · rintro ⟨⟩
  · simpa [hdone] using hlast

theorem next_tells {book book' : Book σ ω} (h : Sound ⟨scan, count⟩ a) (ha : Tells a book)
    (hnext : scan.next (World.booked backend out) book = ((outcome, scan'), book')) :
    ∃ a', Tells a' book' ∧ Handed scan' count a' outcome := by
  cases hfetch : scan.buffer.isEmpty && !scan.done with
  | false =>
    rw [Scan.next_of_not_fetch _ hfetch] at hnext
    obtain ⟨htake, rfl⟩ := Prod.mk.inj hnext
    refine ⟨a, ha, h.take (fun hbuffer ↦ ?_) htake⟩
    simpa [hbuffer] using hfetch
  | true =>
    obtain ⟨hbuffer, hdone⟩ : scan.buffer = [] ∧ scan.done = false := by simpa using hfetch
    rw [Scan.next, if_pos hfetch] at hnext
    cases hr : scan.backoff.retry ((World.booked backend out).search scan.request)
      ClientError.isTransient (Scan.pause (World.booked backend out) scan.announce) book with
    | mk found asked =>
      obtain ⟨ending, backoff⟩ := found
      have hs := h.settled hbuffer
      obtain ⟨a', ha', hbrought⟩ := Backoff.retry_tells hr ha hs
      simp only [bind, StateT.bind, hr] at hnext
      cases ending with
      | success page =>
        cases hbrought
        have htake : (Scan.accept { scan with backoff } page).1.take = (outcome, scan') :=
          congrArg Prod.fst hnext
        have hbook : ((Scan.accept { scan with backoff } page).2.forM
            (World.booked backend out).log asked).2 = book' := congrArg Prod.snd hnext
        refine ⟨_, hbook ▸ keeps_forM (keeps_log backend out) _ _ ha', ?_⟩
        refine (h.accept hbuffer hdone backoff page).take (fun hempty ↦ ?_) htake
        rw [Scan.accept_eq] at hempty ⊢
        have hhits := (List.append_eq_nil_iff.1 hempty).2
        simp [SearchResponse.isLast, hhits]
      | failure error =>
        cases hbrought
        cases hnext
        exact ⟨_, ha', rfl, hs.answered error⟩
      | overflow =>
        obtain ⟨error, ht, rfl⟩ := hbrought
        cases hnext
        exact ⟨_, ha', ⟨error, ht, rfl⟩, hs.answered error⟩

theorem Handed.wrote {hit : Hit} (h : Handed scan count a (.hit hit)) :
    a.written ++ [line hit] ++ scan.buffer.map line = a.lines ∧
      count + 1 = (a.written ++ [line hit]).length := by
  rw [List.append_assoc, List.length_append]
  exact ⟨h.written_eq, congrArg (· + 1) h.count_eq⟩

/-- The line of a hit was written, and other hits of its page are at hand. -/
theorem Handed.sound_of_wrote {hit : Hit} (h : Handed scan count a (.hit hit))
    (hbuffer : scan.buffer ≠ []) : Sound ⟨scan, count + 1⟩ (a.add (.wrote (line hit) none)) :=
  ⟨h.wrote.1, fun hempty ↦ absurd hempty hbuffer, h.wrote.2, h.last_ne, h.done_last⟩

/-- The line of a hit was written and flushed. -/
theorem Handed.sound_of_flushed {hit : Hit} (h : Handed scan count a (.hit hit)) :
    Sound ⟨scan, count + 1⟩ ((a.add (.wrote (line hit) none)).add (.flushed none)) :=
  ⟨h.wrote.1, fun _ ↦ rfl, h.wrote.2, h.last_ne, h.done_last⟩

/-- **A hit that is handed out is written, and flushed with its page.** -/
theorem put_tells {book : Book σ ω} {hit : Hit} (hout : out.Reliable)
    (h : Handed scan count a (.hit hit)) (ha : Tells a book) :
    ∃ book' a', put (World.booked backend out) ⟨scan, count⟩ hit book
        = ((none, ⟨scan, count + 1⟩), book') ∧ Tells a' book' ∧ Sound ⟨scan, count + 1⟩ a' := by
  obtain ⟨wrote, hwrite, hwrote⟩ := ha.write backend hout (line hit)
  cases hbuffer : scan.buffer with
  | nil =>
    obtain ⟨flushed, hflush, hflushed⟩ := hwrote.flush backend hout
    refine ⟨flushed, _, ?_, hflushed, h.sound_of_flushed⟩
    simp only [put, bind, StateT.bind, hwrite, hbuffer, List.isEmpty_nil, if_true, hflush]
    rfl
  | cons next rest =>
    refine ⟨wrote, _, ?_, hwrote, h.sound_of_wrote (by simp [hbuffer])⟩
    simp only [put, bind, StateT.bind, hwrite, hbuffer, List.isEmpty_cons]
    rfl

end round

/-! ## Whole streams -/

/-- What the end of a stream says of what was done. -/
def Ending.Holds (a : Account) : Ending → Prop
  | .finished count => count = a.hits.length ∧ a.Settled ∧
      ∃ page, a.last = some (.ok page) ∧ page.isLast = true
  | .failed error => a.last = some (.error error) ∧ a.Settled
  | .overflow => (∃ error, error.isTransient = true ∧ a.last = some (.error error)) ∧ a.Settled
  | .unwritten _ => False

/-- What a round, or several, say of what was done: how the stream ended, or where it stands. -/
def Stands (a : Account) : Option Ending × Stream → Prop
  | (some ending, _) => ending.Holds a
  | (none, s) => s.Sound a

/-- **One round keeps the accounts**: it writes one more hit, or ends as it says. -/
theorem step_tells {s s' : Stream} {ending : Option Ending} {book book' : Book σ ω}
    (hout : out.Reliable) (h : s.Sound a) (ha : Tells a book)
    (hstep : s.step (World.booked backend out) book = ((ending, s'), book')) :
    ∃ a', Tells a' book' ∧ Stands a' (ending, s') ∧
      (ending = none → s'.count = s.count + 1) := by
  obtain ⟨scan, count⟩ := s
  cases hnext : scan.next (World.booked backend out) book with
  | mk found asked =>
    obtain ⟨outcome, scan'⟩ := found
    obtain ⟨a', ha', handed⟩ := next_tells h ha hnext
    simp only [step, bind, StateT.bind, hnext] at hstep
    cases outcome with
    | hit hit =>
      obtain ⟨wrote, a'', hput, ha'', hsound⟩ := put_tells hout handed ha'
      cases hput.symm.trans hstep
      exact ⟨a'', ha'', hsound, fun _ ↦ rfl⟩
    | finished =>
      obtain ⟨hsound, hbuffer, hdone⟩ := handed
      obtain ⟨flushed, hflush, hflushed⟩ := ha'.flush backend hout
      simp only [finish, bind, StateT.bind, hflush] at hstep
      cases hstep
      obtain ⟨hwritten, -⟩ := hsound.settled hbuffer
      refine ⟨_, hflushed.note rfl, ⟨?_, ⟨hwritten, hwritten⟩, hsound.done_last hdone⟩, by simp⟩
      have hlength := congrArg List.length hwritten
      rw [Account.lines, List.length_map] at hlength
      exact hsound.count_eq.trans hlength
    | failure error =>
      cases hstep
      exact ⟨a', ha', handed, by simp⟩
    | overflow =>
      cases hstep
      exact ⟨a', ha', handed, by simp⟩

/-- **Every number of rounds keeps the accounts.** -/
theorem run_tells {s s' : Stream} {ending : Option Ending} {book book' : Book σ ω} {rounds : Nat}
    (hout : out.Reliable) (h : s.Sound a) (ha : Tells a book)
    (hrun : s.run (World.booked backend out) rounds book = ((ending, s'), book')) :
    ∃ a', Tells a' book' ∧ Stands a' (ending, s') ∧
      (ending = none → s'.count = s.count + rounds) := by
  induction rounds generalizing s a book with
  | zero =>
    cases hrun
    exact ⟨a, ha, h, fun _ ↦ rfl⟩
  | succ rounds ih =>
    cases hstep : s.step (World.booked backend out) book with
    | mk found between =>
      obtain ⟨found, next⟩ := found
      obtain ⟨a', ha', hstands, hcount⟩ := step_tells hout h ha hstep
      simp only [run, bind, StateT.bind, hstep] at hrun
      cases found with
      | some found =>
        cases hrun
        exact ⟨a', ha', hstands, by simp⟩
      | none =>
        obtain ⟨a'', ha'', hstands', hcount'⟩ := ih hstands ha' hrun
        refine ⟨a'', ha'', hstands', fun hnone ↦ ?_⟩
        rw [hcount' hnone, hcount rfl]
        omega

variable {request : SearchRequest} {backoff : Backoff} {announce : Announcement} {peer : σ}
  {sink : ω}

theorem sound_new (request : SearchRequest) (backoff : Backoff) (announce : Announcement) :
    Sound ⟨.new request backoff announce, 0⟩ (Account.of []) :=
  ⟨rfl, fun _ ↦ rfl, rfl, fun _ ↦ by simp [Account.of], by simp [Scan.new]⟩

/-- **A stream flushes before it waits.**  Whenever the backend is called, all hits of the pages that
were got have been written, a line for each, and flushed.  A stream that ends well has done so with all
hits and says how many there were; one that ends with an error has done so with the hits of all pages
in front of it, and the error is the last answer.  As long as it does not end, every round writes the
line of one more hit, and no page has failed.  The document of a hit is one line. -/
theorem run_flushes (hout : out.Reliable) {rounds : Nat} {ending : Option Ending} {s : Stream}
    {book : Book σ ω}
    (h : run (World.booked backend out) rounds ⟨.new request backoff announce, 0⟩
      (.start peer sink) = ((ending, s), book)) :
    Timely book.events ∧
      (∀ found, ending = some found → found.Holds (Account.of book.events)) ∧
      (ending = none → s.count = rounds ∧ (Account.of book.events).written.length = rounds ∧
        (Account.of book.events).written <+: (Account.of book.events).lines ∧
        ∀ error, (Account.of book.events).last ≠ some (.error error)) ∧
      ∀ hit : Hit, '\n' ∉ hit.source.compact.toList := by
  obtain ⟨a, ⟨rfl, htimely⟩, hstands, hcount⟩ :=
    run_tells hout (sound_new request backoff announce) (tells_start peer sink) h
  refine ⟨htimely, ?_, ?_, fun hit ↦ Json.newline_not_mem_compact hit.source⟩
  · rintro found rfl
    exact hstands
  · rintro rfl
    have hrounds : s.count = rounds := (hcount rfl).trans (Nat.zero_add rounds)
    exact ⟨hrounds, hstands.count_eq.symm.trans hrounds, ⟨_, hstands.written_eq⟩, hstands.last_ne⟩

end Stream

end tells

namespace Stream

open Scan (smallHit smallRequest smallBackoff smallRefused)

/-- An output that keeps what it gets. -/
def keepingSink : Sink (List String) where
  write text kept := (none, kept ++ [text])
  flush kept := (none, kept)

/-- Four rounds against a server with a page of two hits and one of one, each of them behind a refused
connection. -/
def smallStream : (Option Ending × Stream) × Book (List Answer) (List String) :=
  run (World.booked .scripted keepingSink) 4
    ⟨.new smallRequest smallBackoff announce, 0⟩
    (.start [smallRefused, .ok ⟨1, false, [smallHit "1" 7, smallHit "2" 8]⟩, smallRefused,
      .ok ⟨1, false, [smallHit "3" 9]⟩] [])

theorem smallStream_flushes :
    smallStream.1.1 = some (.finished 3) ∧ smallStream.2.requests.length = 5 ∧
      Timely smallStream.2.events ∧
      (Account.of smallStream.2.events).passedOn = ["\x7b\"message\":\"line\\n1\"\x7d\n",
        "\x7b\"message\":\"line\\n2\"\x7d\n", "\x7b\"message\":\"line\\n3\"\x7d\n"] ∧
      (Account.of smallStream.2.events).Settled := by
  have hending : smallStream.1.1 = some (.finished 3) := by decide +kernel
  have hout : Sink.Reliable keepingSink := ⟨fun _ _ ↦ rfl, fun _ ↦ rfl⟩
  have hrun : smallStream = ((smallStream.1.1, smallStream.1.2), smallStream.2) := rfl
  obtain ⟨htimely, hholds, -⟩ := run_flushes hout hrun
  exact ⟨hending, by decide +kernel, htimely, by decide +kernel, (hholds _ hending).2.1⟩

end Stream
end LogSearch
