import LogSearch.Proofs.Client.Device
import LogSearch.Proofs.Client.Streaming

/-!
# When the output fails

A stream whose output fails ends at once: nothing is asked, written or flushed any more.  If whoever read
the output has gone away, it ends well, with the number of lines that were written; otherwise with the
fault.

As long as no call of the output has failed, the device has received just the lines that the book has as
written (`Book.Unbroken`).  A call that fails leaves it at that, or at that and a part of the next line
(`Book.Broken`), and the round in which it fails is the last one.

## What is here

* `Book.Unbroken`, `Book.Broken` — what the output received, without a failure and behind one;
* `Stream.put_holds`, `Stream.step_holds`, `Stream.run_holds` — a hit, a round, and any number of them;
* `Stream.run_stops` — a failure of the output ends the stream.
-/

set_option autoImplicit false
namespace LogSearch

open Device (Watched bytesOf)
open Scan (smallHit smallRequest smallBackoff smallRefused)

/-! ## What the output received -/

/-- Why an event is a failure of the output, if it is one. -/
def Event.fault? : Event → Option OutputFault
  | .wrote _ fault | .flushed fault => fault
  | _ => none

namespace Book

variable {σ δ : Type}

/-- Nothing has failed, and the device has received the lines that were written. -/
structure Unbroken (book : Book σ (Watched δ)) : Prop where
  events : ∀ event ∈ book.events, event.fault? = none
  calls : book.sink.Intact
  received : book.sink.received = (Account.of book.events).written.flatMap bytesOf

/-- A call of the device has failed, with this fault, behind so many lines. -/
structure Broken (book : Book σ (Watched δ)) (call : Device.Call) (fault : OutputFault)
    (count : Nat) : Prop where
  /-- It was the last call. -/
  calls : book.sink.FailedAt call fault
  /-- Nothing but the log was written behind it. -/
  events : ∃ (entries : List LogEntry) (event : Event) (before : List Event),
    book.events = entries.map .logged ++ event :: before ∧ event.fault? = some fault ∧
      ∀ event ∈ before, event.fault? = none
  count_le : count ≤ (Account.of book.events).lines.length
  /-- Behind the lines, the device has received a part of the next one, if that was being written. -/
  received : ∃ part : List UInt8, book.sink.received
      = ((Account.of book.events).lines.take count).flatMap bytesOf ++ part ∧
    if call.isWrite then
      ∃ next, (Account.of book.events).lines[count]? = some next ∧ part <+: bytesOf next ∧
        part.length < (bytesOf next).length
    else part = []

section output

variable {book : Book σ (Watched δ)} {line : String} {fault : OutputFault} {call : Device.Call}
  {count : Nat} {a : Account}

/-- Something that has nothing to do with the output. -/
theorem Unbroken.note (h : book.Unbroken) (event : Event) (hfault : event.fault? = none)
    (hwritten : ((Account.of book.events).add event).written = (Account.of book.events).written) :
    (book.note event).Unbroken :=
  ⟨List.forall_mem_cons.2 ⟨hfault, h.events⟩, h.calls,
    h.received.trans (congrArg (List.flatMap bytesOf) hwritten.symm)⟩

theorem Unbroken.search (h : book.Unbroken) (backend : Backend σ) (device : Device δ)
    (request : SearchRequest) :
    ((World.booked backend device.sink).search request book).2.Unbroken :=
  ⟨List.forall_mem_cons.2 ⟨rfl, h.events⟩, h.calls, h.received⟩

/-- A scan leaves the output as it is. -/
theorem keeps_unbroken_next (backend : Backend σ) (device : Device δ) (scan : Scan) :
    Keeps Unbroken (scan.next (World.booked backend device.sink)) :=
  Scan.keeps_next (fun request _ h ↦ h.search backend device request)
    (fun delay _ h ↦ h.note (.slept delay) rfl rfl)
    (fun entry _ h ↦ h.note (.logged entry) rfl rfl) scan

/-- An entry of the log behind the failure. -/
theorem Broken.log (h : book.Broken call fault count) (entry : LogEntry) :
    (book.note (.logged entry)).Broken call fault count := by
  obtain ⟨entries, event, before, hevents, hfault⟩ := h.events
  exact ⟨h.calls, ⟨entry :: entries, event, before, congrArg (List.cons _) hevents, hfault⟩,
    h.count_le, h.received⟩

/-- What became of a line or a flush behind so many lines: the output took it, and this is known now, or
it failed. -/
inductive Took (a : Account) (count : Nat) : Option OutputFault × Book σ (Watched δ) → Prop
  | taken {book : Book σ (Watched δ)} (tells : Tells a book) (unbroken : book.Unbroken) :
    Took a count (none, book)
  | failed {book : Book σ (Watched δ)} {call : Device.Call} {fault : OutputFault}
    (broken : book.Broken call fault count) : Took a count (some fault, book)

/-- A line that is due. -/
theorem Unbroken.write (h : book.Unbroken) (backend : Backend σ) (device : Device δ)
    (ha : Tells a book) (hlines : a.written ++ [line] <+: a.lines)
    (hcount : count = a.written.length) :
    Took (a.add (.wrote line none)) count ((World.booked backend device.sink).write line book) := by
  obtain rfl := ha.1
  have hline := Device.written_sink (d := device) line h.calls
  rcases hwrite : device.sink.write line book.sink with ⟨fault, sink⟩
  rw [booked_write hwrite]
  rw [hwrite] at hline
  cases fault with
  | none =>
    obtain ⟨hintact, hreceived⟩ := hline
    refine .taken (ha.note rfl) ⟨List.forall_mem_cons.2 ⟨rfl, h.events⟩, hintact, ?_⟩
    change sink.received = ((Account.of book.events).written ++ [line]).flatMap bytesOf
    rw [hreceived, h.received, List.flatMap_append, List.flatMap_singleton]
  | some fault =>
    obtain ⟨⟨call, hcall, hfailed⟩, part, hpart, hlt, hreceived⟩ := hline
    obtain ⟨others, hlines⟩ := hlines
    -- the line at this place is the one that was being written
    refine .failed ⟨hfailed, ⟨[], _, _, rfl, rfl, h.events⟩, ?_, part, ?_, ?_⟩
    · change _ ≤ (Account.of book.events).lines.length
      rw [hcount, ← hlines]
      simp
    · change sink.received = ((Account.of book.events).lines.take _).flatMap bytesOf ++ part
      rw [hreceived, h.received, hcount, ← hlines, List.append_assoc, List.take_left]
    · rw [if_pos hcall]
      refine ⟨line, ?_, hpart, hlt⟩
      change (Account.of book.events).lines[_]? = _
      rw [hcount, ← hlines]
      simp

theorem Unbroken.flush (h : book.Unbroken) (backend : Backend σ) (device : Device δ)
    (ha : Tells a book) (hlines : a.written <+: a.lines) (hcount : count = a.written.length) :
    Took (a.add (.flushed none)) count ((World.booked backend device.sink).flush book) := by
  obtain rfl := ha.1
  have hflushed := Device.flushed_sink (d := device) h.calls
  rcases hflush : device.sink.flush book.sink with ⟨fault, sink⟩
  rw [booked_flush hflush]
  rw [hflush] at hflushed
  cases fault with
  | none =>
    obtain ⟨hintact, hreceived⟩ := hflushed
    exact .taken (ha.note rfl)
      ⟨List.forall_mem_cons.2 ⟨rfl, h.events⟩, hintact, hreceived.trans h.received⟩
  | some fault =>
    obtain ⟨⟨call, hcall, hfailed⟩, hreceived⟩ := hflushed
    refine .failed ⟨hfailed, ⟨[], _, _, rfl, rfl, h.events⟩, hcount ▸ hlines.length_le, [], ?_, ?_⟩
    · change sink.received = ((Account.of book.events).lines.take _).flatMap bytesOf ++ []
      rw [hreceived, h.received, List.append_nil, hcount, ← List.prefix_iff_eq_take.1 hlines]
    · simp [hcall]

end output

end Book

namespace Stream

/-! ## Rounds -/

/-- How a stream ends behind a failure of its output. -/
def Ending.behind (fault : OutputFault) (count : Nat) : Ending :=
  if fault = .closed then .finished count else .unwritten fault

variable {σ δ : Type} {backend : Backend σ} {device : Device δ} {book book' : Book σ (Watched δ)}

/-- What rounds leave behind: nothing has failed, and the hits at hand are what is not written yet, or the
output has failed and the stream has ended. -/
inductive Held (book : Book σ (Watched δ)) (ending : Option Ending) (s : Stream) : Prop
  | unbroken (a : Account) (tells : Tells a book) (unbroken : book.Unbroken)
    (sound : ending = none → s.Sound a)
  | broken (call : Device.Call) (fault : OutputFault) (broken : book.Broken call fault s.count)
    (ending_eq : ending = some (.behind fault s.count))

section round

variable {s s' : Stream} {scan : Scan} {count : Nat} {a : Account} {call : Device.Call}
  {fault : OutputFault} {ending : Option Ending}

/-- The end behind a failure. -/
theorem close_holds (h : book.Broken call fault s.count) :
    Held (s.close (World.booked backend device.sink) fault book).2
      (some (s.close (World.booked backend device.sink) fault book).1) s := by
  cases fault with
  | closed => exact .broken call .closed (h.log _) rfl
  | other reason => exact .broken call (.other reason) h rfl

/-- **A hit that is handed out is written, and flushed with its page, or the stream ends.** -/
theorem put_holds {hit : Hit} (h : Handed scan count a (.hit hit)) (ha : Tells a book)
    (hb : book.Unbroken)
    (hput : put (World.booked backend device.sink) ⟨scan, count⟩ hit book = ((ending, s'), book')) :
    Held book' ending s' := by
  obtain ⟨hlines, hwrote⟩ := h.wrote
  have htook := hb.write backend device ha ⟨_, hlines⟩ h.count_eq
  rcases hwrite : (World.booked backend device.sink).write (line hit) book with ⟨fault, wrote⟩
  rw [hwrite] at htook
  simp only [put, bind, StateT.bind, hwrite] at hput
  cases htook with
  | failed hbroken =>
    cases hput
    exact close_holds hbroken
  | taken hawrote hbwrote =>
    cases hbuffer : scan.buffer with
    | cons next rest =>
      simp only [hbuffer, List.isEmpty_cons] at hput
      cases hput
      exact .unbroken _ hawrote hbwrote fun _ ↦ h.sound_of_wrote (by simp [hbuffer])
    | nil =>
      have htook := hbwrote.flush backend device hawrote ⟨_, hlines⟩ hwrote
      rcases hflush : (World.booked backend device.sink).flush wrote with ⟨fault, flushed⟩
      rw [hflush] at htook
      simp only [hbuffer, List.isEmpty_nil, if_true, StateT.bind, hflush] at hput
      cases htook with
      | failed hbroken =>
        cases hput
        exact close_holds hbroken
      | taken haflushed hbflushed =>
        cases hput
        exact .unbroken _ haflushed hbflushed fun _ ↦ h.sound_of_flushed

/-- The end behind the last hit. -/
theorem finish_holds (h : s.Sound a) (hbuffer : s.scan.buffer = []) (ha : Tells a book)
    (hb : book.Unbroken) :
    Held (s.finish (World.booked backend device.sink) book).2
      (some (s.finish (World.booked backend device.sink) book).1) s := by
  have hlines : a.written <+: a.lines := (h.settled hbuffer).1 ▸ List.prefix_rfl
  have htook := hb.flush backend device ha hlines h.count_eq
  rcases hflush : (World.booked backend device.sink).flush book with ⟨fault, flushed⟩
  rw [hflush] at htook
  simp only [finish, bind, StateT.bind, hflush]
  cases htook with
  | failed hbroken => exact close_holds hbroken
  | taken haflushed hbflushed =>
    exact .unbroken _ (haflushed.note rfl) (hbflushed.note (.logged _) rfl rfl) (by simp)

/-- **One round either leaves the output unbroken or is the last one.** -/
theorem step_holds (h : s.Sound a) (ha : Tells a book) (hb : book.Unbroken)
    (hstep : s.step (World.booked backend device.sink) book = ((ending, s'), book')) :
    Held book' ending s' := by
  obtain ⟨scan, count⟩ := s
  rcases hnext : scan.next (World.booked backend device.sink) book with ⟨found, asked⟩
  obtain ⟨outcome, scan'⟩ := found
  obtain ⟨a', ha', handed⟩ := next_tells h ha hnext
  have hb' : asked.Unbroken := by
    have hkeeps := Book.keeps_unbroken_next backend device scan book hb
    rwa [hnext] at hkeeps
  simp only [step, bind, StateT.bind, hnext] at hstep
  cases outcome with
  | hit hit => exact put_holds handed ha' hb' hstep
  | finished =>
    obtain ⟨hsound, hbuffer, -⟩ := handed
    cases hstep
    exact finish_holds hsound hbuffer ha' hb'
  | failure error =>
    cases hstep
    exact .unbroken a' ha' hb' (by simp)
  | overflow =>
    cases hstep
    exact .unbroken a' ha' hb' (by simp)

/-- **Any number of rounds do.** -/
theorem run_holds {rounds : Nat} (h : s.Sound a) (ha : Tells a book) (hb : book.Unbroken)
    (hrun : s.run (World.booked backend device.sink) rounds book = ((ending, s'), book')) :
    Held book' ending s' := by
  induction rounds generalizing s a book with
  | zero =>
    cases hrun
    exact .unbroken a ha hb fun _ ↦ h
  | succ rounds ih =>
    rcases hstep : s.step (World.booked backend device.sink) book with ⟨found, between⟩
    obtain ⟨found, next⟩ := found
    have hheld := step_holds h ha hb hstep
    simp only [run, bind, StateT.bind, hstep] at hrun
    cases found with
    | some found =>
      cases hrun
      exact hheld
    | none =>
      cases hheld with
      | unbroken a' ha' hb' hsound => exact ih (hsound rfl) ha' hb' hrun
      | broken call fault _ hnone => cases hnone

end round

/-! ## Whole streams -/

/-- **A stream whose output fails ends at once.**  The call of the device that fails is its last one, and
nothing but an entry of the log comes behind it: nothing is asked, written or flushed.  If whoever read the
output has gone away, the stream ends well, with the number of lines that the device has received whole;
otherwise it ends with the fault.  These are the lines of so many first hits of the pages that were got.
Behind them the device has received nothing, or, if it failed at a write, a part of the next line. -/
theorem run_stops {request : SearchRequest} {backoff : Backoff} {announce : Announcement} {peer : σ}
    {state : δ} {rounds : Nat} {ending : Option Ending} {s : Stream} {call : Device.Call}
    {fault : OutputFault}
    (h : run (World.booked backend device.sink) rounds ⟨.new request backoff announce, 0⟩
      (.start peer ⟨state, []⟩) = ((ending, s), book))
    (hcall : call ∈ book.sink.calls) (hfault : call.fault? = some fault) :
    ∃ count, book.Broken call fault count ∧ ending = some (.behind fault count) := by
  have hstart : Book.Unbroken (.start peer (⟨state, []⟩ : Watched δ)) :=
    ⟨List.forall_mem_nil _, List.forall_mem_nil _, rfl⟩
  cases run_holds (sound_new request backoff announce) (tells_start peer _) hstart h with
  | unbroken a _ hunbroken _ => simp [hunbroken.calls call hcall] at hfault
  | broken last found hbroken hending =>
    -- of the calls, only the last one has failed
    obtain ⟨hlast, before, hcalls, hbefore⟩ := hbroken.calls
    rw [hcalls] at hcall
    rcases List.mem_cons.1 hcall with rfl | hmem
    · obtain rfl : found = fault := Option.some.inj (hlast.symm.trans hfault)
      exact ⟨s.count, hbroken, hending⟩
    · simp [hbefore call hmem] at hfault

/-- A device that takes three bytes at a time, so many times, and then finds that its reader has gone
away. -/
def brittle : Device Nat where
  write bytes left := match left with
    | 0 => (.error .closed, 0)
    | left + 1 => (.ok ⟨min 3 bytes.length, Nat.lt_succ_of_le (Nat.min_le_right ..)⟩, left)
  flush left := (none, left)

/-- Three rounds against a server with two pages, each of them behind a refused connection.  The output
takes the line of the first page and six bytes of the line behind it. -/
def smallBroken : (Option Ending × Stream) × Book (List Answer) (Watched Nat) :=
  run (World.booked .scripted brittle.sink) 3
    ⟨.new smallRequest smallBackoff announce, 0⟩
    (.start [smallRefused, .ok ⟨1, false, [smallHit "1" 7]⟩, smallRefused,
      .ok ⟨1, false, [smallHit "2" 8, smallHit "3" 9]⟩] ⟨10, []⟩)

theorem smallBroken_stops :
    smallBroken.1.1 = some (.finished 1) ∧ smallBroken.2.requests.length = 4 ∧
      smallBroken.2.sink.received = bytesOf "\x7b\"message\":\"line\\n1\"\x7d\n\x7b\"mess" ∧
      ∃ call, smallBroken.2.Broken call .closed 1 := by
  have hrun : smallBroken = ((smallBroken.1.1, smallBroken.1.2), smallBroken.2) := rfl
  have hending : smallBroken.1.1 = some (.finished 1) := by decide +kernel
  have hcalls : (smallBroken.2.sink.calls.head?.bind Device.Call.fault?) = some .closed := by
    decide +kernel
  obtain ⟨call, hcall, hfault⟩ := Option.bind_eq_some_iff.1 hcalls
  obtain ⟨count, hbroken, hcount⟩ := run_stops hrun (List.mem_of_head? hcall) hfault
  obtain rfl : count = 1 := by
    cases hending.symm.trans hcount
    rfl
  exact ⟨hending, by decide +kernel, by decide +kernel, _, hbroken⟩

end Stream

end LogSearch
