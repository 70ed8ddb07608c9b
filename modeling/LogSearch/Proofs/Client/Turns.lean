import LogSearch.Client.Http
import LogSearch.Proofs.Client.Answering
import Mathlib.Control.Monad.Basic
import Mathlib.Data.Nat.Basic

/-!
# What a scan sends

A client puts every search to its server in a message.  Let the server refuse connections or answer in
time.  Then a scan sends the message of a page again only after a connection that was refused, and
whatever the server answers settles the page.  So what a scan sends falls into *turns*, one for each
page (`calls_take_turns`): refused connections, fewer than the backoff allows attempts, with an answer
behind them, or as many as there are attempts.

The messages are noted by the carrier, so they come with the exchanges of the book one by one
(`Carried`).  A scan that has not ended is in the middle of a turn (`Underway`), and every exchange
either adds a refused connection to the turn or ends it.

## What is here

* `Carrier.noted`, `Carried`, `carried_of_calls` — the messages behind the exchanges;
* `Settles`, `settles_readAnswer` — what an answer of the server makes of its page;
* `Turn`, `Turns` — what is sent for one page, and for one page after the other;
* `Underway`, `underway_of_proper` — where a scan is in its turns;
* `calls_take_turns` — what a scan sends and hands out.
-/

set_option autoImplicit false
namespace LogSearch

/-! ## Messages -/

/-- Keeps the messages with the replies to them, in order. -/
def Carrier.noted {σ : Type} (carrier : Carrier σ) :
    Carrier (σ × List (HttpRequest × HttpReply)) where
  describe := carrier.describe
  send message state :=
    let (reply, peer) := carrier.send message state.1
    (reply, (peer, state.2 ++ [(message, reply)]))

/-- Exchanges, and the messages that they took.  What is asked for needs no message if it has no
URL. -/
inductive Carried (client : Client) (describe : TransportFault → String) :
    List (SearchRequest × Answer) → List (HttpRequest × HttpReply) → Prop
  | nil : Carried client describe [] []
  | sent {exchanges : List (SearchRequest × Answer)} {log : List (HttpRequest × HttpReply)}
    {request : SearchRequest} {message : HttpRequest} (reply : HttpReply)
    (before : Carried client describe exchanges log)
    (hmessage : client.request? request = some message) :
    Carried client describe (exchanges ++ [(request, Client.readAnswer describe reply)])
      (log ++ [(message, reply)])
  | unsent {exchanges : List (SearchRequest × Answer)} {log : List (HttpRequest × HttpReply)}
    {request : SearchRequest} (before : Carried client describe exchanges log)
    (hmessage : client.request? request = none) :
    Carried client describe
      (exchanges ++ [(request, .error (.transport .unaddressable (describe .unaddressable)))]) log

section carried

variable {σ ω : Type} {client : Client} {carrier : Carrier σ} {out : Sink ω}

/-- The messages of a book are those that its exchanges took. -/
def Book.CarriedBy (client : Client) (carrier : Carrier σ)
    (book : Book (σ × List (HttpRequest × HttpReply)) ω) : Prop :=
  Carried client carrier.describe book.exchanges book.peer.2

theorem Book.CarriedBy.note {book : Book (σ × List (HttpRequest × HttpReply)) ω}
    (h : book.CarriedBy client carrier) {event : Event} (hevent : event.exchange? = none) :
    (book.note event).CarriedBy client carrier := by
  rw [CarriedBy, exchanges_note, hevent, Option.toList_none, List.append_nil]
  exact h

theorem Book.CarriedBy.search {book : Book (σ × List (HttpRequest × HttpReply)) ω}
    (h : book.CarriedBy client carrier) (request : SearchRequest) :
    ((World.booked (client.backend carrier.noted) out).search request book).2.CarriedBy client
      carrier := by
  have hpeer : ((World.booked (client.backend carrier.noted) out).search request book).2.peer
      = ((client.backend carrier.noted).search request book.peer).2 := rfl
  rw [CarriedBy, exchanges_search, hpeer, Client.backend]
  cases hmessage : client.request? request with
  | none =>
    simp only [hmessage]
    exact .unsent h hmessage
  | some message =>
    simp only [hmessage]
    exact .sent _ h hmessage

/-- **The messages are those that the exchanges took**, whatever a scan does in between. -/
theorem Scan.carried_of_calls {request : SearchRequest} {backoff : Backoff}
    {announce : Announcement} {peer : σ} {sink : ω} {k : Nat} {found : List Outcome × Scan}
    {book : Book (σ × List (HttpRequest × HttpReply)) ω}
    (h : calls (World.booked (client.backend carrier.noted) out) k (new request backoff announce)
      (.start (peer, []) sink) = (found, book)) : book.CarriedBy client carrier := by
  have hkeeps : Keeps (Book.CarriedBy client carrier)
      (calls (World.booked (client.backend carrier.noted) out) k (new request backoff announce)) :=
    keeps_calls (fun request book hbook ↦ hbook.search request)
      (fun delay book hbook ↦ hbook.note rfl) (fun entry book hbook ↦ hbook.note rfl) k _
  have hbook := hkeeps (.start (peer, []) sink) .nil
  rwa [h] at hbook

end carried

/-! ## Answers of the server -/

/-- A refused connection, or an answer of one of the usual kinds, without a mark of the byte order in
front of its text. -/
def HttpReply.IsPlain : HttpReply → Prop
  | .refused => True
  | .dropped | .timedOut => False
  | .answered status body =>
    (200 ≤ status ∧ status < 300 ∨ 400 ≤ status ∧ status < 600) ∧
      body.toList.head? ≠ some '\ufeff'

instance (reply : HttpReply) : Decidable reply.IsPlain := by
  cases reply <;> unfold HttpReply.IsPlain <;> infer_instance

/-- What an answer of the server makes of its page. -/
inductive Settles (status : Nat) (body : String) : Answer → Prop
  /-- The text is a page. -/
  | page {page : SearchResponse} (hstatus : 200 ≤ status ∧ status < 300) (htext : status ≠ 204)
    (hbody : SearchResponse.decode body = .ok page) : Settles status body (.ok page)
  /-- The text is no page. -/
  | unreadable {fault : Json.Fault} (hstatus : 200 ≤ status ∧ status < 300)
    (htext : status ≠ 204) (hbody : SearchResponse.decode body = .error fault) :
    Settles status body (.error (.json fault))
  /-- There is no text, whatever is sent behind the status. -/
  | blank (htext : status = 204) : Settles status body (.error (.json ⟨.endInValue, 1, 0⟩))
  /-- The server refuses and says why. -/
  | refusal {refusal : Refusal} (hstatus : ¬ (200 ≤ status ∧ status < 300))
    (hbody : Refusal.decode body = .ok refusal) :
    Settles status body (.error (.api status refusal.reason))
  /-- The server refuses in words of its own. -/
  | other {fault : Json.Fault} (hstatus : ¬ (200 ≤ status ∧ status < 300))
    (hbody : Refusal.decode body = .error fault) : Settles status body (.error (.http status body))

/-- What is settled is not tried again. -/
theorem Settles.isTransient_eq_false {status : Nat} {body : String} {error : ClientError}
    (h : Settles status body (.error error)) : error.isTransient = false := by
  cases h <;> rfl

namespace Client

theorem textOf_eq_self {status : Nat} {body : String} (hstatus : status ≠ 204 ∧ status ≠ 304)
    (hmark : body.toList.head? ≠ some '\ufeff') : textOf status body = body := by
  rw [textOf, if_neg (by simpa using hstatus)]
  split
  · next heq => simp [heq] at hmark
  · rfl

/-- **What the client reads in a plain answer settles the page.** -/
theorem settles_readAnswer (describe : TransportFault → String) {status : Nat} {body : String}
    (h : (HttpReply.answered status body).IsPlain) :
    Settles status body (readAnswer describe (.answered status body)) := by
  obtain ⟨hrange, hmark⟩ := h
  by_cases htext : status = 204
  · subst htext
    exact .blank rfl
  · simp only [readAnswer, textOf_eq_self ⟨htext, by omega⟩ hmark]
    by_cases hstatus : 200 ≤ status ∧ status < 300
    · rw [if_pos (by simpa using hstatus)]
      cases hbody : SearchResponse.decode body with
      | ok page => exact .page hstatus htext hbody
      | error fault => exact .unreadable hstatus htext hbody
    · rw [if_neg (by simpa using hstatus)]
      cases hbody : Refusal.decode body with
      | ok refusal => exact .refusal hstatus hbody
      | error fault => exact .other hstatus hbody

end Client

namespace Scan

/-! ## Turns -/

/-- Whether another page is asked for behind an answer that settles its page. -/
def goesOn : Answer → Bool
  | .ok page => !page.isLast
  | .error _ => false

/-- What is handed out after an answer that settles its page. -/
def handed : Answer → List Outcome
  | .ok page => page.hits.map .hit
  | .error error => [.failure error]

/-- So many refused connections with the message of a request. -/
def knocks (client : Client) (request : SearchRequest) (refusals : Nat) :
    List (HttpRequest × HttpReply) :=
  (client.request? request).toList.flatMap fun message ↦ List.replicate refusals (message, .refused)

/-- What is sent for one page, and the answer that settles it. -/
inductive Turn (client : Client) (describe : TransportFault → String) (maximum : Nat)
    (request : SearchRequest) : List (HttpRequest × HttpReply) → Answer → Prop
  /-- The server answers, behind fewer refused connections than there are attempts. -/
  | answered {message : HttpRequest} {refusals status : Nat} {body : String} {answer : Answer}
    (hmessage : client.request? request = some message) (hrefusals : refusals < maximum)
    (hanswer : Settles status body answer) :
    Turn client describe maximum request
      (List.replicate refusals (message, .refused) ++ [(message, .answered status body)]) answer
  /-- The connection is refused in every attempt. -/
  | unreached {message : HttpRequest} (hmessage : client.request? request = some message) :
    Turn client describe maximum request (List.replicate maximum (message, .refused))
      (.error (.transport .refused (describe .refused)))
  /-- Nothing can be sent. -/
  | unsent (hmessage : client.request? request = none) :
    Turn client describe maximum request []
      (.error (.transport .unaddressable (describe .unaddressable)))

/-- What is sent for the pages of a search, one after the other, and the answers that settle them.
Each page follows the one before, and nothing follows the end. -/
inductive Turns (client : Client) (describe : TransportFault → String) (maximum : Nat)
    (request : SearchRequest) : List (HttpRequest × HttpReply) → List Answer → Prop
  | start : Turns client describe maximum request [] []
  | turn {log sent : List (HttpRequest × HttpReply)} {answers : List Answer} {answer : Answer}
    (before : Turns client describe maximum request log answers)
    (hopen : ∀ answer ∈ answers, goesOn answer = true)
    (hturn : Turn client describe maximum (follow request answers) sent answer) :
    Turns client describe maximum request (log ++ sent) (answers ++ [answer])

section turns

variable {client : Client} {describe : TransportFault → String} {maximum : Nat}
  {request : SearchRequest} {message : HttpRequest}

theorem knocks_of_some (hmessage : client.request? request = some message) (refusals : Nat) :
    knocks client request refusals = List.replicate refusals (message, .refused) := by
  rw [knocks, hmessage, Option.toList_some, List.flatMap_singleton]

theorem knocks_of_none (hmessage : client.request? request = none) (refusals : Nat) :
    knocks client request refusals = [] := by
  rw [knocks, hmessage]
  rfl

theorem knocks_zero (client : Client) (request : SearchRequest) : knocks client request 0 = [] := by
  rw [knocks]
  cases client.request? request <;> rfl

/-- What is due behind an answer that settles its page. -/
theorem due_append_settled {got : List Answer} {answer : Answer}
    (h : ∀ error, answer = .error error → error.isTransient = true →
      maximum ≤ (due maximum got).failures + 1) :
    (due maximum (got ++ [answer])).outcomes = (due maximum got).outcomes ++ handed answer ∧
      (due maximum (got ++ [answer])).ended = !goesOn answer ∧
      ((due maximum (got ++ [answer])).ended = false →
        (due maximum (got ++ [answer])).failures = 0) := by
  cases answer with
  | ok page =>
    rw [due_append_ok, goesOn, Bool.not_not]
    exact ⟨rfl, rfl, fun _ ↦ rfl⟩
  | error error =>
    have hstands :
        (error.isTransient && decide ((due maximum got).failures + 1 < maximum)) = false := by
      cases ht : error.isTransient with
      | false => rfl
      | true => simpa using h error rfl ht
    rw [due_append, Due.answer, if_neg (by simp [hstands])]
    exact ⟨rfl, rfl, fun hended ↦ absurd hended (by simp)⟩

theorem cursor_append_congr {got answers : List Answer}
    (h : cursor request got = cursor request answers) (answer : Answer) :
    cursor request (got ++ [answer]) = cursor request (answers ++ [answer]) := by
  cases answer with
  | ok page => rw [cursor_append_ok, cursor_append_ok]
  | error error => rw [cursor_append_error, cursor_append_error, h]

/-! ## In the middle of a turn -/

/-- Where a scan is in its turns: the pages that are settled, and the refused connections of the page
that is not. -/
structure Underway (client : Client) (describe : TransportFault → String) (maximum : Nat)
    (request : SearchRequest) (got : List Answer) (log settled : List (HttpRequest × HttpReply))
    (answers : List Answer) (refusals : Nat) : Prop where
  turns : Turns client describe maximum request settled answers
  log_eq : log = settled ++ knocks client (follow request answers) refusals
  refusals_lt : refusals < maximum
  cursor_eq : cursor request got = cursor request answers
  outcomes_eq : (due maximum got).outcomes = answers.flatMap handed
  ended_iff : (due maximum got).ended = false ↔ ∀ answer ∈ answers, goesOn answer = true
  failures_eq : (due maximum got).ended = false → (due maximum got).failures = refusals
  refusals_eq : (due maximum got).ended = true → refusals = 0

variable {got answers : List Answer} {log settled sent more : List (HttpRequest × HttpReply)}
  {refusals : Nat}

theorem underway_start (client : Client) (describe : TransportFault → String)
    (request : SearchRequest) (hmaximum : 1 ≤ maximum) :
    Underway client describe maximum request [] [] [] [] 0 where
  turns := .start
  log_eq := by rw [knocks_zero, List.append_nil]
  refusals_lt := hmaximum
  cursor_eq := rfl
  outcomes_eq := rfl
  ended_iff := by simp [due]
  failures_eq _ := rfl
  refusals_eq _ := rfl

/-- An answer that ends the turn. -/
theorem Underway.settle
    (hu : Underway client describe maximum request got log settled answers refusals)
    (hopen : (due maximum got).ended = false) {answer : Answer}
    (hstands : ∀ error, answer = .error error → error.isTransient = true →
      maximum ≤ (due maximum got).failures + 1)
    (hturn : Turn client describe maximum (follow request answers) sent answer)
    (hsent : knocks client (follow request answers) refusals ++ more = sent) :
    Underway client describe maximum request (got ++ [answer]) (log ++ more) (settled ++ sent)
      (answers ++ [answer]) 0 := by
  obtain ⟨houtcomes, hended, hfailures⟩ := due_append_settled hstands
  have hgo := hu.ended_iff.1 hopen
  refine ⟨hu.turns.turn hgo hturn, ?_, Nat.zero_lt_of_lt hu.refusals_lt,
    cursor_append_congr hu.cursor_eq answer, ?_, ?_, hfailures, fun _ ↦ rfl⟩
  · rw [knocks_zero, List.append_nil, hu.log_eq, List.append_assoc, hsent]
  · rw [houtcomes, hu.outcomes_eq, List.flatMap_append, List.flatMap_singleton]
  · rw [hended, Bool.not_eq_false', List.forall_mem_append]
    simpa using fun _ ↦ hgo

/-- A connection that is refused: another attempt follows, or the turn ends. -/
theorem Underway.knock
    (hu : Underway client describe maximum request got log settled answers refusals)
    (hopen : (due maximum got).ended = false)
    (hmessage : client.request? (follow request answers) = some message) :
    ∃ settled' answers' refusals', Underway client describe maximum request
      (got ++ [.error (.transport .refused (describe .refused))]) (log ++ [(message, .refused)])
      settled' answers' refusals' := by
  by_cases hlt : refusals + 1 < maximum
  · have hpass : (ClientError.transport .refused (describe .refused)).isTransient = true := rfl
    have hdue := due_append_transient hpass (by rwa [hu.failures_eq hopen])
    refine ⟨settled, answers, refusals + 1, hu.turns, ?_, hlt, ?_, ?_, ?_, ?_, ?_⟩
    · rw [hu.log_eq, knocks_of_some hmessage, knocks_of_some hmessage, List.append_assoc,
        List.replicate_succ']
    · rw [cursor_append_error, hu.cursor_eq]
    · rw [hdue, hu.outcomes_eq]
    · rw [hdue]
      exact hu.ended_iff
    · intro _
      rw [hdue, hu.failures_eq hopen]
    · intro hended
      rw [hdue, hopen] at hended
      cases hended
  · have hmaximum : refusals + 1 = maximum := by
      have := hu.refusals_lt
      omega
    refine ⟨_, _, 0, hu.settle hopen ?_ (.unreached hmessage) ?_⟩
    · intro _ _ _
      rw [hu.failures_eq hopen, hmaximum]
    · rw [knocks_of_some hmessage, ← List.replicate_succ', hmaximum]

/-- **A scan is always in the middle of a turn or behind the last one.** -/
theorem underway_of_proper (hmaximum : 1 ≤ maximum) {exchanges : List (SearchRequest × Answer)}
    (hp : Proper request maximum exchanges) (hcarried : Carried client describe exchanges log)
    (hplain : ∀ entry ∈ log, entry.2.IsPlain) :
    ∃ settled answers refusals, Underway client describe maximum request
      (exchanges.map Prod.snd) log settled answers refusals := by
  induction hcarried with
  | nil => exact ⟨[], [], 0, underway_start client describe request hmaximum⟩
  | @sent exchanges log asked message reply before hmessage ih =>
    obtain ⟨hopen, hasked⟩ := hp exchanges asked _ [] rfl
    obtain ⟨settled, answers, refusals, hu⟩ :=
      ih hp.of_append fun entry he ↦ hplain entry (List.mem_append_left _ he)
    rw [hu.cursor_eq] at hasked
    obtain rfl : asked = follow request answers := hasked
    have hreply := hplain (message, reply) (by simp)
    simp only [List.map_append, List.map_cons, List.map_nil]
    cases reply with
    | refused => exact hu.knock hopen hmessage
    | dropped => exact hreply.elim
    | timedOut => exact hreply.elim
    | answered status body =>
      have hanswer := Client.settles_readAnswer describe hreply
      refine ⟨_, _, 0, hu.settle hopen ?_ (.answered hmessage hu.refusals_lt hanswer) ?_⟩
      · intro error herror ht
        rw [herror] at hanswer
        rw [hanswer.isTransient_eq_false] at ht
        cases ht
      · rw [knocks_of_some hmessage]
  | @unsent exchanges log asked before hmessage ih =>
    obtain ⟨hopen, hasked⟩ := hp exchanges asked _ [] rfl
    obtain ⟨settled, answers, refusals, hu⟩ := ih hp.of_append hplain
    rw [hu.cursor_eq] at hasked
    obtain rfl : asked = follow request answers := hasked
    simp only [List.map_append, List.map_cons, List.map_nil]
    have hsent : knocks client (follow request answers) refusals ++ [] = [] := by
      rw [knocks_of_none hmessage, List.append_nil]
    have hsettled := hu.settle hopen ?_ (.unsent hmessage) hsent
    · rw [List.append_nil] at hsettled
      exact ⟨_, _, 0, hsettled⟩
    · intro error herror ht
      cases herror
      cases ht

end turns

/-! ## Runs of calls -/

/-- **What a scan sends and hands out.**  If its server refuses connections or gives plain answers,
what a scan sends are turns, one for each page.  It hands out what the settled pages hold, in order,
and the end behind it, which is said only once a page was the last or a failure ended the scan; and
no failure that settles a page is one that may pass. -/
theorem calls_take_turns {σ ω : Type} {client : Client} {carrier : Carrier σ} {out : Sink ω}
    {peer : σ} {sink : ω} {request : SearchRequest} {backoff : Backoff} {announce : Announcement}
    (hcount : backoff.count = 0) (hmaximum : 1 ≤ backoff.maximum) {k : Nat}
    {outcomes : List Outcome} {scan : Scan} {book : Book (σ × List (HttpRequest × HttpReply)) ω}
    (h : calls (World.booked (client.backend carrier.noted) out) k (new request backoff announce)
      (.start (peer, []) sink) = ((outcomes, scan), book)) (ho : .overflow ∉ outcomes)
    (hplain : ∀ entry ∈ book.peer.2, entry.2.IsPlain) :
    (∃ answers, Turns client carrier.describe backoff.maximum request book.peer.2 answers ∧
      outcomes = (answers.flatMap handed ++ List.replicate k Outcome.finished).take k ∧
      ((answers.flatMap handed).length < k → ∃ answer ∈ answers, goesOn answer = false)) ∧
    ∀ status body error, Settles status body (.error error) → error.isTransient = false := by
  obtain ⟨rfl, hk⟩ := kept_of_calls hcount hmaximum h ho
  obtain ⟨settled, answers, refusals, hu⟩ :=
    underway_of_proper hmaximum hk.proper (carried_of_calls h) hplain
  -- between two calls no turn is under way
  have hrefusals : refusals = 0 := by
    cases hended : (due backoff.maximum (book.exchanges.map Prod.snd)).ended with
    | true => exact hu.refusals_eq hended
    | false =>
      rw [← hu.failures_eq hended]
      exact hk.failures_eq (hk.ended_eq.symm.trans hended)
  have hlog := hu.log_eq
  rw [hrefusals, knocks_zero, List.append_nil] at hlog
  refine ⟨⟨answers, hlog ▸ hu.turns, hu.outcomes_eq ▸ hk.eq_take, fun hlt ↦ ?_⟩,
    fun status body error hsettles ↦ hsettles.isTransient_eq_false⟩
  by_contra hall
  have hended := hk.ended (hu.outcomes_eq ▸ hlt)
  rw [hu.ended_iff.2 (by simpa using hall)] at hended
  cases hended

/-- The text of a page with one hit, which has nothing but its place. -/
def smallPage : String :=
  Json.compact (.object [("hits", .object [("hits",
    .array [.object [("sort", .array [.number (.int 7)])]])])])

/-- Calls to a server with prepared replies, which get two attempts for each page. -/
def smallCalls (replies : List HttpReply) (k : Nat) :
    (List Outcome × Scan) × Book (ScriptedServer × List (HttpRequest × HttpReply)) ScriptedSink :=
  calls (World.booked
      (Client.backend ⟨"http://[::1]", none⟩ (ScriptedServer.carrier fun _ ↦ "gone").noted)
      ScriptedSink.sink) k
    (new ⟨"logs", .present "a", "@timestamp", 2, [], none⟩ ⟨2, .ofWholeSeconds 1, 2, 0⟩ fun _ _ ↦ [])
    (.start (⟨replies, []⟩, []) (.new none none .closed))

/-- A page behind a refused connection, and no connection for the page behind it. -/
def smallVisit : (List Outcome × Scan) ×
    Book (ScriptedServer × List (HttpRequest × HttpReply)) ScriptedSink :=
  smallCalls [.refused, .answered 200 smallPage, .refused, .refused] 3

theorem smallVisit_takes_turns :
    smallVisit.1.1 = [.hit ⟨"", "", .null, [.number (.int 7)]⟩,
      .failure (.transport .refused "gone"), .finished] ∧
    smallVisit.2.peer.2.map Prod.snd = [.refused, .answered 200 smallPage, .refused, .refused] ∧
    ∃ answers, Turns ⟨"http://[::1]", none⟩ (fun _ ↦ "gone") 2
      ⟨"logs", .present "a", "@timestamp", 2, [], none⟩ smallVisit.2.peer.2 answers := by
  have houtcomes : smallVisit.1.1 = [.hit ⟨"", "", .null, [.number (.int 7)]⟩,
      .failure (.transport .refused "gone"), .finished] := by decide +kernel
  have hreplies : smallVisit.2.peer.2.map Prod.snd
      = [.refused, .answered 200 smallPage, .refused, .refused] := by decide +kernel
  have hplain : ∀ entry ∈ smallVisit.2.peer.2, entry.2.IsPlain := by
    have hmap : ∀ reply ∈ smallVisit.2.peer.2.map Prod.snd, reply.IsPlain := by
      rw [hreplies]
      decide +kernel
    exact fun entry he ↦ hmap entry.2 (List.mem_map_of_mem he)
  have hrun : smallVisit = ((smallVisit.1.1, smallVisit.1.2), smallVisit.2) := rfl
  obtain ⟨⟨answers, hturns, -⟩, -⟩ :=
    calls_take_turns rfl (by decide) hrun (by simp [houtcomes]) hplain
  exact ⟨houtcomes, hreplies, answers, hturns⟩

/-- A page behind the status of an answer without a text is not read. -/
theorem smallCalls_blank :
    SearchResponse.decode smallPage = .ok ⟨0, false, [⟨"", "", .null, [.number (.int 7)]⟩]⟩ ∧
    (HttpReply.answered 204 smallPage).IsPlain ∧
    (smallCalls [.answered 204 smallPage] 2).2.peer.2.map Prod.snd = [.answered 204 smallPage] ∧
    (smallCalls [.answered 204 smallPage] 2).1.1
      = [.failure (.json ⟨.endInValue, 1, 0⟩), .finished] := by
  decide +kernel

end Scan

end LogSearch
