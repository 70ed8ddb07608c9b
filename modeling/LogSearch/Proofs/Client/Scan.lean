import LogSearch.Proofs.Client.Answers

/-!
# What a scan hands out

A scan is called for one hit after the other.  A run of calls hands out what is due after the answers
it got, in order, and the end behind it (`calls_booked`), and every request that it puts is the
caller's, behind the last hit of the page before.

One call is one of five things (`Called`), and each keeps the books in order (`Kept.call`).

## What is here

* `Called`, `called_of_next` — what one call does;
* `Kept` — a scan, its outcomes so far and its exchanges in agreement, with the step `Kept.call` and
  the run `kept_of_calls`;
* `calls_booked` — the trace of a scan.
-/

set_option autoImplicit false
namespace LogSearch.Scan

/-! ## One call -/

/-- What a call does to a scan and its exchanges. -/
inductive Called (scan : Scan) (exchanges : List (SearchRequest × Answer)) :
    Outcome → Scan → List (SearchRequest × Answer) → Prop
  /-- It hands out a hit that is at hand. -/
  | hit {hit : Hit} {rest : List Hit} (hbuffer : scan.buffer = hit :: rest) :
    Called scan exchanges (.hit hit) { scan with buffer := rest } exchanges
  /-- It says that there are no more. -/
  | finished (hbuffer : scan.buffer = []) (hdone : scan.done = true) :
    Called scan exchanges .finished scan exchanges
  /-- It gets a page. -/
  | page {errors : List ClientError} {page : SearchResponse} {backoff : Backoff}
    {outcome : Outcome} {scan' : Scan} (hbuffer : scan.buffer = []) (hdone : scan.done = false)
    (herrors : ∀ error ∈ errors, error.isTransient = true)
    (hcount : scan.backoff.count + errors.length < scan.backoff.maximum)
    (hmaximum : backoff.maximum = scan.backoff.maximum) (hreset : backoff.count = 0)
    (htake : (accept { scan with backoff } page).1.take = (outcome, scan')) :
    Called scan exchanges outcome scan' (exchanges ++ attempts scan.request errors (.ok page))
  /-- It fails. -/
  | failure {errors : List ClientError} {error : ClientError} {backoff : Backoff}
    (hbuffer : scan.buffer = []) (hdone : scan.done = false)
    (herrors : ∀ error ∈ errors, error.isTransient = true)
    (hcount : scan.backoff.count + errors.length < scan.backoff.maximum)
    (hmaximum : backoff.maximum = scan.backoff.maximum)
    (hfinal : error.isTransient = true →
      scan.backoff.maximum ≤ scan.backoff.count + errors.length + 1) :
    Called scan exchanges (.failure error) { scan with backoff, done := true }
      (exchanges ++ attempts scan.request errors (.error error))
  /-- It cannot wait as long as it should. -/
  | overflow {errors : List ClientError} {error : ClientError} {scan' : Scan}
    (hbuffer : scan.buffer = []) (hdone : scan.done = false) :
    Called scan exchanges .overflow scan'
      (exchanges ++ attempts scan.request errors (.error error))

section call

variable {σ ω : Type} {backend : Backend σ} {out : Sink ω}

/-- A call without a page to ask for changes nothing but the hits at hand. -/
theorem next_of_not_fetch {m : Type → Type} [Monad m] (world : World m) {scan : Scan}
    (h : (scan.buffer.isEmpty && !scan.done) = false) : scan.next world = pure scan.take := by
  rw [next, if_neg (by simp [h])]

theorem called_of_next {scan scan' : Scan} {outcome : Outcome} {book book' : Book σ ω}
    (hcount : scan.done = false → scan.backoff.count < scan.backoff.maximum)
    (h : scan.next (World.booked backend out) book = ((outcome, scan'), book')) :
    Called scan book.exchanges outcome scan' book'.exchanges := by
  cases hbuffer : scan.buffer with
  | cons hit rest =>
    rw [next_of_not_fetch _ (by simp [hbuffer]), take, hbuffer] at h
    cases h
    exact .hit hbuffer
  | nil =>
    cases hdone : scan.done with
    | true =>
      rw [next_of_not_fetch _ (by simp [hdone]), take, hbuffer] at h
      cases h
      exact .finished hbuffer hdone
    | false =>
      rw [next, if_pos (by simp [hbuffer, hdone])] at h
      cases hr : scan.backoff.retry ((World.booked backend out).search scan.request)
        ClientError.isTransient (pause (World.booked backend out) scan.announce) book with
      | mk found asked =>
        obtain ⟨ending, backoff⟩ := found
        obtain ⟨errors, answer, herrors, hlt, hasked, hended, hmaximum, hreset⟩ :=
          Backoff.retry_booked backend out scan.request scan.announce scan.backoff (hcount hdone)
            book asked backoff ending hr
        simp only [bind, StateT.bind, hr] at h
        cases ending with
        | success page =>
          cases hended
          have htake : (accept { scan with backoff } page).1.take = (outcome, scan') :=
            congrArg Prod.fst h
          have hbook : ((accept { scan with backoff } page).2.forM
              (World.booked backend out).log asked).2 = book' := congrArg Prod.snd h
          rw [← hbook, exchanges_log, hasked]
          exact .page hbuffer hdone herrors hlt hmaximum (hreset page rfl) htake
        | failure error =>
          obtain ⟨rfl, hfinal⟩ := hended
          cases h
          rw [hasked]
          exact .failure hbuffer hdone herrors hlt hmaximum hfinal
        | overflow =>
          obtain ⟨error, rfl⟩ := hended
          cases h
          rw [hasked]
          exact .overflow hbuffer hdone

/-- The scan behind a page. -/
theorem accept_eq (scan : Scan) (page : SearchResponse) :
    (scan.accept page).1 = { scan with
      pages := scan.pages + 1
      buffer := scan.buffer ++ page.hits
      done := scan.done || page.isLast
      request := if page.isLast then scan.request
        else { scan.request with after := page.hits.getLast?.map Hit.sort } } := by
  rw [accept, SearchResponse.isLast]
  cases page.hits.getLast? with
  | none => simp
  | some last =>
    dsimp only
    split
    · next hsort => simp [hsort]
    · next hsort => simp [hsort]

end call

/-! ## Runs of calls -/

/-- Whether nothing but the end comes behind an outcome. -/
def Outcome.IsStop : Outcome → Prop
  | .finished | .failure _ => True
  | .hit _ | .overflow => False

/-- A scan, its outcomes so far and its exchanges in agreement, all of one search. -/
structure Kept (request : SearchRequest) (maximum : Nat) (outcomes : List Outcome) (scan : Scan)
    (exchanges : List (SearchRequest × Answer)) : Prop where
  maximum_eq : scan.backoff.maximum = maximum
  count_eq : scan.done = false → scan.backoff.count = 0
  /-- What is due has been handed out or is at hand, and the end comes behind it. -/
  outcomes_eq : ∃ (given : List Outcome) (ends : Nat),
    outcomes = given ++ List.replicate ends .finished ∧
      given ++ scan.buffer.map .hit = (due maximum (exchanges.map Prod.snd)).outcomes
  ended_eq : (due maximum (exchanges.map Prod.snd)).ended = scan.done
  failures_eq : scan.done = false → (due maximum (exchanges.map Prod.snd)).failures = 0
  stopped : (∃ outcome ∈ outcomes, outcome.IsStop) → scan.done = true ∧ scan.buffer = []
  request_eq : scan.done = false →
    scan.request = { request with after := cursor request (exchanges.map Prod.snd) }
  pages_eq : scan.pages = (pagesOf (exchanges.map Prod.snd)).length
  proper : Proper request maximum exchanges

theorem kept_new (request : SearchRequest) {backoff : Backoff} (hcount : backoff.count = 0)
    (announce : Announcement) :
    Kept request backoff.maximum [] (new request backoff announce) [] where
  maximum_eq := rfl
  count_eq _ := hcount
  outcomes_eq := ⟨[], 0, rfl, rfl⟩
  ended_eq := rfl
  failures_eq _ := rfl
  stopped := by simp
  request_eq _ := rfl
  pages_eq := rfl
  proper := proper_nil

section kept

variable {request : SearchRequest} {maximum : Nat} {outcomes : List Outcome} {scan scan' : Scan}
  {exchanges exchanges' : List (SearchRequest × Answer)} {outcome : Outcome}

/-- Before the end, what has been handed out and what is at hand are all that is due. -/
theorem Kept.open_outcomes (hk : Kept request maximum outcomes scan exchanges)
    (h : scan.done = false ∨ scan.buffer ≠ []) :
    (∀ outcome ∈ outcomes, ¬ outcome.IsStop) ∧
      outcomes ++ scan.buffer.map .hit = (due maximum (exchanges.map Prod.snd)).outcomes := by
  have hstop : ∀ outcome ∈ outcomes, ¬ outcome.IsStop := by
    intro outcome hmem hs
    obtain ⟨hdone, hbuffer⟩ := hk.stopped ⟨outcome, hmem, hs⟩
    rcases h with h | h
    · rw [h] at hdone
      cases hdone
    · exact h hbuffer
  obtain ⟨given, ends, houtcomes, hdue⟩ := hk.outcomes_eq
  cases ends with
  | zero =>
    rw [List.replicate_zero, List.append_nil] at houtcomes
    exact ⟨hstop, houtcomes ▸ hdue⟩
  | succ ends =>
    refine absurd trivial (hstop .finished ?_)
    rw [houtcomes]
    simp

/-- Handing out the next hit at hand, or saying that there are no more. -/
theorem Kept.take (hk : Kept request maximum outcomes scan exchanges)
    (hdone : scan.buffer = [] → scan.done = true) (h : scan.take = (outcome, scan')) :
    Kept request maximum (outcomes ++ [outcome]) scan' exchanges := by
  cases hbuffer : scan.buffer with
  | nil =>
    rw [Scan.take, hbuffer] at h
    cases h
    obtain ⟨given, ends, houtcomes, hdue⟩ := hk.outcomes_eq
    refine { hk with outcomes_eq := ⟨given, ends + 1, ?_, hdue⟩, stopped := ?_ }
    · rw [houtcomes, List.append_assoc, List.replicate_succ']
    · exact fun _ ↦ ⟨hdone hbuffer, hbuffer⟩
  | cons hit rest =>
    rw [Scan.take, hbuffer] at h
    cases h
    obtain ⟨hstop, hdue⟩ := hk.open_outcomes (.inr (by simp [hbuffer]))
    refine { hk with outcomes_eq := ⟨outcomes ++ [.hit hit], 0, ?_, ?_⟩, stopped := ?_ }
    · simp
    · rw [← hdue, hbuffer, List.append_assoc]
      rfl
    · rintro ⟨outcome, hmem, hs⟩
      rcases List.mem_append.1 hmem with hmem | hmem
      · exact absurd hs (hstop outcome hmem)
      · rw [List.mem_singleton.1 hmem] at hs
        exact hs.elim

theorem Kept.failures_lt (hk : Kept request maximum outcomes scan exchanges)
    (hdone : scan.done = false) {failures : Nat}
    (h : scan.backoff.count + failures < scan.backoff.maximum) :
    (due maximum (exchanges.map Prod.snd)).failures + failures < maximum := by
  rw [hk.maximum_eq, hk.count_eq hdone] at h
  rwa [hk.failures_eq hdone]

/-- A page that was got, before anything of it is handed out. -/
theorem Kept.accept (hk : Kept request maximum outcomes scan exchanges) (hbuffer : scan.buffer = [])
    (hdone : scan.done = false) {errors : List ClientError} {page : SearchResponse}
    {backoff : Backoff} (herrors : ∀ error ∈ errors, error.isTransient = true)
    (hcount : scan.backoff.count + errors.length < scan.backoff.maximum)
    (hmaximum : backoff.maximum = scan.backoff.maximum) (hreset : backoff.count = 0) :
    Kept request maximum outcomes (Scan.accept { scan with backoff } page).1
      (exchanges ++ attempts scan.request errors (.ok page)) := by
  obtain ⟨hstop, hgiven⟩ := hk.open_outcomes (.inl hdone)
  have hlt := hk.failures_lt hdone hcount
  have hdue : due maximum ((exchanges ++ attempts scan.request errors (.ok page)).map Prod.snd)
      = ⟨(due maximum (exchanges.map Prod.snd)).outcomes ++ page.hits.map .hit, 0, page.isLast⟩ := by
    rw [List.map_append, due_append_attempts herrors hlt]
    rfl
  rw [accept_eq]
  refine ⟨hmaximum.trans hk.maximum_eq, fun _ ↦ hreset, ⟨outcomes, 0, ?_, ?_⟩, ?_, fun _ ↦ ?_, ?_,
    fun hopen ↦ ?_, ?_, ?_⟩
  · rw [List.replicate_zero, List.append_nil]
  · rw [hdue, ← hgiven, hbuffer, List.map_nil, List.append_nil]
    rfl
  · rw [hdue, hdone]
    rfl
  · rw [hdue]
  · exact fun ⟨outcome, hmem, hs⟩ ↦ absurd hs (hstop outcome hmem)
  · have hlast : page.isLast = false := (Bool.or_eq_false_iff.1 hopen).2
    rw [List.map_append, cursor_attempts, cursor_append_ok, hlast, hk.request_eq hdone]
    rfl
  · rw [List.map_append, pagesOf_attempts, pagesOf_append_ok, List.length_append, ← hk.pages_eq]
    rfl
  · exact hk.proper.append_attempts (hk.ended_eq.trans hdone) (hk.request_eq hdone) herrors hlt _

/-- A failure that is handed out. -/
theorem Kept.fail (hk : Kept request maximum outcomes scan exchanges) (hbuffer : scan.buffer = [])
    (hdone : scan.done = false) {errors : List ClientError} {error : ClientError}
    {backoff : Backoff} (herrors : ∀ error ∈ errors, error.isTransient = true)
    (hcount : scan.backoff.count + errors.length < scan.backoff.maximum)
    (hmaximum : backoff.maximum = scan.backoff.maximum)
    (hfinal : error.isTransient = true →
      scan.backoff.maximum ≤ scan.backoff.count + errors.length + 1) :
    Kept request maximum (outcomes ++ [.failure error]) { scan with backoff, done := true }
      (exchanges ++ attempts scan.request errors (.error error)) := by
  obtain ⟨-, hgiven⟩ := hk.open_outcomes (.inl hdone)
  have hlt := hk.failures_lt hdone hcount
  have hdue : due maximum ((exchanges ++ attempts scan.request errors (.error error)).map Prod.snd)
      = ⟨(due maximum (exchanges.map Prod.snd)).outcomes ++ [.failure error],
        (due maximum (exchanges.map Prod.snd)).failures + errors.length, true⟩ := by
    rw [List.map_append, due_append_attempts herrors hlt, Due.answer, if_neg]
    simp only [Bool.and_eq_true, decide_eq_true_eq, not_and, Nat.not_lt]
    intro ht
    have hmax := hfinal ht
    rw [hk.maximum_eq, hk.count_eq hdone] at hmax
    rwa [hk.failures_eq hdone]
  refine ⟨hmaximum.trans hk.maximum_eq, by simp, ⟨outcomes ++ [.failure error], 0, ?_, ?_⟩, ?_,
    by simp, fun _ ↦ ⟨rfl, hbuffer⟩, by simp, ?_, ?_⟩
  · rw [List.replicate_zero, List.append_nil]
  · rw [hdue, ← hgiven, hbuffer]
    simp
  · rw [hdue]
  · rw [List.map_append, pagesOf_attempts, pagesOf_append_error, hk.pages_eq]
  · exact hk.proper.append_attempts (hk.ended_eq.trans hdone) (hk.request_eq hdone) herrors hlt _

/-- **Every call keeps the books in order**, unless a delay is out of range. -/
theorem Kept.call (hk : Kept request maximum outcomes scan exchanges)
    (h : Called scan exchanges outcome scan' exchanges') (ho : outcome ≠ .overflow) :
    Kept request maximum (outcomes ++ [outcome]) scan' exchanges' := by
  cases h with
  | hit hbuffer => exact hk.take (by simp [hbuffer]) (by rw [Scan.take, hbuffer])
  | finished hbuffer hdone => exact hk.take (fun _ ↦ hdone) (by rw [Scan.take, hbuffer])
  | page hbuffer hdone herrors hcount hmaximum hreset htake =>
    refine (hk.accept hbuffer hdone herrors hcount hmaximum hreset).take ?_ htake
    intro hempty
    rw [accept_eq] at hempty ⊢
    have hhits := (List.append_eq_nil_iff.1 hempty).2
    simp [SearchResponse.isLast, hhits]
  | failure hbuffer hdone herrors hcount hmaximum hfinal =>
    exact hk.fail hbuffer hdone herrors hcount hmaximum hfinal
  | overflow => exact absurd rfl ho

/-- What was handed out is what is due, with the end behind it. -/
theorem Kept.eq_take (hk : Kept request maximum outcomes scan exchanges) :
    outcomes = ((due maximum (exchanges.map Prod.snd)).outcomes ++
      List.replicate outcomes.length Outcome.finished).take outcomes.length := by
  obtain ⟨given, ends, houtcomes, hdue⟩ := hk.outcomes_eq
  cases ends with
  | zero =>
    rw [List.replicate_zero, List.append_nil] at houtcomes
    rw [houtcomes, ← hdue, List.append_assoc, List.take_left]
  | succ ends =>
    have hbuffer := (hk.stopped ⟨.finished, by simp [houtcomes], trivial⟩).2
    rw [hbuffer, List.map_nil, List.append_nil] at hdue
    rw [← hdue, houtcomes, List.length_append, List.length_replicate, List.take_length_add_append,
      List.take_replicate]
    simp

/-- All that is due has been handed out before the end is said, and then no answer is to follow. -/
theorem Kept.ended (hk : Kept request maximum outcomes scan exchanges)
    (h : (due maximum (exchanges.map Prod.snd)).outcomes.length < outcomes.length) :
    (due maximum (exchanges.map Prod.snd)).ended = true := by
  obtain ⟨given, ends, houtcomes, hdue⟩ := hk.outcomes_eq
  cases ends with
  | zero =>
    rw [List.replicate_zero, List.append_nil] at houtcomes
    rw [← hdue, houtcomes, List.length_append] at h
    omega
  | succ ends => exact hk.ended_eq.trans (hk.stopped ⟨.finished, by simp [houtcomes], trivial⟩).1

end kept

/-- So many calls, one after the other. -/
def calls {m : Type → Type} [Monad m] (world : World m) : Nat → Scan → m (List Outcome × Scan)
  | 0, scan => return ([], scan)
  | k + 1, scan => do
    let (outcomes, scan) ← calls world k scan
    let (outcome, scan) ← scan.next world
    return (outcomes ++ [outcome], scan)

section calls

variable {σ ω : Type} {backend : Backend σ} {out : Sink ω} {request : SearchRequest}
  {backoff : Backoff} {announce : Announcement} {peer : σ} {sink : ω}

/-- **Every run of calls keeps the books in order.** -/
theorem kept_of_calls (hcount : backoff.count = 0) (hmaximum : 1 ≤ backoff.maximum) {k : Nat}
    {outcomes : List Outcome} {scan : Scan} {book : Book σ ω}
    (h : calls (World.booked backend out) k (new request backoff announce) (.start peer sink)
      = ((outcomes, scan), book)) (ho : .overflow ∉ outcomes) :
    outcomes.length = k ∧ Kept request backoff.maximum outcomes scan book.exchanges := by
  induction k generalizing outcomes scan book with
  | zero =>
    cases h
    exact ⟨rfl, kept_new request hcount announce⟩
  | succ k ih =>
    cases hr : calls (World.booked backend out) k (new request backoff announce)
      (.start peer sink) with
    | mk found before =>
      obtain ⟨given, last⟩ := found
      cases hn : last.next (World.booked backend out) before with
      | mk found behind =>
        obtain ⟨outcome, scan'⟩ := found
        simp only [calls, bind, StateT.bind, hr, hn] at h
        cases h
        rw [List.mem_append, List.mem_singleton, not_or] at ho
        obtain ⟨hlen, hk⟩ := ih hr ho.1
        have hlt : last.done = false → last.backoff.count < last.backoff.maximum := by
          intro hdone
          rw [hk.count_eq hdone, hk.maximum_eq]
          exact hmaximum
        refine ⟨by rw [List.length_append, hlen]; rfl, hk.call (called_of_next hlt hn) ?_⟩
        exact fun h ↦ ho.2 h.symm

/-- No call gets more than one page. -/
theorem Called.pages_le {scan scan' : Scan} {outcome : Outcome}
    {exchanges exchanges' : List (SearchRequest × Answer)}
    (h : Called scan exchanges outcome scan' exchanges') :
    (pagesOf (exchanges'.map Prod.snd)).length ≤ (pagesOf (exchanges.map Prod.snd)).length + 1 := by
  cases h with
  | hit | finished => exact Nat.le_succ _
  | page =>
    rw [List.map_append, pagesOf_attempts, pagesOf_append_ok, List.length_append]
    exact Nat.le_refl _
  | failure | overflow =>
    rw [List.map_append, pagesOf_attempts, pagesOf_append_error]
    exact Nat.le_succ _

/-- **The trace of a scan.**  A run of calls hands out, in order, what is due after the answers it
got: the hits of the pages, and the failure that ended them, if one did.  The end is said only once
all of it is handed out and no answer is to follow.  No answer follows the end; every request is the
caller's, behind the last hit of the page before; pages are counted, and no call gets two of them.
After the end or a failure, calls do nothing but say so. -/
theorem calls_booked (hcount : backoff.count = 0) (hmaximum : 1 ≤ backoff.maximum) {k : Nat}
    {outcomes : List Outcome} {scan : Scan} {book : Book σ ω}
    (h : calls (World.booked backend out) k (new request backoff announce) (.start peer sink)
      = ((outcomes, scan), book)) (ho : .overflow ∉ outcomes) :
    (outcomes = ((due backoff.maximum book.answers).outcomes ++
        List.replicate k Outcome.finished).take k ∧
      ((due backoff.maximum book.answers).outcomes.length < k →
        (due backoff.maximum book.answers).ended = true)) ∧
    (∃ last : List Outcome,
      (due backoff.maximum book.answers).outcomes
        = ((pagesOf book.answers).flatMap SearchResponse.hits).map Outcome.hit ++ last ∧
      (last = [] ∨ (due backoff.maximum book.answers).ended = true ∧
        ∃ error, book.answers.getLast? = some (.error error) ∧ last = [.failure error])) ∧
    (∀ before asked answer behind, book.exchanges = before ++ (asked, answer) :: behind →
      (due backoff.maximum (before.map Prod.snd)).ended = false ∧
        asked = { request with after := cursor request (before.map Prod.snd) }) ∧
    scan.pages = (pagesOf book.answers).length ∧
    ∀ (outcome : Outcome) (scan' : Scan) (book' : Book σ ω),
      scan.next (World.booked backend out) book = ((outcome, scan'), book') →
      (pagesOf book'.answers).length ≤ (pagesOf book.answers).length + 1 ∧
        ((∃ o ∈ outcomes, o.IsStop) → outcome = .finished ∧ scan' = scan ∧ book' = book) := by
  obtain ⟨rfl, hk⟩ := kept_of_calls hcount hmaximum h ho
  refine ⟨⟨hk.eq_take, hk.ended⟩, due_outcomes ?_, hk.proper, hk.pages_eq, ?_⟩
  · intro before answer behind h
    obtain ⟨before, rest, hsplit, rfl, hrest⟩ := List.map_eq_append_iff.1 h
    obtain ⟨⟨asked, answer⟩, behind, rfl, -, -⟩ := List.map_eq_cons_iff.1 hrest
    exact (hk.proper _ _ _ _ hsplit).1
  · intro outcome scan' book' hn
    have hlt : scan.done = false → scan.backoff.count < scan.backoff.maximum := by
      intro hdone
      rw [hk.count_eq hdone, hk.maximum_eq]
      exact hmaximum
    refine ⟨(called_of_next hlt hn).pages_le, fun hstop ↦ ?_⟩
    obtain ⟨hdone, hbuffer⟩ := hk.stopped hstop
    rw [next_of_not_fetch _ (by simp [hdone]), take, hbuffer] at hn
    cases hn
    exact ⟨rfl, rfl, rfl⟩

/-- A hit of a small index, with a document of two lines. -/
def smallHit (id : String) (place : Int) : Hit :=
  ⟨"logs", id, .object [("message", .string ("line\n" ++ id))], [.number (.int place)]⟩

/-- A request with two hits to a page. -/
def smallRequest : SearchRequest := ⟨"logs", .present "a", "@timestamp", 2, [], none⟩

/-- Delays for two attempts. -/
def smallBackoff : Backoff := ⟨2, .ofWholeSeconds 1, 2, 0⟩

/-- A connection that is refused. -/
def smallRefused : Answer := .error (.transport .refused "gone")

/-- Five calls to a server that has two pages, each of them behind a refused connection, and is then
gone. -/
def smallRun : (List Outcome × Scan) × Book (List Answer) ScriptedSink :=
  calls (World.booked Backend.scripted ScriptedSink.sink) 5
    (new smallRequest smallBackoff fun _ _ ↦ [])
    (.start [smallRefused, .ok ⟨1, false, [smallHit "1" 7, smallHit "2" 8]⟩, smallRefused,
      .ok ⟨1, false, [smallHit "3" 9]⟩, smallRefused, smallRefused] (.new none none .closed))

theorem smallRun_booked :
    smallRun.1.1 = [.hit (smallHit "1" 7), .hit (smallHit "2" 8), .hit (smallHit "3" 9),
      .failure (.transport .refused "gone"), .finished] ∧
    smallRun.2.requests.map SearchRequest.after = [none, none, some [.number (.int 8)],
      some [.number (.int 8)], some [.number (.int 9)], some [.number (.int 9)]] ∧
    smallRun.1.1 = ((due 2 smallRun.2.answers).outcomes ++
      List.replicate 5 Outcome.finished).take 5 ∧
    smallRun.1.2.pages = (pagesOf smallRun.2.answers).length := by
  have houtcomes : smallRun.1.1 = [.hit (smallHit "1" 7), .hit (smallHit "2" 8),
      .hit (smallHit "3" 9), .failure (.transport .refused "gone"), .finished] := by decide +kernel
  have hrun : smallRun = ((smallRun.1.1, smallRun.1.2), smallRun.2) := rfl
  obtain ⟨⟨hdue, -⟩, -, -, hpages, -⟩ :=
    calls_booked (by rfl) (by decide : 1 ≤ 2) hrun (by simp [houtcomes])
  exact ⟨houtcomes, by decide +kernel, hdue, hpages⟩

end calls

end LogSearch.Scan
