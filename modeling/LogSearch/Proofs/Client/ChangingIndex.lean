import LogSearch.Proofs.Client.Answering
import LogSearch.Proofs.Client.Index
import Mathlib.Algebra.Order.Floor.Div
import Mathlib.Data.List.Induction

/-!
# Scans of an index that changes

While a scan goes on, documents are added to the index and removed from it.  The scan hands out
documents in the order of their sort values, none of them twice, and it misses none that stayed in
the index (`calls_changing`).

All of this follows from what is known behind each answer (`Progress`): the cursor is behind all that
was found, and a document that stayed was found or is behind the cursor.  What was found so far is
never looked at again, so it does not matter what becomes of the index in front of the cursor.

## What is here

* `Followed` — the answers that a scan gets from an index that changes, one after the other;
* `Progress`, `progress_of_followed` — what is known behind them;
* `Steady`, `steady_of_followed` — what else is known of an index that stays as it is;
* `followed_of_proper` — the answers in a book are such answers;
* `handOut`, `calls_changing` — what a scan hands out.
-/

set_option autoImplicit false
namespace LogSearch.Scan

/-- The hit that an outcome hands out. -/
def Outcome.hit? : Outcome → Option Hit
  | .hit given => some given
  | _ => none

/-- The hits of the pages among some answers. -/
def found (answers : List Answer) : List Hit := (pagesOf answers).flatMap SearchResponse.hits

theorem found_append_ok (answers : List Answer) (page : SearchResponse) :
    found (answers ++ [.ok page]) = found answers ++ page.hits := by
  rw [found, found, pagesOf_append_ok, List.flatMap_append]
  simp

theorem found_append_error (answers : List Answer) (error : ClientError) :
    found (answers ++ [.error error]) = found answers := by
  rw [found, pagesOf_append_error, found]

section changing

variable {order : KeyOrder} {moments : Nat → Moment order} {request : SearchRequest} {maximum : Nat}
  {answers : List Answer}

/-! ## Answers -/

/-- Answers to the requests of a scan, each as the index was then.  No request follows the end. -/
inductive Followed (moments : Nat → Moment order) (request : SearchRequest) (maximum : Nat) :
    List Answer → Prop
  | start : Followed moments request maximum []
  | failure {answers : List Answer} {error : ClientError}
    (before : Followed moments request maximum answers)
    (hopen : (due maximum answers).ended = false)
    (hfailure : (moments answers.length).failure = some error) :
    Followed moments request maximum (answers ++ [.error error])
  | page {answers : List Answer} (before : Followed moments request maximum answers)
    (hopen : (due maximum answers).ended = false)
    (hanswered : (moments answers.length).failure = none) :
    Followed moments request maximum
      (answers ++ [.ok ((moments answers.length).page (follow request answers))])

theorem Followed.answer (h : Followed moments request maximum answers)
    (hopen : (due maximum answers).ended = false) :
    Followed moments request maximum
      (answers ++ [(moments answers.length).answer (follow request answers)]) := by
  rw [Moment.answer]
  split
  · next error hfailure => exact h.failure hopen hfailure
  · next hanswered => exact h.page hopen hanswered

/-- Only an empty page is the last one, as every document can be gone on from. -/
theorem isLast_page (moment : Moment order) (request : SearchRequest) :
    (moment.page request).isLast = true ↔ moment.index.page request = [] := by
  rw [SearchResponse.isLast, Moment.page]
  cases hlast : (moment.index.page request).getLast? with
  | none => simpa using List.getLast?_eq_none_iff.1 hlast
  | some last =>
    have hmem := List.mem_of_getLast? hlast
    simp [moment.index.keyed last (moment.index.page_sublist.subset hmem), List.ne_nil_of_mem hmem]

/-! ## What is known behind the answers -/

/-- The failures in a row never are as many as attempts are allowed. -/
def Reachable (moments : Nat → Moment order) (maximum : Nat) : Prop :=
  ∀ i, ∃ j < maximum, (moments (i + j)).failure = none

/-- What is known behind some answers. -/
structure Progress (moments : Nat → Moment order) (request : SearchRequest) (maximum : Nat)
    (answers : List Answer) : Prop where
  outcomes_eq : (due maximum answers).outcomes = (found answers).map .hit
  increasing : order.Increasing (found answers)
  cursor_eq : (due maximum answers).ended = false →
    cursor request answers = (found answers).getLast?.map Hit.sort
  /-- The last answers were failures, as many as are counted. -/
  failing : (due maximum answers).ended = false →
    ∃ n, n + (due maximum answers).failures = answers.length ∧
      ∀ j < (due maximum answers).failures, (moments (n + j)).failure ≠ none
  /-- Documents that stayed were found, or are still to be found. -/
  complete : ∀ hit,
    (∀ i < answers.length, (moments i).failure = none → hit ∈ (moments i).index.hits) →
    hit ∈ found answers ∨ (due maximum answers).ended = false ∧
      ∀ before ∈ found answers, order.precedes before.sort hit.sort

/-- A failure is not the end. -/
theorem Progress.due_failure (hp : Progress moments request maximum answers)
    (hreachable : Reachable moments maximum) (hopen : (due maximum answers).ended = false)
    {error : ClientError} (hfailure : (moments answers.length).failure = some error) :
    due maximum (answers ++ [.error error])
      = { due maximum answers with failures := (due maximum answers).failures + 1 } := by
  obtain ⟨n, hn, hfailing⟩ := hp.failing hopen
  obtain ⟨j, hj, hanswered⟩ := hreachable n
  refine due_append_transient ((moments answers.length).passing error hfailure) ?_
  -- the answer that comes within as many attempts as are allowed is yet to come
  rcases Nat.lt_trichotomy j (due maximum answers).failures with h | h | h
  · exact absurd hanswered (hfailing j h)
  · rw [h, hn, hfailure] at hanswered
    cases hanswered
  · omega

theorem Progress.failure (hp : Progress moments request maximum answers)
    (hreachable : Reachable moments maximum) (hopen : (due maximum answers).ended = false)
    {error : ClientError} (hfailure : (moments answers.length).failure = some error) :
    Progress moments request maximum (answers ++ [.error error]) := by
  have hdue := hp.due_failure hreachable hopen hfailure
  constructor
  · rw [hdue, found_append_error]
    exact hp.outcomes_eq
  · rw [found_append_error]
    exact hp.increasing
  · rw [cursor_append_error, found_append_error]
    exact fun _ ↦ hp.cursor_eq hopen
  · intro _
    obtain ⟨n, hn, hfailing⟩ := hp.failing hopen
    rw [hdue, List.length_append, List.length_singleton]
    refine ⟨n, by simp only; omega, fun j hj ↦ ?_⟩
    rcases Nat.lt_succ_iff_lt_or_eq.1 hj with hj | rfl
    · exact hfailing j hj
    · rw [hn, hfailure]
      simp
  · intro hit hstayed
    rw [hdue, found_append_error]
    exact hp.complete hit fun i hi ↦ hstayed i (by simp; omega)

/-- What is behind the cursor is behind all that was found. -/
theorem Progress.isBehind_iff (hp : Progress moments request maximum answers)
    (hopen : (due maximum answers).ended = false) (hit : Hit) :
    order.isBehind (follow request answers).after hit = true ↔
      ∀ before ∈ found answers, order.precedes before.sort hit.sort := by
  rw [follow, hp.cursor_eq hopen]
  exact KeyOrder.isBehind_getLast?_iff hp.increasing hit

theorem Progress.page (hp : Progress moments request maximum answers) (hsize : 1 ≤ request.size)
    (hopen : (due maximum answers).ended = false)
    (hanswered : (moments answers.length).failure = none) :
    Progress moments request maximum
      (answers ++ [.ok ((moments answers.length).page (follow request answers))]) := by
  generalize hpage : (moments answers.length).page (follow request answers) = page
  have hhits : page.hits = (moments answers.length).index.page (follow request answers) := by
    rw [← hpage]
    rfl
  have hlast : page.isLast = false ↔ page.hits ≠ [] := by
    rw [← Bool.not_eq_true, hhits, ← hpage, isLast_page]
  have hbehind := hp.isBehind_iff hopen
  have hdue : due maximum (answers ++ [.ok page]) = _ := due_append_ok page
  constructor
  · rw [hdue, found_append_ok, List.map_append, hp.outcomes_eq]
  · rw [found_append_ok, hhits]
    refine List.pairwise_append.2 ⟨hp.increasing, Index.increasing_page _, ?_⟩
    exact fun before hbefore hit hmem ↦
      (hbehind hit).1 (Index.isBehind_of_mem_page _ hmem) before hbefore
  · rw [hdue, cursor_append_ok, found_append_ok]
    intro hopen'
    rw [List.getLast?_append_of_ne_nil _ (hlast.1 hopen')]
  · rw [hdue]
    exact fun _ ↦ ⟨_, rfl, by simp⟩
  · intro hit hstayed
    rw [hdue, found_append_ok, List.mem_append]
    rcases hp.complete hit fun i hi ↦ hstayed i (by simp; omega) with hfound | ⟨-, habove⟩
    · exact .inl (.inl hfound)
    · have hmem := hstayed answers.length (by simp) hanswered
      rcases Index.mem_page_or _ hmem ((hbehind hit).2 habove) with hon | hbefore
      · exact .inl (.inr (hhits ▸ hon))
      · -- the page is not empty, as this document was there to be put on it
        refine .inr ⟨hlast.2 fun hempty ↦ ?_, fun before hbefore' ↦ ?_⟩
        · have hnone := Index.isBehind_of_page_eq_nil _ (hhits.symm.trans hempty) hsize hit hmem
          rw [(hbehind hit).2 habove] at hnone
          cases hnone
        · rcases List.mem_append.1 hbefore' with h | h
          · exact habove before h
          · exact hbefore before (hhits ▸ h)

/-- **What is known behind every answer**, when no failures are too many. -/
theorem progress_of_followed (hafter : request.after = none) (hsize : 1 ≤ request.size)
    (hreachable : Reachable moments maximum) (h : Followed moments request maximum answers) :
    Progress moments request maximum answers := by
  induction h with
  | start =>
    refine ⟨rfl, .nil, fun _ ↦ hafter, fun _ ↦ ⟨0, rfl, by simp [due]⟩, fun hit _ ↦ .inr ⟨rfl, ?_⟩⟩
    simp [found, pagesOf]
  | failure before hopen hfailure ih => exact ih.failure hreachable hopen hfailure
  | page before hopen hanswered ih => exact ih.page hsize hopen hanswered

/-! ## An index that stays as it is -/

/-- What is known behind some answers when the index stays as it is. -/
structure Steady (index : Index order) (request : SearchRequest) (maximum : Nat)
    (answers : List Answer) : Prop where
  open_eq : (due maximum answers).ended = false →
    found answers = index.hits.take ((pagesOf answers).length * request.size) ∧
      (pagesOf answers).length ≤ index.hits.length ⌈/⌉ request.size
  ended_eq : (due maximum answers).ended = true →
    found answers = index.hits ∧
      (pagesOf answers).length = index.hits.length ⌈/⌉ request.size + 1

theorem Steady.page {index : Index order} (hs : Steady index request maximum answers)
    (hp : Progress moments request maximum answers) (hsize : 1 ≤ request.size)
    (hopen : (due maximum answers).ended = false) (hindex : (moments answers.length).index = index) :
    Steady index request maximum
      (answers ++ [.ok ((moments answers.length).page (follow request answers))]) := by
  obtain ⟨hfound, hpages⟩ := hs.open_eq hopen
  generalize hpage : (moments answers.length).page (follow request answers) = page
  have hlast : page.isLast = true ↔ page.hits = [] := by
    rw [← hpage, isLast_page]
    rfl
  have hhits : page.hits
      = (index.hits.drop ((pagesOf answers).length * request.size)).take request.size := by
    rw [← hpage, ← hindex]
    refine Index.page_eq_take _ (List.take_append_drop _ _).symm ?_
    rw [follow, hp.cursor_eq hopen, hfound, hindex]
  have hempty : page.hits = [] ↔ index.hits.length ⌈/⌉ request.size ≤ (pagesOf answers).length := by
    rw [ceilDiv_le_iff_le_mul hsize, hhits, List.take_eq_nil_iff, List.drop_eq_nil_iff, Nat.mul_comm]
    exact or_iff_right (by omega)
  constructor
  · rw [due_append_ok, found_append_ok, pagesOf_append_ok, List.length_append, List.length_singleton]
    intro hopen'
    have hmore := mt (hlast.2 ∘ hempty.2) (ne_true_of_eq_false hopen')
    refine ⟨?_, by omega⟩
    rw [hfound, hhits, ← List.take_add, Nat.add_mul, Nat.one_mul]
  · rw [due_append_ok, found_append_ok, pagesOf_append_ok, List.length_append, List.length_singleton]
    intro hended
    have hnone := hlast.1 hended
    have hle := hempty.1 hnone
    refine ⟨?_, by omega⟩
    rw [hnone, List.append_nil, hfound, List.take_of_length_le]
    rwa [ceilDiv_le_iff_le_mul hsize, Nat.mul_comm] at hle

/-- **An index that stays as it is** is found page by page, and an empty page comes behind. -/
theorem steady_of_followed {index : Index order} (hindex : ∀ i, (moments i).index = index)
    (hafter : request.after = none) (hsize : 1 ≤ request.size)
    (hreachable : Reachable moments maximum) (h : Followed moments request maximum answers) :
    Steady index request maximum answers := by
  induction h with
  | start => exact ⟨fun _ ↦ by simp [found, pagesOf], fun h ↦ by cases h⟩
  | failure before hopen hfailure ih =>
    have hdue := (progress_of_followed hafter hsize hreachable before).due_failure hreachable hopen
      hfailure
    constructor
    · rw [found_append_error, pagesOf_append_error]
      exact fun _ ↦ ih.open_eq hopen
    · rw [hdue]
      intro hended
      rw [show (due maximum _).ended = true from hended] at hopen
      cases hopen
  | page before hopen hanswered ih =>
    exact ih.page (progress_of_followed hafter hsize hreachable before) hsize hopen (hindex _)

/-! ## Runs of calls -/

theorem followed_of_proper {exchanges : List (SearchRequest × Answer)} {time : Nat}
    (hp : Proper request maximum exchanges)
    (h : (Backend.changing moments).serve 0 (exchanges.map Prod.fst)
      = (exchanges.map Prod.snd, time)) :
    time = exchanges.length ∧ Followed moments request maximum (exchanges.map Prod.snd) := by
  induction exchanges using List.reverseRecOn generalizing time with
  | nil =>
    cases h
    exact ⟨rfl, .start⟩
  | append_singleton exchanges exchange ih =>
    obtain ⟨asked, answer⟩ := exchange
    obtain ⟨hopen, hasked⟩ := hp exchanges asked answer [] rfl
    cases hserved : (Backend.changing moments).serve 0 (exchanges.map Prod.fst) with
    | mk answers before =>
      rw [List.map_append, List.map_append] at h
      obtain ⟨hanswers, htime⟩ := Prod.mk.inj ((Backend.serve_concat hserved asked).symm.trans h)
      obtain ⟨rfl, hanswer⟩ := List.append_inj' hanswers rfl
      obtain ⟨rfl, hfollowed⟩ := ih hp.of_append hserved
      refine ⟨by rw [← htime, List.length_append]; rfl, ?_⟩
      have hlast := hfollowed.answer hopen
      rw [List.length_map] at hlast
      rw [List.map_append, ← hanswer, hasked]
      exact hlast

/-- What so many calls hand out of some hits: the first of them, and the end behind the last one. -/
def handOut (hits : List Hit) (k : Nat) : List Outcome :=
  (hits.take k).map .hit ++ List.replicate (k - hits.length) .finished

theorem handOut_eq_take (hits : List Hit) (k : Nat) :
    handOut hits k = (hits.map Outcome.hit ++ List.replicate k Outcome.finished).take k := by
  rw [handOut, List.take_append, ← List.map_take, List.length_map, List.take_replicate,
    Nat.min_eq_left (Nat.sub_le k _)]

theorem filterMap_handOut (hits : List Hit) (k : Nat) :
    (handOut hits k).filterMap Outcome.hit? = hits.take k := by
  rw [handOut, List.filterMap_append, List.filterMap_map,
    show Outcome.hit? ∘ Outcome.hit = some from rfl, List.filterMap_some]
  simp [Outcome.hit?]

theorem finished_mem_handOut {hits : List Hit} {k : Nat} :
    .finished ∈ handOut hits k ↔ hits.length < k := by
  simp [handOut, -List.map_take, Nat.sub_eq_zero_iff_le]

theorem failure_not_mem_handOut (hits : List Hit) (k : Nat) (error : ClientError) :
    .failure error ∉ handOut hits k := by
  simp [handOut, -List.map_take]

/-- Calls that are no more than the hits do not see what is behind them. -/
theorem handOut_append {hits : List Hit} {k : Nat} (hk : k ≤ hits.length) (rest : List Hit) :
    handOut (hits ++ rest) k = handOut hits k := by
  rw [handOut, handOut, List.take_append_of_le_length hk, List.length_append,
    Nat.sub_eq_zero_of_le hk, Nat.sub_eq_zero_of_le (hk.trans (Nat.le_add_right _ _))]

/-- **Scans of an index that changes.**  Documents may come and go between requests, and any page may
fail first, less often than attempts are allowed.  The hits come in the order of their sort values,
so none comes twice, and no failure is handed out; once the end is said, every document that was there
at each answer was handed out.  If the index stays as it is, the scan hands out just its documents in
their order and then the end, with one page more than the documents fill. -/
theorem calls_changing {ω : Type} {out : Sink ω} {sink : ω} {backoff : Backoff}
    {announce : Announcement} (hcount : backoff.count = 0) (hafter : request.after = none)
    (hsize : 1 ≤ request.size) (hreachable : Reachable moments backoff.maximum) {k : Nat}
    {outcomes : List Outcome} {scan : Scan} {book : Book Nat ω}
    (h : calls (World.booked (Backend.changing moments) out) k (new request backoff announce)
      (.start 0 sink) = ((outcomes, scan), book)) (ho : .overflow ∉ outcomes) :
    (order.Increasing (outcomes.filterMap Outcome.hit?) ∧ ∀ error, .failure error ∉ outcomes) ∧
    (.finished ∈ outcomes → ∀ hit,
      (∀ i < book.requests.length, (moments i).failure = none → hit ∈ (moments i).index.hits) →
      hit ∈ outcomes.filterMap Outcome.hit?) ∧
    ∀ index, (∀ i, (moments i).index = index) →
      outcomes = handOut index.hits k ∧
      (index.hits.length < k → scan.pages = (pagesOf book.answers).length ∧
        (pagesOf book.answers).length = index.hits.length ⌈/⌉ request.size + 1) := by
  obtain ⟨j, hj, -⟩ := hreachable 0
  obtain ⟨rfl, hk⟩ := kept_of_calls hcount (by omega) h ho
  have hfollowed : Followed moments request backoff.maximum book.answers :=
    (followed_of_proper hk.proper (answers_of_calls h)).2
  have hp := progress_of_followed hafter hsize hreachable hfollowed
  have houtcomes : outcomes = handOut (found book.answers) outcomes.length := by
    rw [handOut_eq_take, ← hp.outcomes_eq]
    exact hk.eq_take
  have hended : (found book.answers).length < outcomes.length →
      (due backoff.maximum book.answers).ended = true := by
    intro hlt
    refine hk.ended ?_
    rwa [← Book.answers, hp.outcomes_eq, List.length_map]
  have hyielded : outcomes.filterMap Outcome.hit? = (found book.answers).take outcomes.length := by
    rw [← filterMap_handOut, ← houtcomes]
  refine ⟨⟨?_, fun error ↦ ?_⟩, fun hfinished hit hstayed ↦ ?_, fun index hindex ↦ ?_⟩
  · rw [hyielded]
    exact hp.increasing.sublist (List.take_sublist _ _)
  · rw [houtcomes]
    exact failure_not_mem_handOut _ _ error
  · rw [houtcomes] at hfinished
    have hlt := finished_mem_handOut.1 hfinished
    rw [hyielded, List.take_of_length_le hlt.le]
    have hrequests : book.requests.length = book.answers.length := by
      rw [Book.requests_eq, Book.answers, List.length_map, List.length_map]
    refine (hp.complete hit (hrequests ▸ hstayed)).resolve_right fun hmissing ↦ ?_
    rw [hended hlt] at hmissing
    cases hmissing.1
  · have hs := steady_of_followed hindex hafter hsize hreachable hfollowed
    cases hdone : (due backoff.maximum book.answers).ended with
    | true =>
      obtain ⟨hfound, hpages⟩ := hs.ended_eq hdone
      exact ⟨hfound ▸ houtcomes, fun _ ↦ ⟨hk.pages_eq, hpages⟩⟩
    | false =>
      -- the end has not come, so all calls so far were for documents that were found
      obtain ⟨hfound, -⟩ := hs.open_eq hdone
      have hle : outcomes.length ≤ (found book.answers).length := by
        by_contra hlt
        rw [hended (by omega)] at hdone
        cases hdone
      have hindexed : index.hits
          = found book.answers ++ index.hits.drop ((pagesOf book.answers).length * request.size) := by
        rw [hfound, List.take_append_drop]
      have hlength := congrArg List.length hindexed
      rw [List.length_append] at hlength
      refine ⟨?_, fun hlt ↦ by omega⟩
      rwa [hindexed, handOut_append hle]

/-! ## A small index -/

/-- The order of single numbers. -/
def byPlace : KeyOrder where
  precedes a b := place a < place b
  decidable _ _ := inferInstanceAs (Decidable (_ < _))
  irrefl _ := Int.lt_irrefl _
  trans := Int.lt_trans
where
  place : List Json → Int
    | [.number (.int n)] => n
    | _ => 0

/-- An index, and what it is once it has lost a document and got two others, one of them in front of
the cursor. -/
def smallIndex : Bool → Index byPlace
  | false => ⟨[smallHit "1" 7, smallHit "2" 8, smallHit "3" 9], by decide, by decide⟩
  | true =>
    ⟨[smallHit "0" 5, smallHit "2" 8, smallHit "3" 9, smallHit "4" 12], by decide, by decide⟩

/-- What requests to an index find, if every other answer takes too long, the first one too. -/
def smallMoment (index : Index byPlace) (time : Nat) : Moment byPlace where
  index := index
  took := 1
  timedOut := false
  failure := if time % 2 = 0 then some (.transport .timedOut "late") else none
  passing := by split <;> simp [ClientError.isTransient]

theorem smallMoment_reachable (index : Nat → Index byPlace) :
    Reachable (fun time ↦ smallMoment (index time) time) 2 := fun i ↦
  ⟨(i + 1) % 2, Nat.mod_lt _ (by decide), if_neg (by omega)⟩

/-- An index that changes behind its first page. -/
def smallMoments (time : Nat) : Moment byPlace := smallMoment (smallIndex (2 ≤ time)) time

/-- So many calls to a backend with an index. -/
def smallScan (moments : Nat → Moment byPlace) (k : Nat) :
    (List Outcome × Scan) × Book Nat ScriptedSink :=
  calls (World.booked (Backend.changing moments) ScriptedSink.sink) k
    (new smallRequest smallBackoff fun _ _ ↦ [])
    (.start 0 (.new none none .closed))

theorem smallScan_changing :
    (smallScan smallMoments 5).1.1 = [.hit (smallHit "1" 7), .hit (smallHit "2" 8),
      .hit (smallHit "3" 9), .hit (smallHit "4" 12), .finished] ∧
    (smallScan smallMoments 5).2.requests.length = 6 ∧
    byPlace.Increasing ((smallScan smallMoments 5).1.1.filterMap Outcome.hit?) ∧
    smallHit "3" 9 ∈ (smallScan smallMoments 5).1.1.filterMap Outcome.hit? ∧
    (smallScan (smallMoment (smallIndex true)) 5).1.1 = handOut (smallIndex true).hits 5 ∧
    (smallScan (smallMoment (smallIndex true)) 5).1.2.pages = 3 := by
  have houtcomes : (smallScan smallMoments 5).1.1 = [.hit (smallHit "1" 7), .hit (smallHit "2" 8),
      .hit (smallHit "3" 9), .hit (smallHit "4" 12), .finished] := by decide +kernel
  have hsteady : (smallScan (smallMoment (smallIndex true)) 5).1.1
      = handOut (smallIndex true).hits 5 := by decide +kernel
  have hkept : ∀ changed, smallHit "3" 9 ∈ (smallIndex changed).hits := by decide
  have hrun : ∀ moments, smallScan moments 5 = (((smallScan moments 5).1.1,
      (smallScan moments 5).1.2), (smallScan moments 5).2) := fun _ ↦ rfl
  obtain ⟨⟨hincreasing, -⟩, hcomplete, -⟩ := calls_changing (by rfl) (by rfl) (by decide)
    (smallMoment_reachable fun time ↦ smallIndex (2 ≤ time)) (hrun smallMoments)
    (by simp [houtcomes])
  obtain ⟨-, -, hall⟩ := calls_changing (by rfl) (by rfl) (by decide)
    (smallMoment_reachable fun _ ↦ smallIndex true) (hrun (smallMoment (smallIndex true)))
    (by rw [hsteady]; simp [handOut, smallIndex])
  obtain ⟨heq, hpages⟩ := hall (smallIndex true) fun _ ↦ rfl
  obtain ⟨hcounted, hceil⟩ := hpages (by decide)
  refine ⟨houtcomes, by decide +kernel, hincreasing,
    hcomplete (by simp [houtcomes]) _ fun i _ _ ↦ hkept _, heq, ?_⟩
  rw [hcounted, hceil]
  rfl

end changing

end LogSearch.Scan
