import LogSearch.Proofs.Client.Retry

/-!
# What the answers say

What a scan is to hand out depends on nothing but the answers it got.  `due` reads off them the
outcomes that are due so far, the failures in a row, and whether no answer is to follow, and `cursor`
where the next request goes on from.  Exchanges are `Proper` when each of them came before the end
and asked for what follows the answers in front of it.

Both are kept up by attempts with one request: failures that may pass, and the answer behind them.

## What is here

* `due`, `pagesOf`, `cursor`, `follow` — what the answers say about outcomes and requests;
* `due_outcomes` — the outcomes are the hits of the pages, and the failure that ended the answers;
* `Proper`, `Proper.append_attempts` — exchanges in order;
* `due_append_attempts`, `cursor_attempts` — what attempts say.
-/

set_option autoImplicit false
namespace LogSearch

/-- Whether no page is to be asked for behind a page: it is empty, or its last hit has no sort
values to go on from. -/
def SearchResponse.isLast (page : SearchResponse) : Bool :=
  match page.hits.getLast? with
  | none => true
  | some hit => hit.sort.isEmpty

namespace Scan

/-! ## Outcomes and requests -/

/-- What is due after some answers: the outcomes, the failures in a row, and whether no answer is to
follow. -/
structure Due where
  outcomes : List Outcome
  failures : Nat
  ended : Bool

/-- What is due after one more answer.  A page brings its hits; a failure that may pass brings
nothing as long as attempts remain, and any other failure is due itself. -/
def Due.answer (maximum : Nat) (due : Due) : Answer → Due
  | .ok page => ⟨due.outcomes ++ page.hits.map .hit, 0, page.isLast⟩
  | .error error =>
    if error.isTransient && due.failures + 1 < maximum then
      { due with failures := due.failures + 1 }
    else ⟨due.outcomes ++ [.failure error], due.failures, true⟩

/-- What is due after some answers. -/
def due (maximum : Nat) (answers : List Answer) : Due :=
  answers.foldl (Due.answer maximum) ⟨[], 0, false⟩

/-- The pages among the answers. -/
def pagesOf (answers : List Answer) : List SearchResponse := answers.filterMap Except.toOption

/-- Where the request behind some answers goes on from: behind the last hit of the last page. -/
def cursor (request : SearchRequest) (answers : List Answer) : Option (List Json) :=
  match (pagesOf answers).getLast? with
  | none => request.after
  | some page => page.hits.getLast?.map Hit.sort

/-- The request that follows some answers. -/
def follow (request : SearchRequest) (answers : List Answer) : SearchRequest :=
  { request with after := cursor request answers }

section due

variable {maximum : Nat} {request : SearchRequest} {answers : List Answer} {error : ClientError}

theorem due_append (answer : Answer) :
    due maximum (answers ++ [answer]) = (due maximum answers).answer maximum answer := by
  rw [due, List.foldl_append]
  rfl

theorem due_append_ok (page : SearchResponse) :
    due maximum (answers ++ [.ok page])
      = ⟨(due maximum answers).outcomes ++ page.hits.map .hit, 0, page.isLast⟩ :=
  due_append _

theorem due_append_transient (ht : error.isTransient = true)
    (hlt : (due maximum answers).failures + 1 < maximum) :
    due maximum (answers ++ [.error error])
      = { due maximum answers with failures := (due maximum answers).failures + 1 } := by
  rw [due_append, Due.answer, ht, Bool.true_and, if_pos (by simpa using hlt)]

theorem pagesOf_append (behind : List Answer) :
    pagesOf (answers ++ behind) = pagesOf answers ++ pagesOf behind :=
  List.filterMap_append

theorem pagesOf_append_ok (page : SearchResponse) :
    pagesOf (answers ++ [.ok page]) = pagesOf answers ++ [page] :=
  pagesOf_append _

theorem pagesOf_append_error : pagesOf (answers ++ [.error error]) = pagesOf answers := by
  rw [pagesOf_append]
  exact List.append_nil _

theorem cursor_append_ok (page : SearchResponse) :
    cursor request (answers ++ [.ok page]) = page.hits.getLast?.map Hit.sort := by
  rw [cursor, pagesOf_append_ok, List.getLast?_concat]

theorem cursor_append_error : cursor request (answers ++ [.error error]) = cursor request answers := by
  rw [cursor, pagesOf_append_error]
  rfl

/-- **What is due are the hits of the pages**, in order, and behind them the failure that ended the
answers, if one did. -/
theorem due_outcomes {answers : List Answer}
    (hopen : ∀ before answer behind, answers = before ++ answer :: behind →
      (due maximum before).ended = false) :
    ∃ last : List Outcome,
      (due maximum answers).outcomes
        = ((pagesOf answers).flatMap SearchResponse.hits).map Outcome.hit ++ last ∧
      (last = [] ∨ (due maximum answers).ended = true ∧
        ∃ error, answers.getLast? = some (.error error) ∧ last = [.failure error]) := by
  induction hr : answers.reverse generalizing answers with
  | nil =>
    rw [List.reverse_eq_nil_iff.1 hr]
    exact ⟨[], rfl, .inl rfl⟩
  | cons answer rest ih =>
    obtain rfl : answers = rest.reverse ++ [answer] := by
      rw [← List.reverse_cons, ← hr, List.reverse_reverse]
    have hended := hopen rest.reverse answer [] rfl
    obtain ⟨last, houtcomes, hlast⟩ := @ih rest.reverse (fun before a behind h ↦
      hopen before a (behind ++ [answer]) (by rw [h]; simp)) (List.reverse_reverse rest)
    -- the answers before the last one have not ended, so no failure is due from them
    have hlast : last = [] := by
      rcases hlast with hlast | ⟨hlast, -⟩
      · exact hlast
      · rw [hended] at hlast
        cases hlast
    rw [hlast, List.append_nil] at houtcomes
    rw [due_append]
    cases answer with
    | ok page =>
      refine ⟨[], ?_, .inl rfl⟩
      rw [pagesOf_append_ok, List.flatMap_append, List.map_append, ← houtcomes]
      simp [Due.answer]
    | error error =>
      rw [pagesOf_append_error, ← houtcomes, Due.answer]
      split
      · exact ⟨[], by simp, .inl rfl⟩
      · exact ⟨[.failure error], rfl, .inr ⟨rfl, error, by simp, rfl⟩⟩

end due

/-! ## Exchanges in order -/

/-- Every exchange came before the end, and asked for what follows the answers in front of it. -/
def Proper (request : SearchRequest) (maximum : Nat)
    (exchanges : List (SearchRequest × Answer)) : Prop :=
  ∀ before asked answer behind, exchanges = before ++ (asked, answer) :: behind →
    (due maximum (before.map Prod.snd)).ended = false ∧
      asked = { request with after := cursor request (before.map Prod.snd) }

section proper

variable {request asked : SearchRequest} {maximum : Nat} {exchanges : List (SearchRequest × Answer)}

theorem proper_nil : Proper request maximum [] := by
  intro before _ _ behind h
  cases before <;> cases h

theorem Proper.append (hp : Proper request maximum exchanges)
    (hended : (due maximum (exchanges.map Prod.snd)).ended = false)
    (hasked : asked = { request with after := cursor request (exchanges.map Prod.snd) })
    (answer : Answer) : Proper request maximum (exchanges ++ [(asked, answer)]) := by
  intro before asked' answer' behind h
  rcases List.eq_nil_or_concat behind with rfl | ⟨behind, last, rfl⟩
  · obtain ⟨rfl, hlast⟩ := List.append_inj' h rfl
    cases hlast
    exact ⟨hended, hasked⟩
  · rw [List.concat_eq_append, ← List.cons_append, ← List.append_assoc] at h
    obtain ⟨h, -⟩ := List.append_inj' h rfl
    exact hp _ _ _ _ h

theorem Proper.of_append {behind : List (SearchRequest × Answer)}
    (hp : Proper request maximum (exchanges ++ behind)) : Proper request maximum exchanges :=
  fun before asked answer rest h ↦ hp before asked answer (rest ++ behind) (by rw [h]; simp)

/-- Attempts with the request that is due, all but the last failures that may pass. -/
theorem Proper.append_attempts (hp : Proper request maximum exchanges)
    (hended : (due maximum (exchanges.map Prod.snd)).ended = false)
    (hasked : asked = { request with after := cursor request (exchanges.map Prod.snd) })
    {errors : List ClientError} (herrors : ∀ error ∈ errors, error.isTransient = true)
    (hcount : (due maximum (exchanges.map Prod.snd)).failures + errors.length < maximum)
    (answer : Answer) : Proper request maximum (exchanges ++ attempts asked errors answer) := by
  induction errors generalizing exchanges with
  | nil => exact hp.append hended hasked answer
  | cons error errors ih =>
    have hlt : (due maximum (exchanges.map Prod.snd)).failures + 1 < maximum := by
      rw [List.length_cons] at hcount
      omega
    have hmap : (exchanges ++ [(asked, Except.error error)]).map Prod.snd
        = exchanges.map Prod.snd ++ [.error error] := List.map_append
    have hdue := due_append_transient (herrors error List.mem_cons_self) hlt
    have hrest := ih (hp.append hended hasked (.error error)) (by rw [hmap, hdue]; exact hended)
      (by rw [hmap, cursor_append_error]; exact hasked)
      (fun e he ↦ herrors e (List.mem_cons_of_mem _ he)) (by
        rw [hmap, hdue]
        simp only [List.length_cons] at hcount ⊢
        omega)
    rwa [List.append_assoc] at hrest

end proper

/-- What attempts make due: the failures that may pass count, and then comes the last answer. -/
theorem due_append_attempts {maximum : Nat} {answers : List Answer} {asked : SearchRequest}
    {errors : List ClientError} (herrors : ∀ error ∈ errors, error.isTransient = true)
    (hcount : (due maximum answers).failures + errors.length < maximum) (answer : Answer) :
    due maximum (answers ++ (attempts asked errors answer).map Prod.snd)
      = Due.answer maximum
        { due maximum answers with failures := (due maximum answers).failures + errors.length }
        answer := by
  induction errors generalizing answers with
  | nil => exact due_append answer
  | cons error errors ih =>
    have hlt : (due maximum answers).failures + 1 < maximum := by
      rw [List.length_cons] at hcount
      omega
    have hdue := due_append_transient (herrors error List.mem_cons_self) hlt
    have hrest := @ih (answers ++ [.error error])
      (fun e he ↦ herrors e (List.mem_cons_of_mem _ he)) (by
        rw [hdue]
        simp only [List.length_cons] at hcount ⊢
        omega)
    rw [hdue, List.append_assoc] at hrest
    refine hrest.trans ?_
    simp only [List.length_cons, Nat.add_assoc, Nat.add_comm 1]

theorem pagesOf_attempts (answers : List Answer) (asked : SearchRequest)
    (errors : List ClientError) (answer : Answer) :
    pagesOf (answers ++ (attempts asked errors answer).map Prod.snd)
      = pagesOf (answers ++ [answer]) := by
  induction errors generalizing answers with
  | nil => rfl
  | cons error errors ih =>
    have hrest := ih (answers ++ [.error error])
    rw [List.append_assoc] at hrest
    refine hrest.trans ?_
    rw [pagesOf_append, pagesOf_append_error, ← pagesOf_append]

theorem cursor_attempts (request : SearchRequest) (answers : List Answer) (asked : SearchRequest)
    (errors : List ClientError) (answer : Answer) :
    cursor request (answers ++ (attempts asked errors answer).map Prod.snd)
      = cursor request (answers ++ [answer]) := by
  rw [cursor, cursor, pagesOf_attempts]

end Scan

end LogSearch
