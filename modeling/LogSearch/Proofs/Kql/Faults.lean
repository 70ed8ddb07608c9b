import LogSearch.Proofs.Kql.OpenGroups

/-!
# Where errors point

A query that cannot be read is refused at the first token that no query goes on with, or at its end.
Once the machine that reads queries refuses a token, nothing behind the token helps; and what it read
before can go on to a query, since every state leads to one.  So the tokens in front of an error are
the start of a query and those up to it are not, and a query that ends too early only lacks more
tokens.

## What is here

* `Reaches`, `run_eq_error` — the tokens up to an error, and the error;
* `State.fault_of_step`, `State.fault_of_finish` — what can be wrong with a token, and with the end;
* `Accepted`, `Viable`, `FirstHopeless` — queries, their starts, and the token that spoils a start;
* `Explains` — what an error says of the tokens;
* `parseTokens_error_explains` — every error says so rightly.
-/

set_option autoImplicit false
namespace LogSearch.Kql

/-! ## Up to an error -/

/-- The tokens lead from a state to another. -/
inductive Reaches (limit : Nat) : State → List Token → State → Prop
  | refl (s : State) : Reaches limit s [] s
  | step {s s' s'' : State} {t : Token} {ts : List Token} (h : s.step limit t = .ok s')
      (hs : Reaches limit s' ts s'') : Reaches limit s (t :: ts) s''

/-- The fault is that of a group that was opened so and is left open. -/
inductive Opener.Unclosed : Opener → ParseFault → Prop
  | parenthesis (opened : Nat) : Unclosed ⟨.leftParen, opened⟩ (.missingParenthesis opened)
  | brace (opened : Nat) : Unclosed ⟨.leftBrace, opened⟩ (.missingBrace opened)

section reaches

variable {limit : Nat} {s s' : State} {ts : List Token} {t : Token} {fault : ParseFault}

theorem Reaches.run_append (h : Reaches limit s ts s') (us : List Token) :
    run limit s (ts ++ us) = run limit s' us := by
  induction h with
  | refl s => rfl
  | step h _ ih => rw [List.cons_append, run_cons _ h, ih]

/-- The machine has put down the groups that the tokens leave open. -/
theorem Reaches.openers (h : Reaches limit s ts s') {opened : List Token}
    (ho : s.openers = opened.map Token.opener) :
    s'.openers = (ts.foldl (fun opened t ↦ t.nest t opened) opened).map Token.opener := by
  induction h generalizing opened with
  | refl s => exact ho
  | @step s s' s'' t ts h _ ih =>
    refine ih ?_
    rw [State.openers_of_step h, ho, Token.map_nest]

/-- **A run fails at a token that the machine refuses, or at the end.** -/
theorem run_eq_error (h : run limit s ts = .error fault) :
    (∃ before t behind s', ts = before ++ t :: behind ∧ Reaches limit s before s' ∧
      s'.step limit t = .error fault) ∨
    ∃ s', Reaches limit s ts s' ∧ s'.finish = .error fault := by
  induction ts generalizing s with
  | nil => exact .inr ⟨s, .refl s, h⟩
  | cons t ts ih =>
    cases hs : s.step limit t with
    | error e =>
      rw [run, hs] at h
      cases h
      exact .inl ⟨[], t, ts, s, rfl, .refl s, hs⟩
    | ok s' =>
      rw [run_cons ts hs] at h
      rcases ih h with ⟨before, u, behind, s'', rfl, hreach, hu⟩ | ⟨s'', hreach, hend⟩
      · exact .inl ⟨t :: before, u, behind, s'', rfl, .step hs hreach, hu⟩
      · exact .inr ⟨s'', .step hs hreach, hend⟩

theorem error_of_enter {depth : Nat} {inside : State} (h : enter limit depth inside = .error fault) :
    fault = .tooDeep limit := by
  rw [enter] at h
  split at h
  · cases h
  · cases h
    rfl

theorem unclosed_eq (t : Token) : ∃ expected, unclosed t = .unexpected t expected := by
  rw [unclosed]
  split <;> exact ⟨_, rfl⟩

theorem Scope.fault_of_operatorStep {s : Scope} (h : s.operatorStep t = .error fault) :
    ∃ expected, fault = .unexpected t expected := by
  obtain ⟨c, frames⟩ := s
  rw [operatorStep] at h
  split at h
  · cases h
  · cases h
  · rcases frames with _ | ⟨_ | _, frames⟩
    · cases h
      exact ⟨_, rfl⟩
    all_goals
      dsimp only at h
      split at h
      · cases h
      · cases h
        exact unclosed_eq t

/-- **What the machine refuses a token for**: it cannot stand there, or it opens one group too
many. -/
theorem State.fault_of_step (h : s.step limit t = .error fault) :
    (∃ expected, fault = .unexpected t expected) ∨ fault = .tooDeep limit ∧ t.Opens := by
  cases s with
  | operand s =>
    simp only [step, Scope.operandStep] at h
    split at h
    · split at h <;> cases h
      exact .inl ⟨_, rfl⟩
    · next hk => exact .inr ⟨error_of_enter h, .inl hk⟩
    all_goals cases h
    all_goals exact .inl ⟨_, rfl⟩
  | field name s =>
    simp only [step] at h
    split at h
    · cases h
    · cases h
    · exact .inl (Scope.fault_of_operatorStep h)
  | colon name s =>
    simp only [step, Scope.valuesStep] at h
    split at h
    · next hk => exact .inr ⟨error_of_enter h, .inr hk⟩
    · next hk => exact .inr ⟨error_of_enter h, .inl hk⟩
    all_goals cases h
    exact .inl ⟨_, rfl⟩
  | comparison name op s =>
    simp only [step] at h
    split at h <;> cases h
    exact .inl ⟨_, rfl⟩
  | operator s => exact .inl (Scope.fault_of_operatorStep h)
  | value v =>
    simp only [step, ValueScope.valueStep] at h
    split at h
    · split at h <;> cases h
      exact .inl ⟨_, rfl⟩
    · next hk => exact .inr ⟨error_of_enter h, .inl hk⟩
    all_goals cases h
    exact .inl ⟨_, rfl⟩
  | valueOperator v =>
    simp only [step, ValueScope.operatorStep] at h
    split at h
    · cases h
    · cases h
    · split at h <;> cases h
    · cases h
      exact .inl (unclosed_eq t)

theorem Scope.fault_of_close {s : Scope} (h : s.close = .error fault) :
    ∃ opener rest, s.openers = opener :: rest ∧ opener.Unclosed fault := by
  obtain ⟨c, frames⟩ := s
  rw [close] at h
  rcases frames with _ | ⟨⟨opened, outer⟩ | ⟨name, opened, outer⟩, frames⟩
  · cases h
  · cases h
    exact ⟨_, _, rfl, .parenthesis opened⟩
  · cases h
    exact ⟨_, _, rfl, .brace opened⟩

/-- **What a query that ends too early lacks**: an operand, or the end of its innermost group. -/
theorem State.fault_of_finish (h : s.finish = .error fault) :
    (∃ expected, fault = .unexpectedEnd expected) ∨
      s.HasOperand ∧ ∃ opener rest, s.openers = opener :: rest ∧ opener.Unclosed fault := by
  cases s with
  | field name s =>
    exact .inr ⟨trivial, Scope.fault_of_close (s := s.push (.present name)) h⟩
  | operator s => exact .inr ⟨trivial, Scope.fault_of_close h⟩
  | valueOperator v =>
    cases h
    exact .inr ⟨trivial, _, _, rfl, .parenthesis v.opened⟩
  | operand | colon | comparison | value =>
    cases h
    exact .inl ⟨_, rfl⟩

end reaches

/-! ## What errors say -/

/-- The tokens are read as a query. -/
def Accepted (limit : Nat) (ts : List Token) : Prop := ∃ tree, readTokens limit ts = .ok tree

/-- The tokens are the start of a query. -/
def Viable (limit : Nat) (ts : List Token) : Prop := ∃ us, Accepted limit (ts ++ us)

/-- The token with which the tokens stop being the start of a query. -/
def FirstHopeless (limit : Nat) (ts : List Token) (t : Token) : Prop :=
  ∃ before behind, ts = before ++ t :: behind ∧ Viable limit before ∧
    ¬ Viable limit (before ++ [t])

/-- The tokens are the start of a longer query. -/
def GoesOn (limit : Nat) (ts : List Token) : Prop := ∃ us, us ≠ [] ∧ Accepted limit (ts ++ us)

/-- The innermost group that the tokens leave open was opened so, and closing all groups that are
open, innermost first, makes a query of the tokens. -/
def LacksClosers (limit : Nat) (ts : List Token) (opener : Opener) : Prop :=
  (stillOpen ts).head?.map Token.opener = some opener ∧
    ∀ closers : List Token, closers.map Token.kind = (stillOpen ts).map (·.kind.closer) →
      Accepted limit (ts ++ closers)

/-- What an error says of the tokens.  The other errors are none that tokens have. -/
def Explains (limit : Nat) (ts : List Token) : QueryError → Prop
  | .unexpectedToken found offset _ _ =>
    ∃ t, FirstHopeless limit ts t ∧ t.value = found ∧ t.offset = offset
  | .tooDeep bound => bound = limit ∧ ∃ t, FirstHopeless limit ts t ∧ t.Opens
  | .unexpectedEnd _ | .emptyQuery => GoesOn limit ts
  | .missingParenthesis offset => GoesOn limit ts ∧ LacksClosers limit ts ⟨.leftParen, offset⟩
  | .missingBrace offset => GoesOn limit ts ∧ LacksClosers limit ts ⟨.leftBrace, offset⟩
  | _ => False

section explains

variable {limit : Nat} {ts : List Token} {s : State} {t : Token} {fault : ParseFault}

theorem accepted_iff_run :
    Accepted limit ts ↔ ∃ tree, run limit (.operand .start) ts = .ok tree := by
  cases ts with
  | nil =>
    constructor
    · rintro ⟨tree, h⟩
      cases h
    · rintro ⟨tree, h⟩
      cases h
  | cons t ts => exact Iff.rfl

/-- What the machine read is the start of a query. -/
theorem Reaches.viable (h : Reaches limit (.operand .start) ts s) : Viable limit ts := by
  obtain ⟨us, tree, hrun⟩ := exists_run_of_state limit s
  exact ⟨us, accepted_iff_run.2 ⟨tree, (h.run_append us).trans hrun⟩⟩

/-- No query goes on with a token that the machine refuses. -/
theorem Reaches.not_viable (h : Reaches limit (.operand .start) ts s)
    (hs : s.step limit t = .error fault) : ¬ Viable limit (ts ++ [t]) := by
  rintro ⟨us, hus⟩
  obtain ⟨tree, hrun⟩ := accepted_iff_run.1 hus
  rw [List.append_assoc, h.run_append, List.singleton_append] at hrun
  obtain ⟨s', hs', -⟩ := exists_step_of_run hrun
  rw [hs] at hs'
  cases hs'

theorem Reaches.firstHopeless (h : Reaches limit (.operand .start) ts s)
    (hs : s.step limit t = .error fault) (behind : List Token) :
    FirstHopeless limit (ts ++ t :: behind) t :=
  ⟨ts, behind, rfl, h.viable, h.not_viable hs⟩

/-- Tokens that end too early are the start of a longer query. -/
theorem Reaches.goesOn (h : Reaches limit (.operand .start) ts s) (hs : s.finish = .error fault) :
    GoesOn limit ts := by
  obtain ⟨us, tree, hrun⟩ := exists_run_of_state limit s
  refine ⟨us, ?_, accepted_iff_run.2 ⟨tree, (h.run_append us).trans hrun⟩⟩
  rintro rfl
  rw [run, hs] at hrun
  cases hrun

/-- Where an operand was read, the groups that are open are all that is left to close. -/
theorem Reaches.lacksClosers {opener : Opener} {rest : List Opener}
    (h : Reaches limit (.operand .start) ts s) (hs : s.HasOperand)
    (ho : s.openers = opener :: rest) : LacksClosers limit ts opener := by
  have hopen : s.openers = (stillOpen ts).map Token.opener := h.openers rfl
  constructor
  · rw [← List.head?_map, ← hopen, ho, List.head?_cons]
  · intro closers hclosers
    have hkinds : closers.map Token.kind = s.openers.map fun opener ↦ opener.kind.closer := by
      rw [hclosers, hopen, List.map_map]
      rfl
    obtain ⟨tree, hrun⟩ := State.run_closers hs hkinds
    exact accepted_iff_run.2 ⟨tree, (h.run_append closers).trans hrun⟩

/-- **Errors point at the first hopeless token.**  An error at a token says that no query goes on with
it, while the tokens in front of it are the start of one; all other errors say that the tokens are
the start of a longer query, and those about a group point at the innermost that is open. -/
theorem parseTokens_error_explains {text : String} {error : QueryError}
    (hplaces : ∀ t ∈ ts, (dropBytes? t.offset text.toList).isSome)
    (h : parseTokens limit text ts = .error error) : Explains limit ts error := by
  rw [parseTokens, readTokens] at h
  split at h
  · next hempty =>
    cases h
    obtain rfl := List.isEmpty_iff.1 hempty
    exact Reaches.goesOn (.refl _) rfl
  · cases hrun : run limit (.operand .start) ts with
    | ok tree =>
      rw [hrun] at h
      cases h
    | error fault =>
      rw [hrun] at h
      cases h
      rcases run_eq_error hrun with ⟨before, t, behind, s, rfl, hreach, hs⟩ | ⟨s, hreach, hs⟩
      · have hfirst := hreach.firstHopeless hs behind
        rcases State.fault_of_step hs with ⟨expected, rfl⟩ | ⟨rfl, hopens⟩
        · obtain ⟨rest, hrest⟩ := Option.isSome_iff_exists.1 (hplaces t (by simp))
          simp only [ParseFault.toError, hrest]
          exact ⟨t, hfirst, rfl, rfl⟩
        · exact ⟨rfl, t, hfirst, hopens⟩
      · have hgoes := hreach.goesOn hs
        rcases State.fault_of_finish hs with ⟨expected, rfl⟩ | ⟨hoperand, opener, rest, ho, hopener⟩
        · exact hgoes
        · have hlacks := hreach.lacksClosers hoperand ho
          cases hopener with
          | parenthesis opened => exact ⟨hgoes, hlacks⟩
          | brace opened => exact ⟨hgoes, hlacks⟩

/-- The tokens of `x:{ (a and b` leave two groups open, of which the parenthesis is the inner one, and
no query goes on with another value behind `x:("a"`. -/
theorem parseTokens_error_samples :
    let unclosed : List Token := [⟨.term, "x", 0⟩, ⟨.colon, ":", 1⟩, ⟨.leftBrace, "\x7b", 2⟩,
      ⟨.leftParen, "(", 4⟩, ⟨.term, "a", 5⟩, ⟨.and, "and", 7⟩, ⟨.term, "b", 11⟩]
    let misplaced : List Token := [⟨.term, "x", 0⟩, ⟨.colon, ":", 1⟩, ⟨.leftParen, "(", 2⟩,
      ⟨.quoted, "a", 3⟩, ⟨.quoted, "b", 7⟩, ⟨.rightParen, ")", 10⟩]
    Explains 2 unclosed (.missingParenthesis 4) ∧
      Explains 2 misplaced (.unexpectedToken "b" 7 "\"b\")" .operatorOrCloser) := by
  intro unclosed misplaced
  have hunclosed : ∀ t ∈ unclosed, (dropBytes? t.offset "x:\x7b (a and b".toList).isSome := by decide
  have hmisplaced : ∀ t ∈ misplaced, (dropBytes? t.offset "x:(\"a\" \"b\")".toList).isSome := by
    decide
  exact ⟨parseTokens_error_explains hunclosed rfl, parseTokens_error_explains hmisplaced rfl⟩

end explains

end LogSearch.Kql
