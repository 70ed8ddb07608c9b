import LogSearch.Proofs.Kql.Acceptance

/-!
# The groups that are open

Which groups are open can be read off the tokens without the machine that reads queries: `stillOpen`
are the opening delimiters that no closing one answers, innermost first, and the machine puts down
just these (`State.openers_of_step`).

From any state at all the machine can be led to the end of a query: with an operand where one is due,
and then with the closing delimiters of the groups that are open, innermost first.  Nothing needs to
be opened for that, so the limit on the depth of groups does not matter.

## What is here

* `stillOpen`, `State.openers` — the open groups, on the tokens and in the machine;
* `State.run_closers` — closing delimiters end a query behind an operand;
* `exists_run_of_state` — every state leads to the end of a query.
-/

set_option autoImplicit false
namespace LogSearch.Kql

/-! ## Open groups -/

/-- What is open behind a token, innermost first: an opening delimiter opens `a`, and a closing one
closes what is innermost. -/
def Token.nest {α : Type} (t : Token) (a : α) (opened : List α) : List α :=
  match t.kind with
  | .leftParen | .leftBrace => a :: opened
  | .rightParen | .rightBrace => opened.tail
  | _ => opened

theorem Token.map_nest {α β : Type} (f : α → β) (t : Token) (a : α) (opened : List α) :
    (t.nest a opened).map f = t.nest (f a) (opened.map f) := by
  cases hk : t.kind <;> simp [nest, hk, List.map_tail]

/-- The opening delimiters that no closing one answers, innermost first. -/
def stillOpen (ts : List Token) : List Token := ts.foldl (fun opened t ↦ t.nest t opened) []

/-- What opened a group, and where. -/
structure Opener where
  kind : TokenKind
  /-- The number of bytes in front of it. -/
  offset : Nat
  deriving DecidableEq, Repr

/-- A token, taken for an opening delimiter. -/
def Token.opener (t : Token) : Opener := ⟨t.kind, t.offset⟩

/-- What closes the group. -/
def TokenKind.closer : TokenKind → TokenKind
  | .leftBrace => .rightBrace
  | _ => .rightParen

theorem TokenKind.closer_cases (kind : TokenKind) :
    kind.closer = .rightParen ∨ kind.closer = .rightBrace := by
  cases kind <;> simp [closer]

/-- What opened a group of conditions. -/
def Frame.opener : Frame → Opener
  | .group opened _ => ⟨.leftParen, opened⟩
  | .nested _ opened _ => ⟨.leftBrace, opened⟩

/-- What opened the groups of conditions, innermost first. -/
def Scope.openers (s : Scope) : List Opener := s.frames.map Frame.opener

/-- What opened the groups of values and those around their field, innermost first. -/
def ValueScope.openers (v : ValueScope) : List Opener :=
  ⟨.leftParen, v.opened⟩ :: (v.outer.map fun outer ↦ ⟨.leftParen, outer.1⟩) ++ v.scope.openers

/-- What opened the groups of a state, innermost first. -/
def State.openers : State → List Opener
  | .operand s | .field _ s | .colon _ s | .comparison _ _ s | .operator s => s.openers
  | .value v | .valueOperator v => v.openers

section openers

variable {limit : Nat} {t : Token} {s' : State}

theorem Scope.openers_of_operatorStep {s : Scope} (h : s.operatorStep t = .ok s') :
    s'.openers = t.nest t.opener s.openers := by
  obtain ⟨c, frames⟩ := s
  rw [operatorStep] at h
  split at h
  · next hk =>
    cases h
    simp [State.openers, Token.nest, hk]
  · next hk =>
    cases h
    simp [State.openers, openers, Token.nest, hk, alternate]
  · cases frames with
    | nil => cases h
    | cons frame frames =>
      cases frame with
      | group opened outer =>
        dsimp only at h
        split at h
        · next hk =>
          cases h
          simp [State.openers, openers, Token.nest, hk, push]
        · cases h
      | nested name opened outer =>
        dsimp only at h
        split at h
        · next hk =>
          cases h
          simp [State.openers, openers, Token.nest, hk, push]
        · cases h

theorem Scope.openers_of_operandStep {s : Scope} (h : s.operandStep limit t = .ok s') :
    s'.openers = t.nest t.opener s.openers := by
  rw [operandStep] at h
  split at h
  · next hk =>
    split at h
    · cases h
    · cases h
      simp [State.openers, openers, Token.nest, hk]
  · next hk =>
    obtain ⟨-, rfl⟩ := ok_of_enter h
    simp [State.openers, openers, Token.nest, Token.opener, Frame.opener, hk]
  · next hk =>
    cases h
    simp [State.openers, Token.nest, hk]
  · next hk =>
    cases h
    simp [State.openers, Token.nest, hk]
  · cases h
  · cases h

theorem Scope.openers_of_valuesStep {name : String} {s : Scope}
    (h : s.valuesStep limit name t = .ok s') : s'.openers = t.nest t.opener s.openers := by
  rw [valuesStep] at h
  split at h
  · next hk =>
    obtain ⟨-, rfl⟩ := ok_of_enter h
    simp [State.openers, openers, Token.nest, Token.opener, Frame.opener, hk]
  · next hk =>
    obtain ⟨-, rfl⟩ := ok_of_enter h
    simp [State.openers, ValueScope.openers, Token.nest, Token.opener, hk]
  · next hk =>
    cases h
    simp [State.openers, openers, Token.nest, hk, push]
  · next hk =>
    cases h
    simp [State.openers, openers, Token.nest, hk, push]
  · next hk =>
    cases h
    simp [State.openers, openers, Token.nest, hk, push]
  · cases h

theorem ValueScope.openers_of_valueStep {v : ValueScope} (h : v.valueStep limit t = .ok s') :
    s'.openers = t.nest t.opener v.openers := by
  rw [valueStep] at h
  split at h
  · next hk =>
    split at h
    · cases h
    · cases h
      simp [State.openers, openers, Token.nest, hk]
  · next hk =>
    obtain ⟨-, rfl⟩ := ok_of_enter h
    simp [State.openers, openers, Token.nest, Token.opener, hk]
  · next hk =>
    cases h
    simp [State.openers, openers, Token.nest, hk, push]
  · next hk =>
    cases h
    simp [State.openers, openers, Token.nest, hk, push]
  · next hk =>
    cases h
    simp [State.openers, openers, Token.nest, hk, push]
  · cases h

theorem ValueScope.openers_of_operatorStep {v : ValueScope} (h : v.operatorStep t = .ok s') :
    s'.openers = t.nest t.opener v.openers := by
  obtain ⟨name, c, opened, outer, scope⟩ := v
  rw [operatorStep] at h
  split at h
  · next hk =>
    cases h
    simp [State.openers, Token.nest, hk]
  · next hk =>
    cases h
    simp [State.openers, openers, Token.nest, hk, alternate]
  · next hk =>
    cases outer with
    | nil =>
      cases h
      simp [State.openers, openers, Scope.openers, Token.nest, hk, Scope.push]
    | cons group outer =>
      cases h
      simp [State.openers, openers, Token.nest, hk, push]
  · cases h

/-- **The machine puts down which groups are open**, and where they were opened. -/
theorem State.openers_of_step {s : State} (h : s.step limit t = .ok s') :
    s'.openers = t.nest t.opener s.openers := by
  cases s with
  | operand s => exact Scope.openers_of_operandStep h
  | field name s =>
    simp only [step] at h
    split at h
    · next hk =>
      cases h
      simp [openers, Token.nest, hk]
    · next hk =>
      cases h
      simp [openers, Token.nest, hk]
    · exact Scope.openers_of_operatorStep (s := s.push (.present name)) h
  | colon name s => exact Scope.openers_of_valuesStep h
  | comparison name op s =>
    simp only [step] at h
    split at h
    · next hk =>
      cases h
      simp [openers, Scope.openers, Token.nest, hk, Scope.push]
    · next hk =>
      cases h
      simp [openers, Scope.openers, Token.nest, hk, Scope.push]
    · cases h
  | operator s => exact Scope.openers_of_operatorStep h
  | value v => exact ValueScope.openers_of_valueStep h
  | valueOperator v => exact ValueScope.openers_of_operatorStep h

end openers

/-! ## Every state leads to the end of a query -/

section completion

variable {limit : Nat} {cs : List Token}

/-- Whether an operand was just read, so that its group can be closed. -/
def State.HasOperand : State → Prop
  | .field .. | .operator _ | .valueOperator _ => True
  | .operand _ | .colon .. | .comparison .. | .value _ => False

theorem Scope.run_closers {s : Scope}
    (h : cs.map Token.kind = s.openers.map fun opener ↦ opener.kind.closer) :
    ∃ tree, run limit (.operator s) cs = .ok tree := by
  obtain ⟨c, frames⟩ := s
  induction frames generalizing c cs with
  | nil =>
    rw [List.map_eq_nil_iff.1 h]
    exact ⟨_, rfl⟩
  | cons frame frames ih =>
    obtain ⟨t, cs, rfl, ht, hcs⟩ := List.map_eq_cons_iff.1 h
    cases frame with
    | group opened outer =>
      have hstep : (State.operator ⟨c, .group opened outer :: frames⟩).step limit t
          = .ok (.operator (Scope.push ⟨outer, frames⟩ (Scope.tree ⟨c, []⟩))) := by
        simp only [State.step, operatorStep, ht, Frame.opener, TokenKind.closer, if_true]
        rfl
      rw [run_cons _ hstep]
      exact ih _ hcs
    | nested name opened outer =>
      have hstep : (State.operator ⟨c, .nested name opened outer :: frames⟩).step limit t
          = .ok (.operator (Scope.push ⟨outer, frames⟩ (.nested name (Scope.tree ⟨c, []⟩)))) := by
        simp only [State.step, operatorStep, ht, Frame.opener, TokenKind.closer, if_true]
        rfl
      rw [run_cons _ hstep]
      exact ih _ hcs

theorem ValueScope.run_closers {v : ValueScope}
    (h : cs.map Token.kind = v.openers.map fun opener ↦ opener.kind.closer) :
    ∃ tree, run limit (.valueOperator v) cs = .ok tree := by
  obtain ⟨name, c, opened, outer, scope⟩ := v
  induction outer generalizing c opened cs with
  | nil =>
    obtain ⟨t, cs, rfl, ht, hcs⟩ := List.map_eq_cons_iff.1 h
    have hstep : (State.valueOperator ⟨name, c, opened, [], scope⟩).step limit t
        = .ok (.operator (scope.push (.field name (ValueScope.tree ⟨name, c, opened, [], scope⟩)))) := by
      simp only [State.step, operatorStep, ht, TokenKind.closer]
    rw [run_cons _ hstep]
    exact Scope.run_closers hcs
  | cons group outer ih =>
    obtain ⟨t, cs, rfl, ht, hcs⟩ := List.map_eq_cons_iff.1 h
    obtain ⟨around, chain⟩ := group
    have hstep : (State.valueOperator ⟨name, c, opened, (around, chain) :: outer, scope⟩).step limit t
        = .ok (.valueOperator (ValueScope.push ⟨name, chain, around, outer, scope⟩
          (ValueScope.tree ⟨name, c, opened, (around, chain) :: outer, scope⟩))) := by
      simp only [State.step, operatorStep, ht, TokenKind.closer]
    rw [run_cons _ hstep]
    exact ih _ _ hcs

/-- A closing delimiter ends a field name. -/
theorem ends_of_closers {openers : List Opener}
    (h : cs.map Token.kind = openers.map fun opener ↦ opener.kind.closer) : Ends cs := by
  cases openers with
  | nil =>
    rw [List.map_eq_nil_iff.1 h]
    exact .nil
  | cons opener openers =>
    obtain ⟨t, cs, rfl, ht, -⟩ := List.map_eq_cons_iff.1 h
    rcases opener.kind.closer_cases with hk | hk <;>
      exact ends_cons (by simp [ht, hk]) (by simp [ht, hk])

/-- **The closing delimiters of the open groups, innermost first, end a query** behind an operand. -/
theorem State.run_closers {s : State} (hs : s.HasOperand)
    (h : cs.map Token.kind = s.openers.map fun opener ↦ opener.kind.closer) :
    ∃ tree, run limit s cs = .ok tree := by
  cases s with
  | field name s =>
    rw [run_field (ends_of_closers h)]
    exact Scope.run_closers h
  | operator s => exact Scope.run_closers h
  | valueOperator v => exact ValueScope.run_closers h
  | operand | colon | comparison | value => exact hs.elim

/-- A term, if an operand is due, leads to a state that has one. -/
theorem State.exists_hasOperand (limit : Nat) (s : State) :
    s.HasOperand ∨ ∃ s', s'.HasOperand ∧ s.step limit ⟨.term, "", 0⟩ = .ok s' := by
  cases s with
  | operand s => exact .inr ⟨.field "" s, trivial, rfl⟩
  | colon name s => exact .inr ⟨.operator (s.push (.field name (.literal ""))), trivial, rfl⟩
  | comparison name op s => exact .inr ⟨.operator (s.push (.compare name op "")), trivial, rfl⟩
  | value v => exact .inr ⟨.valueOperator (v.push (.literal "")), trivial, rfl⟩
  | field | operator | valueOperator => exact .inl trivial

/-- **Every state leads to the end of a query**, under any limit: nothing needs to be opened. -/
theorem exists_run_of_state (limit : Nat) (s : State) : ∃ us tree, run limit s us = .ok tree := by
  have hclose : ∀ s : State, s.HasOperand → ∃ us tree, run limit s us = .ok tree := by
    intro s hs
    let closers : List Token := s.openers.map fun opener ↦ ⟨opener.kind.closer, "", 0⟩
    have hkinds : closers.map Token.kind = s.openers.map fun opener ↦ opener.kind.closer :=
      List.map_map
    exact ⟨closers, State.run_closers hs hkinds⟩
  rcases s.exists_hasOperand limit with hs | ⟨s', hs, hstep⟩
  · exact hclose s hs
  · obtain ⟨us, tree, hrun⟩ := hclose s' hs
    exact ⟨⟨.term, "", 0⟩ :: us, tree, (run_cons us hstep).trans hrun⟩

end completion

end LogSearch.Kql
