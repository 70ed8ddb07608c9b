import LogSearch.Proofs.Kql.Spelling

/-!
# Which tokens are accepted

The limit on the depth of groups bears on nothing but opening delimiters.  So a run that succeeds
under one limit succeeds under every limit that its tokens keep to, with the same tree, and how deep
the tokens go can be read off them without the machine: `deepest` counts delimiters.

`parseTokens_eq_ok_iff` puts this together with the grammar: tokens are accepted if and only if they
derive a tree at all and never have more groups open than the limit allows.

## What is here

* `Token.depthAfter`, `deepest` — the number of open groups, counted on the tokens;
* `State.depth_of_step` — the machine counts the same;
* `State.step_of_depth_le` — the limit matters for nothing else;
* `isQuery_iff_deepest` — the levels of the grammar are those depths;
* `parseTokens_eq_ok_iff` — what is accepted.
-/

set_option autoImplicit false
namespace LogSearch.Kql

/-! ## Counting delimiters -/

/-- The number of open groups after a token, if there were `depth` in front of it. -/
def Token.depthAfter (t : Token) (depth : Nat) : Nat :=
  match t.kind with
  | .leftParen | .leftBrace => depth + 1
  | .rightParen | .rightBrace => depth - 1
  | _ => depth

/-- The largest number of groups that are open at some point of the tokens, if there are `depth` in
front of them. -/
def deepest : Nat → List Token → Nat
  | depth, [] => depth
  | depth, t :: ts => max depth (deepest (t.depthAfter depth) ts)

theorem le_deepest (depth : Nat) (ts : List Token) : depth ≤ deepest depth ts := by
  cases ts with
  | nil => exact Nat.le_refl _
  | cons t ts => exact Nat.le_max_left _ _

/-! ## The machine counts the same -/

theorem Scope.depth_of_operatorStep {s : Scope} {t : Token} {s' : State}
    (h : s.operatorStep t = .ok s') : s'.depth = t.depthAfter s.frames.length := by
  obtain ⟨c, frames⟩ := s
  rw [operatorStep] at h
  split at h
  · next hk =>
    cases h
    simp [State.depth, Token.depthAfter, hk]
  · next hk =>
    cases h
    simp [State.depth, Token.depthAfter, hk, alternate]
  · cases frames with
    | nil => cases h
    | cons frame frames =>
      cases frame with
      | group opened outer =>
        dsimp only at h
        split at h
        · next hk =>
          cases h
          simp [State.depth, Token.depthAfter, hk, push]
        · cases h
      | nested name opened outer =>
        dsimp only at h
        split at h
        · next hk =>
          cases h
          simp [State.depth, Token.depthAfter, hk, push]
        · cases h

theorem Scope.depth_of_operandStep {limit : Nat} {s : Scope} {t : Token} {s' : State}
    (h : s.operandStep limit t = .ok s') : s'.depth = t.depthAfter s.frames.length := by
  rw [operandStep] at h
  split at h
  · next hk =>
    split at h
    · cases h
    · cases h
      simp [State.depth, Token.depthAfter, hk]
  · next hk =>
    obtain ⟨-, rfl⟩ := ok_of_enter h
    simp [State.depth, Token.depthAfter, hk]
  · next hk =>
    cases h
    simp [State.depth, Token.depthAfter, hk]
  · next hk =>
    cases h
    simp [State.depth, Token.depthAfter, hk]
  · cases h
  · cases h

theorem Scope.depth_of_valuesStep {limit : Nat} {name : String} {s : Scope} {t : Token} {s' : State}
    (h : s.valuesStep limit name t = .ok s') : s'.depth = t.depthAfter s.frames.length := by
  rw [valuesStep] at h
  split at h
  · next hk =>
    obtain ⟨-, rfl⟩ := ok_of_enter h
    simp [State.depth, Token.depthAfter, hk]
  · next hk =>
    obtain ⟨-, rfl⟩ := ok_of_enter h
    simp only [State.depth, ValueScope.depth, Token.depthAfter, hk, List.length_nil]
    omega
  · next hk =>
    cases h
    simp [State.depth, Token.depthAfter, hk, push]
  · next hk =>
    cases h
    simp [State.depth, Token.depthAfter, hk, push]
  · next hk =>
    cases h
    simp [State.depth, Token.depthAfter, hk, push]
  · cases h

theorem ValueScope.depth_of_valueStep {limit : Nat} {v : ValueScope} {t : Token} {s' : State}
    (h : v.valueStep limit t = .ok s') : s'.depth = t.depthAfter v.depth := by
  rw [valueStep] at h
  split at h
  · next hk =>
    split at h
    · cases h
    · cases h
      simp [State.depth, depth, Token.depthAfter, hk]
  · next hk =>
    obtain ⟨-, rfl⟩ := ok_of_enter h
    simp only [State.depth, depth, Token.depthAfter, hk, List.length_cons]
    omega
  · next hk =>
    cases h
    simp [State.depth, depth, Token.depthAfter, hk, push]
  · next hk =>
    cases h
    simp [State.depth, depth, Token.depthAfter, hk, push]
  · next hk =>
    cases h
    simp [State.depth, depth, Token.depthAfter, hk, push]
  · cases h

theorem ValueScope.depth_of_operatorStep {v : ValueScope} {t : Token} {s' : State}
    (h : v.operatorStep t = .ok s') : s'.depth = t.depthAfter v.depth := by
  obtain ⟨name, c, opened, outer, scope⟩ := v
  rw [operatorStep] at h
  split at h
  · next hk =>
    cases h
    simp [State.depth, depth, Token.depthAfter, hk]
  · next hk =>
    cases h
    simp [State.depth, depth, Token.depthAfter, hk, alternate]
  · next hk =>
    cases outer with
    | nil =>
      cases h
      simp [State.depth, depth, Token.depthAfter, hk, Scope.push]
    | cons group outer =>
      cases h
      simp only [State.depth, depth, Token.depthAfter, hk, push, List.length_cons]
      omega
  · cases h

theorem State.depth_of_step {limit : Nat} {s s' : State} {t : Token} (h : s.step limit t = .ok s') :
    s'.depth = t.depthAfter s.depth := by
  cases s with
  | operand s => exact Scope.depth_of_operandStep h
  | field name s =>
    simp only [step] at h
    split at h
    · next hk =>
      cases h
      simp [depth, Token.depthAfter, hk]
    · next hk =>
      cases h
      simp [depth, Token.depthAfter, hk]
    · exact Scope.depth_of_operatorStep (s := s.push (.present name)) h
  | colon name s => exact Scope.depth_of_valuesStep h
  | comparison name op s =>
    simp only [step] at h
    split at h
    · next hk =>
      cases h
      simp [depth, Token.depthAfter, hk, Scope.push]
    · next hk =>
      cases h
      simp [depth, Token.depthAfter, hk, Scope.push]
    · cases h
  | operator s => exact Scope.depth_of_operatorStep h
  | value v => exact ValueScope.depth_of_valueStep h
  | valueOperator v => exact ValueScope.depth_of_operatorStep h

/-! ## The limit bears on nothing else -/

theorem enter_eq_ok_iff {limit depth : Nat} {inside s : State} :
    enter limit depth inside = .ok s ↔ depth < limit ∧ s = inside := by
  refine ⟨ok_of_enter, ?_⟩
  rintro ⟨hlt, rfl⟩
  exact if_pos hlt

/-- Whether a token opens a group. -/
def Token.Opens (t : Token) : Prop := t.kind = .leftParen ∨ t.kind = .leftBrace

theorem Token.depthAfter_of_opens {t : Token} (h : t.Opens) (depth : Nat) :
    t.depthAfter depth = depth + 1 := by
  rcases h with h | h <;> simp only [depthAfter, h]

theorem Token.depthAfter_le {t : Token} (h : ¬t.Opens) (depth : Nat) : t.depthAfter depth ≤ depth := by
  rw [depthAfter]
  split
  · next hk => exact absurd (.inl hk) h
  · next hk => exact absurd (.inr hk) h
  · exact Nat.sub_le _ _
  · exact Nat.sub_le _ _
  · exact Nat.le_refl _

/-- A token that opens no group leads to the same under every limit. -/
theorem State.step_of_not_opens {t : Token} (h : ¬t.Opens) (limit limit' : Nat) (s : State) :
    s.step limit t = s.step limit' t := by
  have hp : t.kind ≠ .leftParen := fun hk ↦ h (.inl hk)
  have hb : t.kind ≠ .leftBrace := fun hk ↦ h (.inr hk)
  cases s with
  | operand s => cases hk : t.kind <;> simp_all [step, Scope.operandStep]
  | colon name s => cases hk : t.kind <;> simp_all [step, Scope.valuesStep]
  | value v => cases hk : t.kind <;> simp_all [step, ValueScope.valueStep]
  | field | comparison | operator | valueOperator => rfl

/-- Behind an operand no group can be opened. -/
theorem Scope.operatorStep_of_opens {t : Token} (h : t.Opens) (s : Scope) (s' : State) :
    s.operatorStep t ≠ .ok s' := by
  obtain ⟨c, frames⟩ := s
  rcases h with hk | hk <;> rcases frames with _ | ⟨_ | _, frames⟩ <;> simp [operatorStep, hk]

/-- A token that opens a group needs room for it, and nothing more. -/
theorem State.step_of_opens {t : Token} (h : t.Opens) {limit : Nat} {s s' : State}
    (hs : s.step limit t = .ok s') :
    s.depth < limit ∧ ∀ limit', s.depth < limit' → s.step limit' t = .ok s' := by
  rcases id h with hk | hk
  · cases s with
    | operand s =>
      simp only [step, Scope.operandStep, hk, enter_eq_ok_iff] at hs ⊢
      exact ⟨hs.1, fun _ hlt ↦ ⟨hlt, hs.2⟩⟩
    | colon name s =>
      simp only [step, Scope.valuesStep, hk, enter_eq_ok_iff] at hs ⊢
      exact ⟨hs.1, fun _ hlt ↦ ⟨hlt, hs.2⟩⟩
    | value v =>
      simp only [step, ValueScope.valueStep, hk, enter_eq_ok_iff] at hs ⊢
      exact ⟨hs.1, fun _ hlt ↦ ⟨hlt, hs.2⟩⟩
    | field name s =>
      simp only [step, hk] at hs
      exact absurd hs (Scope.operatorStep_of_opens h _ _)
    | comparison name op s => simp [step, hk] at hs
    | operator s => exact absurd hs (Scope.operatorStep_of_opens h _ _)
    | valueOperator v => simp [step, ValueScope.operatorStep, hk] at hs
  · cases s with
    | operand s => simp [step, Scope.operandStep, hk] at hs
    | colon name s =>
      simp only [step, Scope.valuesStep, hk, enter_eq_ok_iff] at hs ⊢
      exact ⟨hs.1, fun _ hlt ↦ ⟨hlt, hs.2⟩⟩
    | value v => simp [step, ValueScope.valueStep, hk] at hs
    | field name s =>
      simp only [step, hk] at hs
      exact absurd hs (Scope.operatorStep_of_opens h _ _)
    | comparison name op s => simp [step, hk] at hs
    | operator s => exact absurd hs (Scope.operatorStep_of_opens h _ _)
    | valueOperator v => simp [step, ValueScope.operatorStep, hk] at hs

theorem State.depth_le_of_step {limit : Nat} {s s' : State} {t : Token}
    (h : s.step limit t = .ok s') (hd : s.depth ≤ limit) : s'.depth ≤ limit := by
  rw [depth_of_step h]
  by_cases ho : t.Opens
  · rw [Token.depthAfter_of_opens ho]
    exact (step_of_opens ho h).1
  · exact Nat.le_trans (Token.depthAfter_le ho _) hd

theorem State.step_of_depth_le {limit limit' : Nat} {s s' : State} {t : Token}
    (h : s.step limit t = .ok s') (hd : s'.depth ≤ limit') : s.step limit' t = .ok s' := by
  by_cases ho : t.Opens
  · rw [depth_of_step h, Token.depthAfter_of_opens ho] at hd
    exact (step_of_opens ho h).2 limit' hd
  · rw [← h]
    exact step_of_not_opens ho limit' limit s

/-! ## Runs -/

theorem deepest_le_of_run {limit : Nat} {s : State} {ts : List Token} {tree : Node}
    (h : run limit s ts = .ok tree) (hd : s.depth ≤ limit) : deepest s.depth ts ≤ limit := by
  induction ts generalizing s with
  | nil => exact hd
  | cons t ts ih =>
    obtain ⟨s', ht, hrun⟩ := exists_step_of_run h
    have hs' := ih hrun (State.depth_le_of_step ht hd)
    rw [State.depth_of_step ht] at hs'
    exact Nat.max_le.2 ⟨hd, hs'⟩

theorem run_of_deepest_le {limit limit' : Nat} {s : State} {ts : List Token} {tree : Node}
    (h : run limit s ts = .ok tree) (hd : deepest s.depth ts ≤ limit') :
    run limit' s ts = .ok tree := by
  induction ts generalizing s with
  | nil => exact h
  | cons t ts ih =>
    obtain ⟨s', ht, hrun⟩ := exists_step_of_run h
    have hrest : deepest s'.depth ts ≤ limit' := by
      rw [State.depth_of_step ht]
      exact Nat.le_trans (Nat.le_max_right _ _) hd
    rw [run_cons _ (State.step_of_depth_le ht (Nat.le_trans (le_deepest _ _) hrest))]
    exact ih hrun hrest

/-- **The levels of the grammar are depths of delimiters**: a tree of any level is one of every
level that its tokens keep to. -/
theorem isQuery_iff_deepest {limit : Nat} {ts : List Token} {tree : Node} :
    IsQuery limit ts tree ↔ (∃ level, IsQuery level ts tree) ∧ deepest 0 ts ≤ limit := by
  constructor
  · intro h
    have hrun := run_of_readTokens (readTokens_of_isQuery h)
    exact ⟨⟨limit, h⟩, deepest_le_of_run hrun (Nat.zero_le _)⟩
  · rintro ⟨⟨level, h⟩, hd⟩
    have hrun := run_of_readTokens (readTokens_of_isQuery h)
    exact (spells_start limit).run (run_of_deepest_le hrun hd)

theorem parseTokens_iff_isQuery {limit : Nat} {text : String} {tokens : List Token} {tree : Node} :
    parseTokens limit text tokens = .ok tree ↔ IsQuery limit tokens tree := by
  rw [← readTokens_eq_ok_iff, parseTokens]
  cases readTokens limit tokens with
  | error fault => exact ⟨nofun, nofun⟩
  | ok found =>
    constructor
    · rintro ⟨⟩
      rfl
    · rintro ⟨⟩
      rfl

/-- Tokens derive one tree at most. -/
theorem IsQuery.unique {limit limit' : Nat} {ts : List Token} {tree tree' : Node}
    (h : IsQuery limit ts tree) (h' : IsQuery limit' ts tree') : tree = tree' := by
  have hd := (isQuery_iff_deepest.1 h).2
  have hr := readTokens_of_isQuery (isQuery_iff_deepest.2 ⟨⟨limit', h'⟩, hd⟩)
  rw [readTokens_of_isQuery h, Except.ok.injEq] at hr
  exact hr

/-- **Exactly the queries are accepted.**  Tokens are read as a tree if and only if they derive it
and keep to the limit on the depth of groups; the limit of the grammar is the number of groups that
are open at any point of them, and they derive one tree at most. -/
theorem parseTokens_eq_ok_iff (text : String) (tokens : List Token) :
    (∀ (limit : Nat) (tree : Node),
      parseTokens limit text tokens = .ok tree ↔ IsQuery limit tokens tree) ∧
    (∀ (limit : Nat) (tree : Node),
      IsQuery limit tokens tree ↔ (∃ level, IsQuery level tokens tree) ∧ deepest 0 tokens ≤ limit) ∧
    ∀ (limit limit' : Nat) (tree tree' : Node),
      IsQuery limit tokens tree → IsQuery limit' tokens tree' → tree = tree' :=
  ⟨fun _ _ ↦ parseTokens_iff_isQuery, fun _ _ ↦ isQuery_iff_deepest,
    fun _ _ _ _ h h' ↦ h.unique h'⟩

/-- The tokens of `(a or b)` derive one tree, under a limit of one group and no less. -/
theorem isQuery_group_or :
    let tokens : List Token := [⟨.leftParen, "(", 0⟩, ⟨.term, "a", 1⟩, ⟨.or, "or", 3⟩,
      ⟨.term, "b", 6⟩, ⟨.rightParen, ")", 7⟩]
    let tree : Node := .or [.present "a", .present "b"]
    IsQuery 1 tokens tree ∧ ¬ IsQuery 0 tokens tree ∧
      ∀ (limit : Nat) (tree' : Node), IsQuery limit tokens tree' → tree' = tree := by
  intro tokens tree
  obtain ⟨hparse, -, hunique⟩ := parseTokens_eq_ok_iff "(a or b)" tokens
  have h : IsQuery 1 tokens tree := (hparse 1 tree).1 rfl
  refine ⟨h, fun h' ↦ ?_, fun limit tree' h' ↦ hunique limit 1 tree' tree h' h⟩
  cases (hparse 0 tree).2 h'

end LogSearch.Kql
