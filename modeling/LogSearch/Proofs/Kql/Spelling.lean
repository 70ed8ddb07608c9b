import LogSearch.Proofs.Kql.Reading

/-!
# What was read is in the grammar

A state of the machine that reads queries says what was read to reach it: the groups that are open,
and in each of them the operands so far.  `State.Spells` puts that down with the relations of the
grammar, and each token keeps it true.  Where the query may end, no group is open, and then what was
read is a derivation.

Together with the other direction this gives `readTokens_eq_ok_iff`: the machine reads exactly the
queries of its level, each as the tree of its derivation.

## What is here

* `Leading` — operands with a separator behind each of them, and how another one is added;
* `Chain.Due`, `Chain.Has` — the tokens of a group, before and after an operand;
* `Opened`, `ValuesOpened` — the tokens around the innermost group;
* `State.Spells` — the tokens of a state, with `State.Spells.step` and `State.Spells.finish`;
* `readTokens_eq_ok_iff` — the machine and the grammar agree.
-/

set_option autoImplicit false
namespace LogSearch.Kql

/-! ## Chains -/

section chains

variable {α : Type}

/-- Operands with a separator behind each of them. -/
inductive Leading (separator : TokenKind) (Operand : List Token → α → Prop) :
    List Token → List α → Prop
  | nil : Leading separator Operand [] []
  | snoc {ts : List Token} {t : Token} {as : List α} (h : Separated separator Operand ts as)
      (ht : t.kind = separator) : Leading separator Operand (ts ++ [t]) as

theorem Separated.append {separator : TokenKind} {Operand : List Token → α → Prop}
    {ts us : List Token} {t : Token} {as bs : List α} (h : Separated separator Operand ts as)
    (ht : t.kind = separator) (hs : Separated separator Operand us bs) :
    Separated separator Operand (ts ++ t :: us) (as ++ bs) := by
  induction h with
  | one h => exact .cons h ht hs
  | cons h hk _ ih =>
    rw [List.append_assoc, List.cons_append, List.cons_append]
    exact .cons h hk ih

theorem Leading.push {separator : TokenKind} {Operand : List Token → α → Prop}
    {ts us : List Token} {as : List α} {a : α} (h : Leading separator Operand ts as)
    (ha : Operand us a) : Separated separator Operand (ts ++ us) (as ++ [a]) := by
  cases h with
  | nil => exact .one ha
  | snoc h ht =>
    rw [List.append_assoc]
    exact h.append ht (.one ha)

variable [Joined α] {Operand : List Token → α → Prop}

/-- The tokens of a group in which an operand is due: whole alternatives, conjuncts of the next one,
and perhaps a `not`. -/
def Chain.Due (Operand : List Token → α → Prop) (ts : List Token) (c : Chain α) : Prop :=
  ∃ us vs ws, ts = us ++ vs ++ ws ∧ Leading .or (Conjunction Operand) us c.alternatives.reverse ∧
    Leading .and (Negatable Joined.not Operand) vs c.conjuncts.reverse ∧
    if c.negated then ∃ t : Token, ws = [t] ∧ t.kind = .not else ws = []

/-- The tokens of a group in which an operand was read. -/
def Chain.Has (Operand : List Token → α → Prop) (ts : List Token) (c : Chain α) : Prop :=
  ∃ us vs, ts = us ++ vs ∧ Leading .or (Conjunction Operand) us c.alternatives.reverse ∧
    Separated .and (Negatable Joined.not Operand) vs c.conjuncts.reverse ∧ c.negated = false

theorem Chain.due_empty : Chain.Due Operand [] .empty :=
  ⟨[], [], [], rfl, .nil, .nil, rfl⟩

theorem Chain.Due.not {ts : List Token} {t : Token} {c : Chain α} (h : c.Due Operand ts)
    (hc : c.negated = false) (ht : t.kind = .not) :
    Chain.Due Operand (ts ++ [t]) { c with negated := true } := by
  obtain ⟨us, vs, ws, rfl, hu, hv, hw⟩ := h
  simp only [hc, Bool.false_eq_true, if_false] at hw
  subst hw
  exact ⟨us, vs, [t], by simp, hu, hv, t, rfl, ht⟩

theorem Chain.Due.push {ts us : List Token} {a : α} {c : Chain α} (h : c.Due Operand ts)
    (ha : Operand us a) : (c.push Joined.not a).Has Operand (ts ++ us) := by
  obtain ⟨ls, vs, ws, rfl, hl, hv, hw⟩ := h
  have hn : Negatable Joined.not Operand (ws ++ us) (if c.negated then Joined.not a else a) := by
    cases hc : c.negated with
    | true =>
      simp only [hc, if_true] at hw
      obtain ⟨t, rfl, ht⟩ := hw
      exact .negated ht ha
    | false =>
      simp only [hc, Bool.false_eq_true, if_false] at hw
      subst hw
      exact .plain ha
  refine ⟨ls, vs ++ (ws ++ us), by simp, hl, ?_, rfl⟩
  simpa [Chain.push] using hv.push hn

theorem Chain.Has.and {ts : List Token} {t : Token} {c : Chain α} (h : c.Has Operand ts)
    (ht : t.kind = .and) : c.Due Operand (ts ++ [t]) := by
  obtain ⟨us, vs, rfl, hu, hv, hc⟩ := h
  exact ⟨us, vs ++ [t], [], by simp, hu, .snoc hv ht, by simp [hc]⟩

/-- The operands of a group up to here, as alternatives. -/
theorem Chain.Has.alternatives {ts : List Token} {c : Chain α} (h : c.Has Operand ts) :
    Separated .or (Conjunction Operand) ts
      (chain Joined.and c.conjuncts.reverse :: c.alternatives).reverse := by
  obtain ⟨us, vs, rfl, hu, hv, -⟩ := h
  rw [List.reverse_cons]
  exact hu.push ⟨_, hv, rfl⟩

theorem Chain.Has.or {ts : List Token} {t : Token} {c : Chain α} (h : c.Has Operand ts)
    (ht : t.kind = .or) : (c.alternate (chain Joined.and)).Due Operand (ts ++ [t]) := by
  obtain ⟨-, -, -, -, -, hc⟩ := id h
  exact ⟨ts ++ [t], [], [], by simp, .snoc h.alternatives ht, .nil, by simp [Chain.alternate, hc]⟩

theorem Chain.Has.finish {ts : List Token} {c : Chain α} (h : c.Has Operand ts) :
    Disjunction Operand ts (c.finish (chain Joined.and) (chain Joined.or)) :=
  ⟨_, h.alternatives, rfl⟩

end chains

/-! ## Open groups -/

/-- The tokens around the innermost group of conditions, up to the delimiter that opens it. -/
inductive Opened (limit : Nat) : List Frame → List Token → Prop
  | nil : Opened limit [] []
  | group {frames : List Frame} {outer : Chain Node} {us vs : List Token} {l : Token}
      (h : Opened limit frames us) (hd : outer.Due (Sub (limit - frames.length)) vs)
      (hl : l.kind = .leftParen) (hlt : frames.length < limit) :
      Opened limit (.group l.offset outer :: frames) (us ++ vs ++ [l])
  | nested {frames : List Frame} {outer : Chain Node} {us vs : List Token} {f c l : Token}
      (h : Opened limit frames us) (hd : outer.Due (Sub (limit - frames.length)) vs)
      (hf : f.IsText) (hc : c.kind = .colon) (hl : l.kind = .leftBrace)
      (hlt : frames.length < limit) :
      Opened limit (.nested f.value l.offset outer :: frames) (us ++ vs ++ [f, c, l])

/-- The tokens of a query in which a condition is due. -/
def Scope.Due (limit : Nat) (ts : List Token) (s : Scope) : Prop :=
  ∃ us vs, ts = us ++ vs ∧ Opened limit s.frames us ∧
    s.chain.Due (Sub (limit - s.frames.length)) vs

/-- The tokens of a query in which a condition was read. -/
def Scope.Has (limit : Nat) (ts : List Token) (s : Scope) : Prop :=
  ∃ us vs, ts = us ++ vs ∧ Opened limit s.frames us ∧
    s.chain.Has (Sub (limit - s.frames.length)) vs

/-- The tokens from a field to the delimiter that opens the innermost group of its values, `base`
groups being open around the field. -/
inductive ValuesOpened (limit base : Nat) (name : String) :
    Nat → List (Nat × Chain Values) → List Token → Prop
  | first {f c l : Token} (hf : f.IsText) (hn : f.value = name) (hc : c.kind = .colon)
      (hl : l.kind = .leftParen) (hlt : base < limit) :
      ValuesOpened limit base name l.offset [] [f, c, l]
  | group {opened : Nat} {outer : List (Nat × Chain Values)} {c : Chain Values}
      {us vs : List Token} {l : Token} (h : ValuesOpened limit base name opened outer us)
      (hd : c.Due (Vals (limit - (base + outer.length + 1))) vs) (hl : l.kind = .leftParen)
      (hlt : base + outer.length + 1 < limit) :
      ValuesOpened limit base name l.offset ((opened, c) :: outer) (us ++ vs ++ [l])

/-- The tokens of a query in which a value is due. -/
def ValueScope.Due (limit : Nat) (ts : List Token) (v : ValueScope) : Prop :=
  ∃ us vs ws, ts = us ++ vs ++ ws ∧ v.scope.Due limit us ∧
    ValuesOpened limit v.scope.frames.length v.name v.opened v.outer vs ∧
    v.chain.Due (Vals (limit - v.depth)) ws

/-- The tokens of a query in which a value was read. -/
def ValueScope.Has (limit : Nat) (ts : List Token) (v : ValueScope) : Prop :=
  ∃ us vs ws, ts = us ++ vs ++ ws ∧ v.scope.Due limit us ∧
    ValuesOpened limit v.scope.frames.length v.name v.opened v.outer vs ∧
    v.chain.Has (Vals (limit - v.depth)) ws

/-- The tokens that were read to reach a state. -/
def State.Spells (limit : Nat) (ts : List Token) : State → Prop
  | .operand s => s.Due limit ts
  | .field name s => ∃ us f, ts = us ++ [f] ∧ s.Due limit us ∧ f.IsText ∧ f.value = name
  | .colon name s => ∃ us f c, ts = us ++ [f, c] ∧ s.Due limit us ∧ f.IsText ∧ f.value = name ∧
      c.kind = .colon
  | .comparison name op s => ∃ us f c, ts = us ++ [f, c] ∧ s.Due limit us ∧ f.IsText ∧
      f.value = name ∧ c.kind = .comparison op
  | .operator s => s.Has limit ts
  | .value v => v.Due limit ts
  | .valueOperator v => v.Has limit ts

/-! ## Closing a group -/

/-- A group of one level is an operand of the level around it. -/
theorem sub_group {limit n : Nat} {l r : Token} {ts : List Token} {a : Node} (hlt : n < limit)
    (hl : l.kind = .leftParen) (h : Disjunction (Sub (limit - (n + 1))) ts a)
    (hr : r.kind = .rightParen) : Sub (limit - n) (l :: (ts ++ [r])) a := by
  rw [show limit - n = limit - (n + 1) + 1 by omega]
  exact .group hl h hr

theorem sub_nested {limit n : Nat} {f c l r : Token} {ts : List Token} {a : Node} (hlt : n < limit)
    (hf : f.IsText) (hc : c.kind = .colon) (hl : l.kind = .leftBrace)
    (h : Disjunction (Sub (limit - (n + 1))) ts a) (hr : r.kind = .rightBrace) :
    Sub (limit - n) (f :: c :: l :: (ts ++ [r])) (.nested f.value a) := by
  rw [show limit - n = limit - (n + 1) + 1 by omega]
  exact .nested hf hc hl h hr

theorem vals_group {limit n : Nat} {l r : Token} {ts : List Token} {a : Values} (hlt : n < limit)
    (hl : l.kind = .leftParen) (h : Disjunction (Vals (limit - (n + 1))) ts a)
    (hr : r.kind = .rightParen) : Vals (limit - n) (l :: (ts ++ [r])) a := by
  rw [show limit - n = limit - (n + 1) + 1 by omega]
  exact .group hl h hr

theorem ValueScope.depth_eq (v : ValueScope) :
    v.depth = v.scope.frames.length + v.outer.length + 1 := by
  rw [depth]
  omega

theorem Scope.Due.push {limit : Nat} {ts us : List Token} {s : Scope} {n : Node}
    (h : s.Due limit ts) (hn : Sub (limit - s.frames.length) us n) :
    (s.push n).Has limit (ts ++ us) := by
  obtain ⟨ws, vs, rfl, hw, hv⟩ := h
  exact ⟨ws, vs ++ us, by simp, hw, hv.push hn⟩

theorem ValueScope.Due.push {limit : Nat} {ts us : List Token} {v : ValueScope} {a : Values}
    (h : v.Due limit ts) (ha : Vals (limit - v.depth) us a) : (v.push a).Has limit (ts ++ us) := by
  obtain ⟨xs, ws, vs, rfl, hx, hw, hv⟩ := h
  exact ⟨xs, ws, vs ++ us, by simp, hx, hw, hv.push ha⟩

/-! ## One token -/

theorem ok_of_enter {limit depth : Nat} {inside s' : State} (h : enter limit depth inside = .ok s') :
    depth < limit ∧ s' = inside := by
  rw [enter] at h
  split at h
  · next hlt =>
    cases h
    exact ⟨hlt, rfl⟩
  · cases h

theorem Scope.Has.step {limit : Nat} {ts : List Token} {s : Scope} {t : Token} {s' : State}
    (h : s.Has limit ts) (hs : s.operatorStep t = .ok s') : s'.Spells limit (ts ++ [t]) := by
  obtain ⟨us, vs, rfl, hu, hv⟩ := h
  obtain ⟨c, frames⟩ := s
  rw [operatorStep] at hs
  split at hs
  · next hk =>
    cases hs
    exact ⟨us, vs ++ [t], by simp, hu, hv.and hk⟩
  · next hk =>
    cases hs
    exact ⟨us, vs ++ [t], by simp, hu, hv.or hk⟩
  · cases hu with
    | nil => cases hs
    | @group frames outer ws xs l h hd hl hlt =>
      dsimp only at hs
      split at hs
      · next hr =>
        cases hs
        refine ⟨ws, xs ++ l :: (vs ++ [t]), by simp, h, hd.push ?_⟩
        exact sub_group hlt hl hv.finish hr
      · cases hs
    | @nested frames outer ws xs f c l h hd hf hc hl hlt =>
      dsimp only at hs
      split at hs
      · next hr =>
        cases hs
        refine ⟨ws, xs ++ f :: c :: l :: (vs ++ [t]), by simp, h, hd.push ?_⟩
        exact sub_nested hlt hf hc hl hv.finish hr
      · cases hs

theorem Scope.Due.step {limit : Nat} {ts : List Token} {s : Scope} {t : Token} {s' : State}
    (h : s.Due limit ts) (hs : s.operandStep limit t = .ok s') : s'.Spells limit (ts ++ [t]) := by
  rw [operandStep] at hs
  split at hs
  · next hk =>
    split at hs
    · cases hs
    · next hc =>
      cases hs
      obtain ⟨us, vs, rfl, hu, hv⟩ := h
      exact ⟨us, vs ++ [t], by simp, hu, hv.not (by simpa using hc) hk⟩
  · next hk =>
    obtain ⟨hlt, rfl⟩ := ok_of_enter hs
    obtain ⟨us, vs, rfl, hu, hv⟩ := h
    exact ⟨us ++ vs ++ [t], [], by simp, .group hu hv hk hlt, Chain.due_empty⟩
  · next hk =>
    cases hs
    exact ⟨ts, t, rfl, h, .inl hk, rfl⟩
  · next hk =>
    cases hs
    exact ⟨ts, t, rfl, h, .inr hk, rfl⟩
  · cases hs
  · cases hs

/-- The tokens in front of the values of a field. -/
theorem State.Spells.valuesStep {limit : Nat} {ts : List Token} {name : String} {s : Scope}
    {t : Token} {s' : State} (h : (State.colon name s).Spells limit ts)
    (hs : s.valuesStep limit name t = .ok s') : s'.Spells limit (ts ++ [t]) := by
  obtain ⟨us, f, c, rfl, hd, hf, rfl, hc⟩ := h
  have hfield : ∀ {v : Values}, Vals (limit - s.frames.length) [t] v →
      (s.push (.field f.value v)).Has limit (us ++ [f, c] ++ [t]) := by
    intro v hv
    rw [List.append_assoc]
    exact hd.push (.field hf hc hv)
  rw [Scope.valuesStep] at hs
  split at hs
  · next hk =>
    obtain ⟨hlt, rfl⟩ := ok_of_enter hs
    obtain ⟨ws, vs, rfl, hw, hv⟩ := hd
    exact ⟨ws ++ vs ++ [f, c, t], [], by simp, .nested hw hv hf hc hk hlt, Chain.due_empty⟩
  · next hk =>
    obtain ⟨hlt, rfl⟩ := ok_of_enter hs
    exact ⟨us, [f, c, t], [], by simp, hd, .first hf rfl hc hk hlt, Chain.due_empty⟩
  · next hk =>
    cases hs
    exact hfield (.literal (.inl hk))
  · next hk =>
    cases hs
    exact hfield (.literal (.inr hk))
  · next hk =>
    cases hs
    exact hfield (.wildcard hk)
  · cases hs

theorem ValueScope.Due.step {limit : Nat} {ts : List Token} {v : ValueScope} {t : Token}
    {s' : State} (h : v.Due limit ts) (hs : v.valueStep limit t = .ok s') :
    s'.Spells limit (ts ++ [t]) := by
  rw [valueStep] at hs
  split at hs
  · next hk =>
    split at hs
    · cases hs
    · next hc =>
      cases hs
      obtain ⟨us, vs, ws, rfl, hu, hv, hw⟩ := h
      exact ⟨us, vs, ws ++ [t], by simp, hu, hv, hw.not (by simpa using hc) hk⟩
  · next hk =>
    obtain ⟨hlt, rfl⟩ := ok_of_enter hs
    obtain ⟨us, vs, ws, rfl, hu, hv, hw⟩ := h
    rw [v.depth_eq] at hw hlt
    exact ⟨us, vs ++ ws ++ [t], [], by simp, hu, .group hv hw hk hlt, Chain.due_empty⟩
  · next hk =>
    cases hs
    exact h.push (.literal (.inl hk))
  · next hk =>
    cases hs
    exact h.push (.literal (.inr hk))
  · next hk =>
    cases hs
    exact h.push (.wildcard hk)
  · cases hs

theorem ValueScope.Has.step {limit : Nat} {ts : List Token} {v : ValueScope} {t : Token}
    {s' : State} (h : v.Has limit ts) (hs : v.operatorStep t = .ok s') :
    s'.Spells limit (ts ++ [t]) := by
  obtain ⟨us, vs, ws, rfl, hu, hv, hw⟩ := h
  obtain ⟨name, chain, opened, outer, scope⟩ := v
  rw [operatorStep] at hs
  split at hs
  · next hk =>
    cases hs
    exact ⟨us, vs, ws ++ [t], by simp, hu, hv, hw.and hk⟩
  · next hk =>
    cases hs
    exact ⟨us, vs, ws ++ [t], by simp, hu, hv, hw.or hk⟩
  · next hr =>
    rw [depth_eq] at hw
    cases hv with
    | @first f c l hf hn hc hl hlt =>
      cases hs
      subst hn
      rw [List.append_assoc, List.append_assoc]
      exact hu.push (.field hf hc (vals_group hlt hl hw.finish hr))
    | @group opened outer c xs ys l h hd hl hlt =>
      cases hs
      refine ⟨us, xs, ys ++ l :: (ws ++ [t]), by simp, hu, h, ?_⟩
      rw [depth_eq]
      exact hd.push (vals_group hlt hl hw.finish hr)
  · cases hs

/-- **What was read stays put down**: each token goes to the end of what the state spells. -/
theorem State.Spells.step {limit : Nat} {ts : List Token} {s s' : State} {t : Token}
    (h : s.Spells limit ts) (hs : s.step limit t = .ok s') : s'.Spells limit (ts ++ [t]) := by
  cases s with
  | operand s => exact Scope.Due.step h hs
  | field name s =>
    obtain ⟨us, f, rfl, hd, hf, rfl⟩ := h
    simp only [State.step] at hs
    split at hs
    · next hk =>
      cases hs
      exact ⟨us, f, t, by simp, hd, hf, rfl, hk⟩
    · next op hk =>
      cases hs
      exact ⟨us, f, t, by simp, hd, hf, rfl, hk⟩
    · exact (hd.push (.present hf)).step hs
  | colon name s => exact h.valuesStep hs
  | comparison name op s =>
    obtain ⟨us, f, c, rfl, hd, hf, rfl, hc⟩ := h
    have hpush : t.IsText → (s.push (.compare f.value op t.value)).Has limit (us ++ [f, c] ++ [t]) :=
      fun ht ↦ by
        rw [List.append_assoc]
        exact hd.push (.compare hf hc ht)
    simp only [State.step] at hs
    split at hs
    · next hk =>
      cases hs
      exact hpush (.inl hk)
    · next hk =>
      cases hs
      exact hpush (.inr hk)
    · cases hs
  | operator s => exact Scope.Has.step h hs
  | value v => exact ValueScope.Due.step h hs
  | valueOperator v => exact ValueScope.Has.step h hs

theorem spells_start (limit : Nat) : (State.operand .start).Spells limit [] :=
  ⟨[], [], rfl, .nil, Chain.due_empty⟩

/-! ## The end -/

theorem Scope.Has.close {limit : Nat} {ts : List Token} {s : Scope} {tree : Node}
    (h : s.Has limit ts) (hs : s.close = .ok tree) : IsQuery limit ts tree := by
  obtain ⟨us, vs, rfl, hu, hv⟩ := h
  obtain ⟨c, frames⟩ := s
  cases hu with
  | nil =>
    cases hs
    exact hv.finish
  | group => cases hs
  | nested => cases hs

theorem State.Spells.finish {limit : Nat} {ts : List Token} {s : State} {tree : Node}
    (h : s.Spells limit ts) (hs : s.finish = .ok tree) : IsQuery limit ts tree := by
  cases s with
  | field name s =>
    obtain ⟨us, f, rfl, hd, hf, rfl⟩ := h
    exact (hd.push (.present hf)).close hs
  | operator s => exact Scope.Has.close h hs
  | operand | colon | comparison | value | valueOperator => cases hs

theorem State.Spells.run {limit : Nat} {ts us : List Token} {s : State} {tree : Node}
    (h : s.Spells limit ts) (hs : run limit s us = .ok tree) : IsQuery limit (ts ++ us) tree := by
  induction us generalizing ts s with
  | nil =>
    rw [List.append_nil]
    exact h.finish hs
  | cons t us ih =>
    obtain ⟨s', ht, hs'⟩ := exists_step_of_run hs
    have := ih (h.step ht) hs'
    rwa [List.append_assoc] at this

theorem readTokens_eq_ok_iff {limit : Nat} {ts : List Token} {tree : Node} :
    readTokens limit ts = .ok tree ↔ IsQuery limit ts tree :=
  ⟨fun h ↦ (spells_start limit).run (run_of_readTokens h), readTokens_of_isQuery⟩

end LogSearch.Kql
