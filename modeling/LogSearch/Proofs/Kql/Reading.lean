import LogSearch.Proofs.Kql.Grammar

/-!
# Every query is read

The machine that reads a query accepts all tokens that the grammar derives, with the tree of the
derivation.  A derivation drives the machine: in a state where an operand is due, the tokens of an
operand lead to the state that has taken in its tree.  What makes this go through is that the
statement leaves the state and the tokens behind the operand free.  The one thing asked of those
tokens is `Ends`: a field name could go on with a colon or a comparison.

A group of conditions and a group of values are read by the same moves, so what is said about chains
is said once, for any two families of states `due` and `has` that move like them.

## What is here

* `Moves` — the moves inside a group, and `TakesIn`, `TakesInGroup`, what operands and groups lead to;
* `takesIn_value`, `takesIn_condition` — operands, given what may stand inside a group;
* `takesIn_valueGroup`, `takesIn_group` — groups, by induction on their level;
* `readTokens_of_isQuery` — whole queries.
-/

set_option autoImplicit false
namespace LogSearch.Kql

/-! ## Derivations drive the machine -/

theorem run_cons {limit : Nat} {s s' : State} {t : Token} (ts : List Token)
    (h : s.step limit t = .ok s') : run limit s (t :: ts) = run limit s' ts := by
  rw [run, h]
  rfl

/-- A run that succeeds takes its first step. -/
theorem exists_step_of_run {limit : Nat} {s : State} {t : Token} {ts : List Token} {tree : Node}
    (h : run limit s (t :: ts) = .ok tree) :
    ∃ s', s.step limit t = .ok s' ∧ run limit s' ts = .ok tree := by
  rw [run] at h
  cases hs : s.step limit t with
  | error fault =>
    rw [hs] at h
    cases h
  | ok s' =>
    rw [hs] at h
    exact ⟨s', rfl, h⟩

theorem run_of_readTokens {limit : Nat} {ts : List Token} {tree : Node}
    (h : readTokens limit ts = .ok tree) : run limit (.operand .start) ts = .ok tree := by
  rw [readTokens] at h
  split at h
  · cases h
  · exact h

/-- The tokens do not go on with what would make a field name the start of a condition. -/
def Ends (ts : List Token) : Prop :=
  ∀ t ∈ ts.head?, t.kind ≠ .colon ∧ ∀ op, t.kind ≠ .comparison op

theorem Ends.nil : Ends [] := by simp [Ends]

theorem ends_cons {t : Token} {ts : List Token} (hc : t.kind ≠ .colon)
    (ho : ∀ op, t.kind ≠ .comparison op) : Ends (t :: ts) := by
  simpa [Ends] using ⟨hc, ho⟩

section chains

variable {α : Type} [Joined α] {Operand : List Token → α → Prop} {limit : Nat}
  {due has : Chain α → State}

/-- The moves inside a group: `due` are the states in which an operand is due, and `has` those in
which one was read. -/
structure Moves (limit : Nat) (due has : Chain α → State) : Prop where
  not {c : Chain α} {t : Token} : t.kind = .not → c.negated = false →
    (due c).step limit t = .ok (due { c with negated := true })
  and {c : Chain α} {t : Token} : t.kind = .and → (has c).step limit t = .ok (due c)
  or {c : Chain α} {t : Token} : t.kind = .or →
    (has c).step limit t = .ok (due (c.alternate (chain Joined.and)))

/-- The tokens of an operand lead from a state where one is due to the state that has it. -/
def TakesIn (limit : Nat) (due has : Chain α → State) (Operand : List Token → α → Prop) : Prop :=
  ∀ (ts rest : List Token) (a : α) (c : Chain α), Operand ts a → Ends rest →
    run limit (due c) (ts ++ rest) = run limit (has (c.push Joined.not a)) rest

theorem run_negatable (hm : Moves limit due has) (ht : TakesIn limit due has Operand)
    {ts rest : List Token} {a : α} {c : Chain α} (h : Negatable Joined.not Operand ts a)
    (hc : c.negated = false) (hr : Ends rest) :
    run limit (due c) (ts ++ rest)
      = run limit (has { c with conjuncts := a :: c.conjuncts }) rest := by
  cases h with
  | plain h => simp [ht _ _ _ _ h hr, Chain.push, hc]
  | negated hk h =>
    rw [List.cons_append, run_cons _ (hm.not hk hc), ht _ _ _ _ h hr]
    simp [Chain.push, hc]

theorem run_conjunction (hm : Moves limit due has) (ht : TakesIn limit due has Operand)
    {ts rest : List Token} {as : List α} {c : Chain α}
    (h : Separated .and (Negatable Joined.not Operand) ts as) (hc : c.negated = false)
    (hr : Ends rest) :
    run limit (due c) (ts ++ rest)
      = run limit (has { c with conjuncts := as.reverse ++ c.conjuncts }) rest := by
  induction h generalizing c with
  | one h => exact run_negatable hm ht h hc hr
  | @cons ts us t a as h hk hs ih =>
    have ha : Ends (t :: (us ++ rest)) := ends_cons (by simp [hk]) (by simp [hk])
    rw [List.append_assoc, List.cons_append, run_negatable hm ht h hc ha, run_cons _ (hm.and hk),
      ih (c := { c with conjuncts := a :: c.conjuncts }) hc]
    simp

theorem run_disjunction (hm : Moves limit due has) (ht : TakesIn limit due has Operand)
    {ts rest : List Token} {as : List α} {c : Chain α} (h : Separated .or (Conjunction Operand) ts as)
    (hc : c.negated = false) (hj : c.conjuncts = []) (hr : Ends rest) :
    ∃ c' : Chain α, run limit (due c) (ts ++ rest) = run limit (has c') rest ∧
      (chain Joined.and c'.conjuncts.reverse :: c'.alternatives).reverse
        = c.alternatives.reverse ++ as := by
  induction h generalizing c with
  | one h =>
    obtain ⟨operands, hs, rfl⟩ := h
    exact ⟨_, run_conjunction hm ht hs hc hr, by simp [hj]⟩
  | @cons ts us t a as h hk hs ih =>
    obtain ⟨operands, hops, rfl⟩ := h
    have ho : Ends (t :: (us ++ rest)) := ends_cons (by simp [hk]) (by simp [hk])
    -- the `or` makes the conjunction so far an alternative, and the rest starts without conjuncts
    obtain ⟨c', hrun, htree⟩ := ih
      (c := Chain.alternate (chain Joined.and) { c with conjuncts := operands.reverse ++ c.conjuncts })
      hc rfl
    refine ⟨c', ?_, ?_⟩
    · rw [List.append_assoc, List.cons_append, run_conjunction hm ht hops hc ho,
        run_cons _ (hm.or hk), hrun]
    · rw [htree]
      simp [Chain.alternate, hj]

/-- The tokens of a group lead from its start to a state that has its tree. -/
def TakesInGroup (limit : Nat) (due has : Chain α → State) (Inside : List Token → α → Prop) :
    Prop :=
  ∀ (ts rest : List Token) (a : α), Inside ts a → Ends rest →
    ∃ c : Chain α, run limit (due .empty) (ts ++ rest) = run limit (has c) rest ∧
      c.finish (chain Joined.and) (chain Joined.or) = a

theorem TakesIn.group (hm : Moves limit due has) (ht : TakesIn limit due has Operand) :
    TakesInGroup limit due has (Disjunction Operand) := by
  rintro ts rest a ⟨as, hs, rfl⟩ hr
  obtain ⟨c, hrun, htree⟩ := run_disjunction hm ht hs (c := Chain.empty) rfl rfl hr
  exact ⟨c, hrun, by rw [Chain.finish, htree]; rfl⟩

end chains

/-! ### Values -/

/-- The state in which a value is due behind the values of `c`. -/
def ValueScope.due (v : ValueScope) (c : Chain Values) : State := .value { v with chain := c }

/-- The state in which the values of `c` were read. -/
def ValueScope.has (v : ValueScope) (c : Chain Values) : State :=
  .valueOperator { v with chain := c }

/-- The scope inside a group that a parenthesis opens behind the values of `c`. -/
def ValueScope.inner (v : ValueScope) (c : Chain Values) (opened : Nat) : ValueScope :=
  { v with chain := .empty, opened, outer := (v.opened, c) :: v.outer }

theorem ValueScope.depth_inner (v : ValueScope) (c : Chain Values) (opened : Nat) :
    (v.inner c opened).depth = v.depth + 1 := by
  simp only [inner, depth, List.length_cons]
  omega

theorem ValueScope.moves (limit : Nat) (v : ValueScope) : Moves limit v.due v.has where
  not hk hc := by simp [due, State.step, valueStep, hk, hc]
  and hk := by simp [due, has, State.step, operatorStep, hk]
  or hk := by simp [due, has, State.step, operatorStep, hk]; rfl

theorem takesIn_value {limit : Nat} {v : ValueScope} {Inside : List Token → Values → Prop}
    (hd : ∀ ts a, Inside ts a → v.depth < limit)
    (hg : ∀ c opened, TakesInGroup limit (v.inner c opened).due (v.inner c opened).has Inside) :
    TakesIn limit v.due v.has (Value Inside) := by
  intro ts rest a c h _
  cases h with
  | @group l r ts a hl h hr =>
    have hopen : (v.due c).step limit l = .ok ((v.inner c l.offset).due .empty) := by
      have hlt : v.depth + 1 ≤ limit := hd _ _ h
      simp only [ValueScope.due, State.step, ValueScope.valueStep, hl, enter]
      exact if_pos hlt
    have hends : Ends (r :: rest) := ends_cons (by simp [hr]) (by simp [hr])
    obtain ⟨c', hrun, rfl⟩ := hg c l.offset _ _ _ h hends
    rw [List.cons_append, run_cons _ hopen, List.append_assoc]
    refine hrun.trans (run_cons _ ?_)
    simp only [ValueScope.has, State.step, ValueScope.operatorStep, hr, ValueScope.inner]
    rfl
  | literal ht =>
    refine run_cons _ ?_
    rcases ht with ht | ht <;>
      simp only [ValueScope.due, State.step, ValueScope.valueStep, ht] <;> rfl
  | wildcard ht =>
    refine run_cons _ ?_
    simp only [ValueScope.due, State.step, ValueScope.valueStep, ht]
    rfl

theorem takesIn_valueGroup {limit k : Nat} {v : ValueScope} (hd : v.depth + k ≤ limit + 1) :
    TakesInGroup limit v.due v.has (ValueGroup k) := by
  induction k generalizing v with
  | zero => exact fun _ _ _ h ↦ h.elim
  | succ k ih =>
    refine (takesIn_value ?_ ?_).group (v.moves limit)
    · intro ts a h
      cases k with
      | zero => exact h.elim
      | succ k => omega
    · intro c opened
      exact ih (by rw [v.depth_inner]; omega)

/-- The values of a level, behind the colon of a field. -/
theorem run_vals {limit k : Nat} {s : Scope} {ts rest : List Token} {v : Values} (name : String)
    (hd : s.frames.length + k ≤ limit) (h : Vals k ts v) :
    run limit (.colon name s) (ts ++ rest)
      = run limit (.operator (s.push (.field name v))) rest := by
  cases h with
  | @group l r ts v hl h hr =>
    cases k with
    | zero => exact h.elim
    | succ k =>
      let inner : ValueScope := ⟨name, .empty, l.offset, [], s⟩
      have hdepth : inner.depth = s.frames.length + 1 := by
        simp only [inner, ValueScope.depth, List.length_nil]
        omega
      have hopen : (State.colon name s).step limit l = .ok (inner.due .empty) := by
        have hlt : s.frames.length + 1 ≤ limit := by omega
        simp only [State.step, Scope.valuesStep, hl, enter]
        exact if_pos hlt
      have hends : Ends (r :: rest) := ends_cons (by simp [hr]) (by simp [hr])
      have hinner : inner.depth + (k + 1) ≤ limit + 1 := by omega
      obtain ⟨c', hrun, rfl⟩ := takesIn_valueGroup hinner _ _ _ h hends
      rw [List.cons_append, run_cons _ hopen, List.append_assoc]
      refine hrun.trans (run_cons _ ?_)
      simp only [ValueScope.has, State.step, ValueScope.operatorStep, hr, inner]
      rfl
  | literal ht =>
    refine run_cons _ ?_
    rcases ht with ht | ht <;> simp only [State.step, Scope.valuesStep, ht]
  | wildcard ht =>
    refine run_cons _ ?_
    simp only [State.step, Scope.valuesStep, ht]

/-! ### Conditions -/

/-- The state in which a condition is due behind those of `c`. -/
def dueIn (frames : List Frame) (c : Chain Node) : State := .operand ⟨c, frames⟩

/-- The state in which the conditions of `c` were read. -/
def hasIn (frames : List Frame) (c : Chain Node) : State := .operator ⟨c, frames⟩

theorem moves_scope (limit : Nat) (frames : List Frame) :
    Moves limit (dueIn frames) (hasIn frames) where
  not hk hc := by simp [dueIn, State.step, Scope.operandStep, hk, hc]
  and hk := by simp [dueIn, hasIn, State.step, Scope.operatorStep, hk]
  or hk := by simp [dueIn, hasIn, State.step, Scope.operatorStep, hk]; rfl

theorem step_operand_text (limit : Nat) (s : Scope) {t : Token} (h : t.IsText) :
    (State.operand s).step limit t = .ok (.field t.value s) := by
  rcases h with h | h <;> simp only [State.step, Scope.operandStep, h]

/-- Where neither a colon nor a comparison follows, a field name is a condition of its own. -/
theorem run_field {limit : Nat} {name : String} {s : Scope} {rest : List Token} (h : Ends rest) :
    run limit (.field name s) rest = run limit (.operator (s.push (.present name))) rest := by
  cases rest with
  | nil => rfl
  | cons t rest =>
    obtain ⟨hc, ho⟩ := h t rfl
    have hs : (State.field name s).step limit t
        = (State.operator (s.push (.present name))).step limit t := by
      cases hk : t.kind <;> simp_all [State.step]
    rw [run, run, hs]

theorem takesIn_condition {limit k : Nat} {frames : List Frame} {Inside : List Token → Node → Prop}
    (hk : frames.length + k ≤ limit) (hd : ∀ ts a, Inside ts a → frames.length < limit)
    (hg : ∀ frame, TakesInGroup limit (dueIn (frame :: frames)) (hasIn (frame :: frames)) Inside) :
    TakesIn limit (dueIn frames) (hasIn frames) (Condition Inside (Vals k)) := by
  intro ts rest a c h hends
  cases h with
  | @group l r ts a hl h hr =>
    have hopen : (dueIn frames c).step limit l = .ok (dueIn (.group l.offset c :: frames) .empty) := by
      simp only [dueIn, State.step, Scope.operandStep, hl, enter]
      exact if_pos (hd _ _ h)
    have hends' : Ends (r :: rest) := ends_cons (by simp [hr]) (by simp [hr])
    obtain ⟨c', hrun, rfl⟩ := hg (.group l.offset c) _ _ _ h hends'
    rw [List.cons_append, run_cons _ hopen, List.append_assoc]
    refine hrun.trans (run_cons _ ?_)
    simp only [hasIn, State.step, Scope.operatorStep, hr, if_true]
    rfl
  | @nested f o l r ts n hf ho hl h hr =>
    have hopen : (State.colon f.value ⟨c, frames⟩).step limit l
        = .ok (dueIn (.nested f.value l.offset c :: frames) .empty) := by
      simp only [dueIn, State.step, Scope.valuesStep, hl, enter]
      exact if_pos (hd _ _ h)
    have hcolon : (State.field f.value ⟨c, frames⟩).step limit o
        = .ok (.colon f.value ⟨c, frames⟩) := by
      simp only [State.step, ho]
    have hends' : Ends (r :: rest) := ends_cons (by simp [hr]) (by simp [hr])
    obtain ⟨c', hrun, rfl⟩ := hg (.nested f.value l.offset c) _ _ _ h hends'
    rw [List.cons_append, dueIn, run_cons _ (step_operand_text limit _ hf), List.cons_append,
      run_cons _ hcolon, List.cons_append, run_cons _ hopen, List.append_assoc]
    refine hrun.trans (run_cons _ ?_)
    simp only [hasIn, State.step, Scope.operatorStep, hr, if_true]
    rfl
  | @field f o ts v hf ho h =>
    have hcolon : (State.field f.value ⟨c, frames⟩).step limit o
        = .ok (.colon f.value ⟨c, frames⟩) := by
      simp only [State.step, ho]
    rw [List.cons_append, dueIn, run_cons _ (step_operand_text limit _ hf), List.cons_append,
      run_cons _ hcolon]
    exact run_vals f.value hk h
  | @compare f o w op hf ho hw =>
    have hcomp : (State.field f.value ⟨c, frames⟩).step limit o
        = .ok (.comparison f.value op ⟨c, frames⟩) := by
      simp only [State.step, ho]
    rw [List.cons_append, dueIn, run_cons _ (step_operand_text limit _ hf), List.cons_append,
      run_cons _ hcomp]
    refine run_cons _ ?_
    rcases hw with hw | hw <;> simp only [State.step, hw] <;> rfl
  | @present f hf =>
    rw [List.singleton_append, dueIn, run_cons _ (step_operand_text limit _ hf)]
    exact run_field hends

theorem takesIn_group {limit k : Nat} {frames : List Frame}
    (hd : frames.length + k ≤ limit + 1) :
    TakesInGroup limit (dueIn frames) (hasIn frames) (Group k) := by
  induction k generalizing frames with
  | zero => exact fun _ _ _ h ↦ h.elim
  | succ k ih =>
    refine (takesIn_condition (by omega) ?_ ?_).group (moves_scope limit frames)
    · intro ts a h
      cases k with
      | zero => exact h.elim
      | succ k => omega
    · intro frame
      exact ih (by rw [List.length_cons]; omega)

/-- **The machine reads every query of its level.** -/
theorem readTokens_of_isQuery {limit : Nat} {ts : List Token} {tree : Node}
    (h : IsQuery limit ts tree) : readTokens limit ts = .ok tree := by
  have hd : ([] : List Frame).length + (limit + 1) ≤ limit + 1 := by simp
  obtain ⟨c, hrun, rfl⟩ := takesIn_group hd ts [] tree h .nil
  rw [List.append_nil] at hrun
  cases ts with
  | nil => simp [run, dueIn, hasIn, State.finish, Scope.close] at hrun
  | cons t ts => exact hrun

end LogSearch.Kql
