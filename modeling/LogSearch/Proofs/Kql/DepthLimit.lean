import LogSearch.Proofs.Kql.Quoting

/-!
# The depth limit

The limit on the depth of groups only cuts a reading off.  Two machines under different limits go
through the same states until one of them comes to an opening delimiter that it has no room for; that
one stops with an error which names its limit, and nothing else tells the two apart (`run_cutoff`).

Where the cut is can be read off the tokens without the machine: at an opening delimiter with as many
groups open around it as the limit allows, if the tokens up to it are the start of a query at all
(`run_eq_tooDeep_iff`).  So a limit that is not below the number of opening delimiters never cuts.

## What is here

* `State.step_eq_enter_or` — what the limit has to do with one token;
* `run_cutoff` — a run under two limits;
* `State.step_of_tooDeep`, `run_eq_tooDeep_iff` — where a reading is cut off;
* `MeetsLimit`, `openingDelimiters` — a text with such a place, and its number of delimiters;
* `parse_cutoff` — the limit only cuts off.
-/

set_option autoImplicit false
namespace LogSearch.Kql

/-! ## Two limits -/

section cutoff

variable {limit limit' : Nat} {s s' : State} {ts : List Token}

theorem enter_cutoff (h : limit ≤ limit') (depth : Nat) (inside : State) :
    enter limit depth inside = .error (.tooDeep limit) ∨
      enter limit depth inside = enter limit' depth inside := by
  rw [enter, enter]
  split
  · next hroom => exact .inr (if_pos (hroom.trans h)).symm
  · exact .inl rfl

/-- **What the limit has to do with a token**: the token opens a group if there is room for it, or it
leads to the same under every limit. -/
theorem State.step_eq_enter_or (s : State) (t : Token) :
    (∃ inside, ∀ limit, s.step limit t = enter limit s.depth inside) ∨
      ∀ limit limit', s.step limit t = s.step limit' t := by
  by_cases hopens : t.Opens
  · cases s with
    | operand s =>
      rcases hopens with hk | hk
      · refine .inl ⟨.operand ⟨.empty, .group t.offset s.chain :: s.frames⟩, fun limit ↦ ?_⟩
        simp only [step, Scope.operandStep, hk, depth]
      · refine .inr fun limit limit' ↦ ?_
        simp only [step, Scope.operandStep, hk]
    | colon name s =>
      rcases hopens with hk | hk
      · refine .inl ⟨.value ⟨name, .empty, t.offset, [], s⟩, fun limit ↦ ?_⟩
        simp only [step, Scope.valuesStep, hk, depth]
      · refine .inl ⟨.operand ⟨.empty, .nested name t.offset s.chain :: s.frames⟩, fun limit ↦ ?_⟩
        simp only [step, Scope.valuesStep, hk, depth]
    | value v =>
      rcases hopens with hk | hk
      · let inner : ValueScope :=
          { v with chain := .empty, opened := t.offset, outer := (v.opened, v.chain) :: v.outer }
        refine .inl ⟨.value inner, fun limit ↦ ?_⟩
        simp only [step, ValueScope.valueStep, hk, depth, inner]
      · refine .inr fun limit limit' ↦ ?_
        simp only [step, ValueScope.valueStep, hk]
    | field | comparison | operator | valueOperator => exact .inr fun _ _ ↦ rfl
  · exact .inr fun limit limit' ↦ step_of_not_opens hopens limit limit' s

theorem State.step_cutoff (h : limit ≤ limit') (s : State) (t : Token) :
    s.step limit t = .error (.tooDeep limit) ∨ s.step limit t = s.step limit' t := by
  rcases s.step_eq_enter_or t with ⟨inside, henter⟩ | hsame
  · rw [henter, henter]
    exact enter_cutoff h s.depth inside
  · exact .inr (hsame limit limit')

/-- **A run under two limits** ends the same, unless the smaller one cuts it off. -/
theorem run_cutoff (h : limit ≤ limit') (s : State) (ts : List Token) :
    run limit s ts = .error (.tooDeep limit) ∨ run limit s ts = run limit' s ts := by
  induction ts generalizing s with
  | nil => exact .inr rfl
  | cons t ts ih =>
    rw [run, run]
    rcases s.step_cutoff h t with hs | hs
    · rw [hs]
      exact .inl rfl
    · rw [hs]
      cases s.step limit' t with
      | error fault => exact .inr rfl
      | ok s' => exact ih s'

/-- Up to the cut the smaller limit leads through the same states. -/
theorem Reaches.cutoff (h : limit ≤ limit') (hreach : Reaches limit' s ts s') :
    (∀ us, run limit s (ts ++ us) = .error (.tooDeep limit)) ∨ Reaches limit s ts s' := by
  induction hreach with
  | refl s => exact .inr (.refl s)
  | @step s s' s'' t ts hs _ ih =>
    rcases s.step_cutoff h t with hcut | hsame
    · refine .inl fun us ↦ ?_
      rw [List.cons_append, run, hcut]
      rfl
    · have hstep := hsame.trans hs
      rcases ih with hcut | hreach
      · refine .inl fun us ↦ ?_
        rw [List.cons_append, run_cons _ hstep, hcut]
      · exact .inr (.step hstep hreach)

theorem Reaches.mono (h : limit ≤ limit') (hreach : Reaches limit s ts s') :
    Reaches limit' s ts s' := by
  induction hreach with
  | refl s => exact .refl s
  | @step s s' s'' t ts hs _ ih =>
    rcases s.step_cutoff h t with hcut | hsame
    · cases hcut.symm.trans hs
    · exact .step (hsame.symm.trans hs) ih

end cutoff

/-! ## Where a reading is cut off -/

section cut

variable {limit bound : Nat} {s s' s'' : State} {t : Token} {ts us : List Token} {tree : Node}

theorem enter_eq_error_iff {depth : Nat} {inside : State} {fault : ParseFault} :
    enter limit depth inside = .error fault ↔ limit ≤ depth ∧ fault = .tooDeep limit := by
  rw [enter]
  split
  · next hroom =>
    constructor
    · rintro ⟨⟩
    · rintro ⟨hle, -⟩
      omega
  · next hroom =>
    constructor
    · rintro ⟨⟩
      exact ⟨by omega, rfl⟩
    · rintro ⟨-, rfl⟩
      rfl

/-- **Where a reading is cut off**, a group should be opened for which there is no room; under every
limit with room for it the reading goes on. -/
theorem State.step_of_tooDeep (h : s.step limit t = .error (.tooDeep bound)) :
    bound = limit ∧ t.Opens ∧ limit ≤ s.depth ∧
      ∃ s', ∀ limit', s.depth < limit' → s.step limit' t = .ok s' := by
  rcases fault_of_step h with ⟨expected, hfault⟩ | ⟨hfault, hopens⟩
  · cases hfault
  · cases hfault
    rcases s.step_eq_enter_or t with ⟨inside, henter⟩ | hsame
    · refine ⟨rfl, hopens, ?_, inside, fun limit' hlt ↦ ?_⟩
      · rw [henter] at h
        exact (enter_eq_error_iff.1 h).1
      · rw [henter]
        exact enter_eq_ok_iff.2 ⟨hlt, rfl⟩
    -- A token that the limit has nothing to do with is never refused with the limit.
    · have hnext : s.step (limit + 1) t = .error (.tooDeep limit) := (hsame _ _).trans h
      rcases fault_of_step hnext with ⟨expected, hfault⟩ | ⟨hfault, -⟩
      · cases hfault
      · simp at hfault

theorem Reaches.depth_le (h : Reaches limit s ts s') (hs : s.depth ≤ limit) : s'.depth ≤ limit := by
  induction h with
  | refl s => exact hs
  | step h _ ih => exact ih (State.depth_le_of_step h hs)

theorem Reaches.concat (h : Reaches limit s ts s') (hs : s'.step limit t = .ok s'') :
    Reaches limit s (ts ++ [t]) s'' := by
  induction h with
  | refl s => exact .step hs (.refl s'')
  | step h _ ih => exact .step h (ih hs)

theorem exists_reaches_of_run (h : run limit s (ts ++ us) = .ok tree) :
    ∃ s', Reaches limit s ts s' ∧ run limit s' us = .ok tree := by
  induction ts generalizing s with
  | nil => exact ⟨s, .refl s, h⟩
  | cons t ts ih =>
    obtain ⟨s', hs, hrun⟩ := exists_step_of_run h
    obtain ⟨s'', hreach, hrest⟩ := ih hrun
    exact ⟨s'', .step hs hreach, hrest⟩

/-- As many groups are open in the machine as the tokens leave open. -/
theorem Reaches.length_stillOpen (h : Reaches limit (.operand .start) ts s) :
    (stillOpen ts).length = s.depth := by
  have hopeners : s.openers = (stillOpen ts).map Token.opener := h.openers rfl
  rw [← State.length_openers, hopeners, List.length_map]

/-- **A reading is cut off** exactly at an opening delimiter with as many groups open around it as the
limit allows, if the tokens up to it are the start of a query. -/
theorem run_eq_tooDeep_iff :
    run limit (.operand .start) ts = .error (.tooDeep bound) ↔
      bound = limit ∧ ∃ before t behind, ts = before ++ t :: behind ∧ t.Opens ∧
        (stillOpen before).length = limit ∧ ∃ level, Viable level (before ++ [t]) := by
  constructor
  · intro h
    rcases run_eq_error h with ⟨before, t, behind, s, rfl, hreach, hs⟩ | ⟨s, -, hs⟩
    · obtain ⟨hbound, hopens, hle, s', hs'⟩ := State.step_of_tooDeep hs
      have hdepth : s.depth = limit := Nat.le_antisymm (hreach.depth_le (Nat.zero_le _)) hle
      have hnext : s.step (limit + 1) t = .ok s' := hs' _ (by omega)
      have hviable := ((hreach.mono (Nat.le_succ limit)).concat hnext).viable
      exact ⟨hbound, before, t, behind, rfl, hopens, hreach.length_stillOpen.trans hdepth, _, hviable⟩
    · rcases State.fault_of_finish hs with ⟨expected, hfault⟩ | ⟨-, opener, rest, -, hfault⟩
      · cases hfault
      · cases hfault
  · rintro ⟨rfl, before, t, behind, rfl, hopens, hlength, level, us, hus⟩
    obtain ⟨tree, hrun⟩ := accepted_iff_run.1 hus
    rw [List.append_assoc] at hrun
    obtain ⟨s, hreach, hrest⟩ := exists_reaches_of_run hrun
    obtain ⟨s', hs, -⟩ := exists_step_of_run hrest
    have hdepth : s.depth = bound := hreach.length_stillOpen.symm.trans hlength
    have hroom := (State.step_of_opens hopens hs).1
    have hle : bound ≤ level := by omega
    rcases hreach.cutoff hle with hcut | hreach
    · exact hcut (t :: behind)
    · rw [hreach.run_append, run]
      rcases s.step_cutoff hle t with hcut | hsame
      · rw [hcut]
        rfl
      · have hlt := (State.step_of_opens hopens (hsame.trans hs)).1
        omega

/-- Tokens that can go on to a query are the start of one that the grammar derives. -/
theorem viable_concat_iff :
    Viable limit (ts ++ [t]) ↔ ∃ us tree, IsQuery limit (ts ++ t :: us) tree := by
  simp only [Viable, Accepted, readTokens_eq_ok_iff, List.append_assoc, List.singleton_append]

end cut

/-! ## Texts -/

instance : DecidablePred Token.Opens := fun t ↦
  inferInstanceAs (Decidable (t.kind = .leftParen ∨ t.kind = .leftBrace))

/-- Some opening delimiter of the text has so many groups open around it and is reached before anything
is wrong: the grammar has queries, of any depth, that start with the tokens up to it. -/
def MeetsLimit (limit : Nat) (text : String) : Prop :=
  ∃ tokens before t behind, tokenize text = .ok tokens ∧ tokens = before ++ t :: behind ∧ t.Opens ∧
    (stillOpen before).length = limit ∧ ∃ level us tree, IsQuery level (before ++ t :: us) tree

/-- The number of opening delimiters in a text. -/
def openingDelimiters (text : String) : Nat :=
  match tokenize text with
  | .ok tokens => tokens.countP fun t ↦ t.Opens
  | .error _ => 0

section texts

variable {limit limit' bound : Nat} {text : String} {t : Token} {ts : List Token}

theorem tokenize_ne_tooDeep : tokenize text ≠ .error (.tooDeep bound) := by
  intro h
  rw [tokenize] at h
  split at h
  · cases h
  · next fault _ => cases fault <;> cases h

theorem toError_eq_tooDeep_iff {fault : ParseFault} :
    fault.toError text = .tooDeep bound ↔ fault = .tooDeep bound := by
  cases fault with
  | unexpected t expected =>
    rw [ParseFault.toError]
    split <;> simp
  | unexpectedEnd | empty | missingParenthesis | missingBrace | tooDeep => simp [ParseFault.toError]

theorem readTokens_eq_tooDeep_iff :
    readTokens limit ts = .error (.tooDeep bound) ↔
      run limit (.operand .start) ts = .error (.tooDeep bound) := by
  cases ts with
  | nil =>
    constructor
    · rintro ⟨⟩
    · rintro ⟨⟩
  | cons t ts => exact Iff.rfl

theorem parse_eq_tooDeep_iff :
    parse limit text = .error (.tooDeep bound) ↔ ∃ tokens, tokenize text = .ok tokens ∧
      run limit (.operand .start) tokens = .error (.tooDeep bound) := by
  rw [parse]
  cases h : tokenize text with
  | error error =>
    constructor
    · rintro ⟨⟩
      exact absurd h tokenize_ne_tooDeep
    · rintro ⟨tokens, ⟨⟩, -⟩
  | ok tokens =>
    have hread : parseTokens limit text tokens = .error (.tooDeep bound) ↔
        readTokens limit tokens = .error (.tooDeep bound) := by
      rw [parseTokens]
      cases readTokens limit tokens with
      | error fault => simp [Except.mapError, toError_eq_tooDeep_iff]
      | ok tree =>
        constructor
        · rintro ⟨⟩
        · rintro ⟨⟩
    simpa [bind, Except.bind, readTokens_eq_tooDeep_iff] using hread

theorem parse_eq_tooDeep_iff_meetsLimit :
    parse limit text = .error (.tooDeep bound) ↔ bound = limit ∧ MeetsLimit limit text := by
  rw [parse_eq_tooDeep_iff]
  simp only [run_eq_tooDeep_iff, viable_concat_iff]
  constructor
  · rintro ⟨tokens, htokens, hbound, before, t, behind, hsplit, hcut⟩
    exact ⟨hbound, tokens, before, t, behind, htokens, hsplit, hcut⟩
  · rintro ⟨hbound, tokens, before, t, behind, htokens, hsplit, hcut⟩
    exact ⟨tokens, htokens, hbound, before, t, behind, hsplit, hcut⟩

theorem parse_cutoff_or (h : limit ≤ limit') (text : String) :
    parse limit text = .error (.tooDeep limit) ∨ parse limit text = parse limit' text := by
  rw [parse_eq_tooDeep_iff, parse, parse]
  cases tokenize text with
  | error error => exact .inr rfl
  | ok tokens =>
    rcases run_cutoff h (.operand .start) tokens with hcut | hsame
    · exact .inl ⟨tokens, rfl, hcut⟩
    · refine .inr ?_
      have hread : readTokens limit tokens = readTokens limit' tokens := by
        rw [readTokens, readTokens, hsame]
      exact congrArg (Except.mapError (·.toError text)) hread

theorem Token.length_nest_le {α : Type} (t : Token) (a : α) (opened : List α) :
    (t.nest a opened).length ≤ opened.length + if t.Opens then 1 else 0 := by
  cases hk : t.kind <;> simp [nest, Opens, hk]

theorem length_stillOpen_le (ts : List Token) : (stillOpen ts).length ≤ ts.countP fun t ↦ t.Opens := by
  have hfold : ∀ opened : List Token, (ts.foldl (fun opened t ↦ t.nest t opened) opened).length
      ≤ opened.length + ts.countP fun t ↦ t.Opens := by
    induction ts with
    | nil => exact fun opened ↦ Nat.le_refl _
    | cons t ts ih =>
      intro opened
      have hstep := t.length_nest_le t opened
      have hrest := ih (t.nest t opened)
      rw [List.foldl_cons, List.countP_cons]
      simp only [decide_eq_true_eq]
      omega
  simpa [stillOpen] using hfold []

/-- Fewer groups are open around an opening delimiter than the text has opening delimiters. -/
theorem MeetsLimit.lt (h : MeetsLimit limit text) : limit < openingDelimiters text := by
  obtain ⟨tokens, before, t, behind, htokens, rfl, hopens, hlength, -⟩ := h
  have hbefore := length_stillOpen_le before
  simp only [openingDelimiters, htokens, List.countP_append, List.countP_cons, hopens, decide_true,
    if_true]
  omega

/-- Whether a character is an opening delimiter, where it is not part of a literal. -/
def IsOpening (c : Char) : Prop := c = '(' ∨ c = '{'

instance : DecidablePred IsOpening := fun c ↦ inferInstanceAs (Decidable (c = '(' ∨ c = '{'))

theorem Lexeme.StandsBefore.exists_isOpening {l : Lexeme} {rest : List Char} (hl : l.StandsBefore rest)
    (hopens : l.kind = .leftParen ∨ l.kind = .leftBrace) : ∃ c ∈ l.slice, IsOpening c := by
  rcases hopens with hk | hk
  · have hslice : l.slice = ['('] := hl.slice_eq (by rw [hk]; rfl)
    exact ⟨'(', by simp [hslice], .inl rfl⟩
  · have hslice : l.slice = ['{'] := hl.slice_eq (by rw [hk]; rfl)
    exact ⟨'{', by simp [hslice], .inr rfl⟩

theorem Sliced.countP_opens_le {cs : List Char} {found : List (List Char × Lexeme)}
    (h : Sliced cs found) (offset : Nat) :
    (placeTokens offset found).countP (fun t ↦ t.Opens) ≤ cs.countP fun c ↦ IsOpening c := by
  induction h generalizing offset with
  | blank => exact Nat.zero_le _
  | @lexeme blanks rest l found hblanks hl h ih =>
    have hrest := ih (offset + Text.Utf8.size blanks + Text.Utf8.size l.slice)
    simp only [placeTokens, List.countP_cons, List.countP_append, decide_eq_true_eq]
    split
    · next hopens =>
      have hslice : 0 < l.slice.countP fun c ↦ IsOpening c := by
        rw [List.countP_pos_iff]
        simpa using hl.exists_isOpening hopens
      omega
    · omega

/-- No more delimiters open groups than the text has such characters. -/
theorem openingDelimiters_le (text : String) :
    openingDelimiters text ≤ text.toList.countP fun c ↦ IsOpening c := by
  rw [openingDelimiters]
  split
  · next tokens htokens =>
    obtain ⟨found, hsliced, rfl⟩ := exists_sliced_of_tokenize htokens
    exact hsliced.countP_opens_le 0
  · exact Nat.zero_le _

/-- **The limit only cuts off.**  A text is read the same under two limits, as the same tree or with the
same error, unless the smaller one cuts it off.  It does so exactly at an opening delimiter that is
reached with as many groups open around it as it allows, and so never if it allows as many groups as
the text has opening delimiters. -/
theorem parse_cutoff (text : String) :
    (∀ limit limit', limit ≤ limit' →
      parse limit text = .error (.tooDeep limit) ∨ parse limit text = parse limit' text) ∧
    (∀ limit bound,
      parse limit text = .error (.tooDeep bound) ↔ bound = limit ∧ MeetsLimit limit text) ∧
    (∀ limit, openingDelimiters text ≤ limit → ∀ bound, parse limit text ≠ .error (.tooDeep bound)) ∧
    openingDelimiters text ≤ text.toList.countP fun c ↦ IsOpening c := by
  refine ⟨fun limit limit' h ↦ parse_cutoff_or h text,
    fun limit bound ↦ parse_eq_tooDeep_iff_meetsLimit, fun limit hle bound hcut ↦ ?_,
    openingDelimiters_le text⟩
  have hlt := (parse_eq_tooDeep_iff_meetsLimit.1 hcut).2.lt
  omega

/-- A text of three groups, two of them inside each other, and one in which an error comes first. -/
theorem parse_cutoff_samples :
    let text := "(a) and x:\x7b y:(b) \x7d"
    (parse 1 text = .error (.tooDeep 1) ∧ MeetsLimit 1 text) ∧
    (parse 2 text = .ok (.and [.present "a", .nested "x" (.field "y" (.literal "b"))]) ∧
      parse 2 text = parse 5 text) ∧
    (openingDelimiters text = 3 ∧ ∀ bound, parse 3 text ≠ .error (.tooDeep bound)) ∧
    (parse 0 "a) or (b" = .error (.unexpectedToken ")" 1 ") or (b" .operatorOrEnd) ∧
      ¬ MeetsLimit 0 "a) or (b") := by
  intro text
  have hcut : parse 1 text = .error (.tooDeep 1) := by
    rw [parse, tokenize, lexemes_eq_within (Nat.le_refl _)]
    decide +kernel
  have htree : parse 2 text = .ok (.and [.present "a", .nested "x" (.field "y" (.literal "b"))]) := by
    rw [parse, tokenize, lexemes_eq_within (Nat.le_refl _)]
    decide +kernel
  have hcount : openingDelimiters text = 3 := by
    rw [openingDelimiters, tokenize, lexemes_eq_within (Nat.le_refl _)]
    decide +kernel
  have herror : parse 0 "a) or (b" = .error (.unexpectedToken ")" 1 ") or (b" .operatorOrEnd) := by
    rw [parse, tokenize, lexemes_eq_within (Nat.le_refl _)]
    decide +kernel
  obtain ⟨hlimits, hmeets, hnever, -⟩ := parse_cutoff text
  refine ⟨⟨hcut, ((hmeets 1 1).1 hcut).2⟩, ⟨htree, ?_⟩, ⟨hcount, hnever 3 hcount.le⟩, herror, ?_⟩
  · rcases hlimits 2 5 (by decide) with hcut | hsame
    · cases htree.symm.trans hcut
    · exact hsame
  · intro hreached
    cases herror.symm.trans (((parse_cutoff "a) or (b").2.1 0 0).2 ⟨rfl, hreached⟩)

end texts

end LogSearch.Kql
