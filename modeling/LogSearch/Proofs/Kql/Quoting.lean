import LogSearch.Proofs.Kql.Faults
import LogSearch.Proofs.Kql.Scanning
import Mathlib.Algebra.Ring.Int.Defs
import Mathlib.Data.Int.Order.Basic

/-!
# What errors quote

An error says where it is and quotes what stands there.  Places come from the lexer and are used much
later, to cut the text that an error quotes; they are right because every token is a slice of the text
at its place, and because a fault of the lexer leaves unread just what stands from its place on.

The reader of the grammar counts the groups that are open.  The counter goes up in front of each group
and down behind it, also where the group is not closed as it should be, and it is never below zero.

## What is here

* `readEscape_error`, `backslashes`, `escapesNext_of_closeQuote` — what is known of the text at a fault;
* `Counted`, `Reaches.counted` — the counter of open groups;
* `SplitsAt`, `Quotes` — a place in a text, and what an error says of the text;
* `parse_error_quotes` — errors quote the text truly.
-/

set_option autoImplicit false
namespace LogSearch.Kql

/-! ## The text at a fault -/

section faults

variable {cs rest sequence : List Char}

/-- A sequence that is no escape is what stands behind the backslash, as far as it was read. -/
theorem readEscape_error (h : readEscape cs = .error sequence) :
    ∃ taken, sequence = '\\' :: taken ∧ taken <+: cs := by
  cases cs with
  | nil =>
    cases h
    exact ⟨[], rfl, List.prefix_rfl⟩
  | cons c cs =>
    by_cases hu : c = 'u'
    · subst hu
      rw [readEscape_u] at h
      unfold readCodePoint at h
      split at h
      · next p q r s rest =>
        split at h
        · split at h
          · cases h
          · cases h
            exact ⟨['u', p, q, r, s], rfl, rest, rfl⟩
        · cases h
          exact ⟨['u'], rfl, p :: q :: r :: s :: rest, rfl⟩
      · cases h
        exact ⟨['u'], rfl, cs, rfl⟩
    · unfold readEscape at h
      dsimp only at h
      split at h
      · cases h
      · split at h
        case h_4 => exact absurd rfl hu
        case h_5 =>
          split at h
          · cases h
          · cases h
            exact ⟨[c], rfl, cs, rfl⟩
        all_goals cases h

/-- The number of backslashes that a text ends with. -/
def backslashes (cs : List Char) : Nat := (cs.reverse.takeWhile (· = '\\')).length

theorem backslashes_concat (cs : List Char) (c : Char) :
    backslashes (cs ++ [c]) = if c = '\\' then backslashes cs + 1 else 0 := by
  rw [backslashes, List.reverse_append, List.reverse_singleton, List.singleton_append,
    List.takeWhile_cons]
  split
  · next h => rw [if_pos (of_decide_eq_true h), List.length_cons, backslashes]
  · next h => rw [if_neg (by simpa using h), List.length_nil]

/-- Whether what follows a text between quotes is escaped. -/
def escapesNext (escaped : Bool) (cs : List Char) : Bool :=
  cs.foldl (fun escaped c ↦ c = '\\' && !escaped) escaped

theorem escapesNext_eq_true_iff (cs : List Char) :
    escapesNext false cs = true ↔ backslashes cs % 2 = 1 := by
  induction cs using List.reverseRecOn with
  | nil => simp [escapesNext, backslashes]
  | append_singleton cs c ih =>
    rw [escapesNext, List.foldl_append, List.foldl_cons, List.foldl_nil, ← escapesNext,
      backslashes_concat]
    by_cases hc : c = '\\'
    · rw [if_pos hc, Bool.and_eq_true, Bool.not_eq_true', ← Bool.not_eq_true, ih]
      simp only [hc, decide_true, true_and]
      omega
    · simp [hc]

/-- **A literal is not closed only if every quote in it is escaped**. -/
theorem escapesNext_of_closeQuote {escaped : Bool} {inside behind : List Char}
    (h : closeQuote escaped (inside ++ '"' :: behind) = none) : escapesNext escaped inside = true := by
  induction inside generalizing escaped with
  | nil =>
    rw [List.nil_append, closeQuote] at h
    cases escaped with
    | true => rfl
    | false => cases h
  | cons c inside ih =>
    rw [List.cons_append, closeQuote] at h
    split at h
    · cases h
    · exact ih (Option.map_eq_none_iff.1 h)

end faults

/-! ## The counter of open groups -/

/-- What a token does to a counter of open groups. -/
def Token.delta (t : Token) : Int :=
  match t.kind with
  | .leftParen | .leftBrace => 1
  | .rightParen | .rightBrace => -1
  | _ => 0

/-- The fault is found where the innermost group should be closed. -/
def ParseFault.AtCloser : ParseFault → Prop
  | .unexpected _ expected => expected = .operatorOrCloser ∨ expected = .matchingCloser
  | .missingParenthesis _ | .missingBrace _ => True
  | _ => False

/-- A counter that goes up with each group that is opened, and down with each that is closed or should
be, never falls below zero: behind the tokens it is at the number of open groups, and where a group
should be closed one is open. -/
structure Counted (limit : Nat) (before : List Token) (s : State) : Prop where
  counter : (before.map Token.delta).sum = s.depth
  step : ∀ t fault, s.step limit t = .error fault → fault.AtCloser → 0 < s.depth
  finish : ∀ fault, s.finish = .error fault → fault.AtCloser → 0 < s.depth

section counter

variable {limit : Nat} {s s' : State} {t : Token} {ts : List Token} {fault : ParseFault}

/-- Where no group is open, none is closed, and no fault is about closing one. -/
theorem Scope.operatorStep_nil (c : Chain Node) :
    Scope.operatorStep ⟨c, []⟩ t = .error (.unexpected t .operatorOrEnd) ∨ t.delta = 0 ∧
      ∃ s', Scope.operatorStep ⟨c, []⟩ t = .ok s' := by
  rw [operatorStep, Token.delta]
  cases t.kind <;> simp

theorem Scope.frames_of_operatorStep {s : Scope} (h : s.operatorStep t = .ok s') (ht : t.delta ≠ 0) :
    0 < s.frames.length := by
  obtain ⟨c, _ | ⟨frame, frames⟩⟩ := s
  · rcases operatorStep_nil (t := t) c with hstep | ⟨hdelta, -⟩
    · cases hstep.symm.trans h
    · exact absurd hdelta ht
  · exact Nat.succ_pos _

theorem Scope.frames_of_operatorStep_error {s : Scope} (h : s.operatorStep t = .error fault)
    (hfault : fault.AtCloser) : 0 < s.frames.length := by
  obtain ⟨c, _ | ⟨frame, frames⟩⟩ := s
  · rcases operatorStep_nil (t := t) c with hstep | ⟨-, s', hstep⟩
    · cases hstep.symm.trans h
      rcases hfault with hfault | hfault <;> cases hfault
    · cases hstep.symm.trans h
  · exact Nat.succ_pos _

theorem not_atCloser_of_enter {depth : Nat} {inside : State}
    (h : enter limit depth inside = .error fault) : ¬ fault.AtCloser := by
  rw [error_of_enter h]
  exact id

theorem ValueScope.depth_pos (v : ValueScope) : 0 < v.depth := by
  rw [depth]
  omega

/-- Only where a group is open can a token fail to close it. -/
theorem State.depth_pos_of_step_error (h : s.step limit t = .error fault) (hfault : fault.AtCloser) :
    0 < s.depth := by
  cases s with
  | operand s =>
    simp only [step, Scope.operandStep] at h
    split at h
    · split at h <;> cases h
      simp [ParseFault.AtCloser] at hfault
    · exact absurd hfault (not_atCloser_of_enter h)
    all_goals cases h
    all_goals simp [ParseFault.AtCloser] at hfault
  | field name s =>
    simp only [step] at h
    split at h
    · cases h
    · cases h
    · exact Scope.frames_of_operatorStep_error (s := s.push (.present name)) h hfault
  | colon name s =>
    simp only [step, Scope.valuesStep] at h
    split at h
    · exact absurd hfault (not_atCloser_of_enter h)
    · exact absurd hfault (not_atCloser_of_enter h)
    all_goals cases h
    simp [ParseFault.AtCloser] at hfault
  | comparison name op s =>
    simp only [step] at h
    split at h <;> cases h
    simp [ParseFault.AtCloser] at hfault
  | operator s => exact Scope.frames_of_operatorStep_error h hfault
  | value v => exact v.depth_pos
  | valueOperator v => exact v.depth_pos

/-- Only where a group is open is one closed. -/
theorem State.depth_pos_of_step (h : s.step limit t = .ok s') (ht : t.delta < 0) : 0 < s.depth := by
  have hk : t.kind = .rightParen ∨ t.kind = .rightBrace := by
    rw [Token.delta] at ht
    split at ht <;> simp_all
  cases s with
  | operand s => rcases hk with hk | hk <;> simp [step, Scope.operandStep, hk] at h
  | field name s =>
    have hstep : (s.push (.present name)).operatorStep t = .ok s' := by
      rcases hk with hk | hk <;> simpa [step, hk] using h
    exact Scope.frames_of_operatorStep (s := s.push (.present name)) hstep ht.ne
  | colon name s => rcases hk with hk | hk <;> simp [step, Scope.valuesStep, hk] at h
  | comparison name op s => rcases hk with hk | hk <;> simp [step, hk] at h
  | operator s => exact Scope.frames_of_operatorStep h ht.ne
  | value v => exact v.depth_pos
  | valueOperator v => exact v.depth_pos

theorem State.counter_of_step (h : s.step limit t = .ok s') : (s'.depth : Int) = s.depth + t.delta := by
  have hpos := State.depth_pos_of_step h
  rw [State.depth_of_step h]
  cases hk : t.kind <;> simp only [Token.delta, Token.depthAfter, hk] at hpos ⊢ <;> omega

theorem Reaches.counter (h : Reaches limit s ts s') :
    (s'.depth : Int) = s.depth + (ts.map Token.delta).sum := by
  induction h with
  | refl s => simp
  | @step s s' s'' t ts h _ ih =>
    rw [ih, State.counter_of_step h, List.map_cons, List.sum_cons]
    omega

theorem State.length_openers (s : State) : s.openers.length = s.depth := by
  cases s <;> simp [openers, depth, Scope.openers, ValueScope.openers, ValueScope.depth]
  all_goals omega

theorem Reaches.counted (h : Reaches limit (.operand .start) ts s) : Counted limit ts s where
  counter := by
    rw [h.counter]
    exact (Int.zero_add _).symm
  step _ _ hstep hfault := State.depth_pos_of_step_error hstep hfault
  finish fault hfinish hfault := by
    rcases State.fault_of_finish hfinish with ⟨expected, rfl⟩ | ⟨-, opener, rest, ho, -⟩
    · exact hfault.elim
    · rw [← State.length_openers, ho]
      exact Nat.succ_pos _

end counter

/-! ## What errors quote -/

/-- The text is split behind so many bytes. -/
def SplitsAt (text : String) (offset : Nat) (before behind : List Char) : Prop :=
  text.toList = before ++ behind ∧ Text.Utf8.size before = offset

/-- An error quotes the text truly: what it says stands at a place stands there. -/
def Quotes (text : String) : QueryError → Prop
  | .invalidEscape sequence offset => ∃ before behind, SplitsAt text offset before behind ∧
      sequence.toList <+: behind ∧ sequence.toList.head? = some '\\' ∧
      ∃ tokens, tokenize (String.ofList before) = .ok tokens
  | .unclosedQuote offset => ∃ before behind, SplitsAt text offset before ('"' :: behind) ∧
      (∀ inside rest, behind = inside ++ '"' :: rest → backslashes inside % 2 = 1) ∧
      ∃ tokens, tokenize (String.ofList before) = .ok tokens
  | .invalidQuotedString literal _ => literal.toList <:+: text.toList
  | .unexpectedToken found offset near _ => ∃ before behind, SplitsAt text offset before behind ∧
      near.toList = behind.take 24 ∧ near ≠ "" ∧
      ∃ tokens t, tokenize text = .ok tokens ∧ t ∈ tokens ∧ t.offset = offset ∧ t.value = found
  | .missingParenthesis offset => ∃ before behind, SplitsAt text offset before ('(' :: behind)
  | .missingBrace offset => ∃ before behind, SplitsAt text offset before ('{' :: behind)
  | .unexpectedEnd _ | .emptyQuery | .tooDeep _ => True
  | .invalidSpecifier .. | .strayOffset _ => False

section quotes

variable {limit : Nat} {text : String} {tokens : List Token} {t : Token}

theorem tokenize_before {before : List Char} (h : Passes before []) :
    ∃ tokens, tokenize (String.ofList before) = .ok tokens := by
  obtain ⟨found, hfound⟩ := h.exists_lexemes
  exact ⟨_, tokenize_of_sliced (.of_lexemes hfound)⟩

theorem splitsAt_unread {before unread : List Char} (h : text.toList = before ++ unread) :
    SplitsAt text (Text.Utf8.size text.toList - Text.Utf8.size unread) before unread := by
  refine ⟨h, ?_⟩
  rw [h, Text.Utf8.size_append, Nat.add_sub_cancel]

/-- **Errors of the lexer quote the text truly.** -/
theorem quotes_of_tokenize_error {error : QueryError} (h : tokenize text = .error error) :
    Quotes text error := by
  rw [tokenize] at h
  split at h
  · cases h
  · next fault hfault =>
    cases h
    have hagrees := agrees_lexemes text.toList
    rw [hfault] at hagrees
    obtain ⟨unread, hpasses, hstuck⟩ := hagrees
    cases hstuck with
    | @escape cs sequence hread =>
      obtain ⟨before, htext, hbefore⟩ := hpasses.cut (fun h ↦ h.ne rfl rfl) rfl
      obtain ⟨taken, rfl, htaken⟩ := readEscape_error hread
      refine ⟨before, _, splitsAt_unread htext, ?_, ?_, tokenize_before hbefore⟩
      · rw [String.toList_ofList]
        exact List.cons_prefix_cons.2 ⟨rfl, htaken⟩
      · rw [String.toList_ofList, List.head?_cons]
    | @quoted cs fault hread =>
      obtain ⟨before, htext, hbefore⟩ := hpasses.cut (fun h ↦ h.ne rfl rfl) rfl
      rw [readQuoted] at hread
      split at hread
      · next hclose =>
        cases hread
        refine ⟨before, cs, splitsAt_unread htext, fun inside rest hcs ↦ ?_, tokenize_before hbefore⟩
        rw [hcs] at hclose
        exact (escapesNext_eq_true_iff inside).1 (escapesNext_of_closeQuote hclose)
      · next slice rest hclose =>
        split at hread
        · cases hread
        · cases hread
          refine ⟨before, rest, ?_⟩
          rw [String.toList_ofList, htext, ← closeQuote_split hclose]
          simp

theorem exists_splitsAt_of_mem (h : tokenize text = .ok tokens) (ht : t ∈ tokens) :
    ∃ before slice behind, SplitsAt text t.offset before (slice ++ behind) ∧ slice ≠ [] ∧
      ∀ spelling ∈ t.kind.spelling?, slice = spelling := by
  obtain ⟨found, hs, rfl⟩ := exists_sliced_of_tokenize h
  obtain ⟨left, right, hts⟩ := List.append_of_mem ht
  obtain ⟨before, rest, l, found, htext, rfl, hl, -⟩ := hs.split hts
  exact ⟨before, l.slice, rest, ⟨htext, (Nat.zero_add _).symm⟩, hl.slice_ne_nil,
    fun _ hspelling ↦ hl.slice_eq hspelling⟩

theorem Token.mem_nest {α : Type} {a b : α} {opened : List α} (h : b ∈ t.nest a opened) :
    b = a ∨ b ∈ opened := by
  rw [nest] at h
  split at h
  · exact List.mem_cons.1 h
  · exact List.mem_cons.1 h
  · exact .inr (List.mem_of_mem_tail h)
  · exact .inr (List.mem_of_mem_tail h)
  · exact .inr h

theorem mem_of_mem_foldl_nest {ts opened : List Token}
    (h : t ∈ ts.foldl (fun opened t ↦ t.nest t opened) opened) : t ∈ opened ∨ t ∈ ts := by
  induction ts generalizing opened with
  | nil => exact .inl h
  | cons u ts ih =>
    rcases ih h with hopened | hts
    · rcases Token.mem_nest hopened with rfl | hopened
      · exact .inr List.mem_cons_self
      · exact .inl hopened
    · exact .inr (List.mem_cons_of_mem u hts)

theorem mem_of_mem_stillOpen {ts : List Token} (h : t ∈ stillOpen ts) : t ∈ ts :=
  (mem_of_mem_foldl_nest h).resolve_left List.not_mem_nil

/-- What is left open was opened by a token, which stands in the text as it is spelled. -/
theorem exists_splitsAt_of_opener (h : tokenize text = .ok tokens) {s : State} {opener : Opener}
    (hreach : Reaches limit (.operand .start) tokens s) (hopener : opener ∈ s.openers) :
    ∃ before slice behind, SplitsAt text opener.offset before (slice ++ behind) ∧
      ∀ spelling ∈ opener.kind.spelling?, slice = spelling := by
  have hopeners : s.openers = (stillOpen tokens).map Token.opener := hreach.openers rfl
  rw [hopeners] at hopener
  obtain ⟨t, ht, rfl⟩ := List.mem_map.1 hopener
  obtain ⟨before, slice, behind, hsplit, -, hslice⟩ :=
    exists_splitsAt_of_mem h (mem_of_mem_stillOpen ht)
  exact ⟨before, slice, behind, hsplit, hslice⟩

/-- **Errors of the parser quote the text truly.** -/
theorem quotes_of_parseTokens_error {error : QueryError} (h : tokenize text = .ok tokens)
    (herror : parseTokens limit text tokens = .error error) : Quotes text error := by
  rw [parseTokens, readTokens] at herror
  split at herror
  · cases herror
    trivial
  · cases hrun : run limit (.operand .start) tokens with
    | ok tree =>
      rw [hrun] at herror
      cases herror
    | error fault =>
      rw [hrun] at herror
      cases herror
      rcases run_eq_error hrun with ⟨front, t, back, s, hts, -, hs⟩ | ⟨s, hreach, hs⟩
      · rcases State.fault_of_step hs with ⟨expected, rfl⟩ | ⟨rfl, -⟩
        · have ht : t ∈ tokens := hts ▸ List.mem_append_right _ List.mem_cons_self
          obtain ⟨before, slice, behind, hsplit, hslice, -⟩ := exists_splitsAt_of_mem h ht
          have hdrop : dropBytes? t.offset text.toList = some (slice ++ behind) := by
            rw [hsplit.1, ← hsplit.2, dropBytes?_append]
          simp only [ParseFault.toError, hdrop]
          refine ⟨before, slice ++ behind, hsplit, String.toList_ofList, ?_, tokens, t, h, ht, rfl, rfl⟩
          intro hnear
          have hempty := congrArg String.toList hnear
          rw [String.toList_ofList] at hempty
          simp [nearLength, hslice] at hempty
        · trivial
      · rcases State.fault_of_finish hs with ⟨expected, rfl⟩ | ⟨-, opener, rest, ho, hunclosed⟩
        · trivial
        · obtain ⟨before, slice, behind, hsplit, hslice⟩ :=
            exists_splitsAt_of_opener h hreach (ho ▸ List.mem_cons_self)
          cases hunclosed with
          | parenthesis opened =>
            obtain rfl := hslice _ rfl
            exact ⟨before, behind, hsplit⟩
          | brace opened =>
            obtain rfl := hslice _ rfl
            exact ⟨before, behind, hsplit⟩

/-- **Errors quote the text truly**, whatever the text and the limit, and the reader never counts the
groups that are open below zero. -/
theorem parse_error_quotes (limit : Nat) (text : String) :
    (∀ error, parse limit text = .error error → Quotes text error) ∧
      ∀ before s, Reaches limit (.operand .start) before s → Counted limit before s := by
  refine ⟨fun error herror ↦ ?_, fun _ _ hreach ↦ hreach.counted⟩
  rw [parse] at herror
  cases h : tokenize text with
  | error fault =>
    rw [h] at herror
    cases herror
    exact quotes_of_tokenize_error h
  | ok tokens =>
    rw [h] at herror
    exact quotes_of_parseTokens_error h herror

/-- An escape that is none, a quote that only an escaped quote follows, a quoted literal that is none,
a token too many, and a group left open. -/
theorem parse_error_quotes_samples :
    Quotes "é b\\q" (.invalidEscape "\\q" 4) ∧ Quotes "a \"b\\\"" (.unclosedQuote 2) ∧
      Quotes "a:\"\\q\"" (.invalidQuotedString "\"\\q\"" ⟨.invalidEscape, 1, 3⟩) ∧
      Quotes "é:b) or c" (.unexpectedToken ")" 4 ") or c" .operatorOrEnd) ∧
      Quotes "x:\x7b (y" (.missingParenthesis 4) ∧
      Counted 1 [⟨.leftParen, "(", 0⟩] (.operand ⟨.empty, [.group 0 .empty]⟩) := by
  have hescape : parse 1 "é b\\q" = .error (.invalidEscape "\\q" 4) := by
    rw [parse, tokenize, lexemes_eq_within (Nat.le_refl _)]
    decide +kernel
  have hquote : parse 1 "a \"b\\\"" = .error (.unclosedQuote 2) := by
    rw [parse, tokenize, lexemes_eq_within (Nat.le_refl _)]
    decide +kernel
  have hliteral : parse 1 "a:\"\\q\"" =
      .error (.invalidQuotedString "\"\\q\"" ⟨.invalidEscape, 1, 3⟩) := by
    rw [parse, tokenize, lexemes_eq_within (Nat.le_refl _)]
    decide +kernel
  have htoken : parse 1 "é:b) or c" =
      .error (.unexpectedToken ")" 4 ") or c" .operatorOrEnd) := by
    rw [parse, tokenize, lexemes_eq_within (Nat.le_refl _)]
    decide +kernel
  have hgroup : parse 2 "x:\x7b (y" = .error (.missingParenthesis 4) := by
    rw [parse, tokenize, lexemes_eq_within (Nat.le_refl _)]
    decide +kernel
  exact ⟨(parse_error_quotes 1 _).1 _ hescape, (parse_error_quotes 1 _).1 _ hquote,
    (parse_error_quotes 1 _).1 _ hliteral, (parse_error_quotes 1 _).1 _ htoken,
    (parse_error_quotes 2 _).1 _ hgroup, (parse_error_quotes 1 "(").2 _ _ (.step rfl (.refl _))⟩

end quotes

end LogSearch.Kql
