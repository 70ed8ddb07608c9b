import LogSearch.Proofs.Kql.Escaping

/-!
# Where lexemes end

A lexeme is read with an eye on what follows it: a keyword ends where a word ends, `<` is not followed
by `=`, and a literal without quotes looks past blanks for a delimiter, a keyword or the end.  That is
all that matters of the text behind a lexeme: it is read again from its slice in front of every text
that it may end at (`Lexeme.StandsBefore.before`), the empty one among them.

The reason is the same in each place that looks ahead.  What ends a word is no letter of a keyword, so
a keyword that starts in front of it is there without it, too (`keywordAt?_append`).

## What is here

* `keywordAt?_append`, `readEscape_append`, `readTerm_append` — keywords, escapes and literals without
  quotes do not depend on what stands behind the end of a word or of a literal;
* `TokenKind.IsKeyword`, `TokenKind.IsUnquoted`, `TokenKind.spelling?` — what can be said of a slice by
  its kind alone;
* `Lexeme.EndsAt`, `Lexeme.StandsBefore` — what a lexeme asks of the text behind it, and the lexeme
  that is read in front of a text;
* `Lexeme.StandsBefore.breaks_iff`, `Lexeme.StandsBefore.endsWord_iff` — in front of which lexemes
  literals and keywords end.
-/

set_option autoImplicit false
namespace LogSearch.Kql

open Text (isBlank dropBlank takeBlank)

/-! ## Keywords and escapes in front of the end of a word -/

/-- A result that was mapped comes from one that was not. -/
theorem exists_of_map_eq_ok {ε α β : Type} {f : α → β} {x : Except ε α} {b : β}
    (h : x.map f = .ok b) : ∃ a, x = .ok a ∧ f a = b := by
  cases x with
  | error e => cases h
  | ok a => exact ⟨a, rfl, Except.ok.inj h⟩

section ends

variable {cs rest behind : List Char}

theorem endsWord_append (hr : endsWord rest = true) (cs : List Char) :
    endsWord (cs ++ rest) = endsWord cs := by
  cases cs with
  | nil => exact hr
  | cons c cs => rfl

/-- A word of letters stands at the start of a text just if it does so without what comes behind the
end of a word. -/
theorem word_append_iff (hr : endsWord rest = true) (cs : List Char) {word : List Char}
    (hword : ∀ w ∈ word, w ∈ ['a', 'n', 'd', 'o', 'r', 't']) :
    (((cs ++ rest).take word.length).map Char.toLower = word ∧
        endsWord ((cs ++ rest).drop word.length) = true) ↔
      ((cs.take word.length).map Char.toLower = word ∧ endsWord (cs.drop word.length) = true) := by
  induction word generalizing cs with
  | nil => simp [endsWord_append hr]
  | cons w word ih =>
    obtain ⟨hw, hword⟩ := List.forall_mem_cons.1 hword
    cases cs with
    | cons c cs => simpa [and_assoc] using fun _ ↦ ih _ hword
    | nil =>
      -- what ends a word is no letter of one
      cases rest with
      | nil => simp
      | cons r rest =>
        have hne : r.toLower ≠ w := fun h ↦ by
          have hbare := bare_of_toLower (h ▸ hw)
          simp [endsWord, hbare.1, hbare.not_delimiter] at hr
        simp [hne]

theorem mem_letters_of_mem_keywords : ∀ keyword ∈ keywords, ∀ w ∈ keyword.1,
    w ∈ ['a', 'n', 'd', 'o', 'r', 't'] := by
  simp [keywords]

/-- **What comes behind the end of a word has no part in the keyword** that a text starts with. -/
theorem keywordAt?_append (hr : endsWord rest = true) (cs : List Char) :
    keywordAt? (cs ++ rest) = (keywordAt? cs).map fun found ↦ (found.1, found.2 ++ rest) := by
  rw [keywordAt?, keywordAt?, List.map_findSome?]
  have hletters := mem_letters_of_mem_keywords
  generalize keywords = ks at hletters
  induction ks with
  | nil => rfl
  | cons keyword ks ih =>
    obtain ⟨word, kind⟩ := keyword
    obtain ⟨hword, hks⟩ := List.forall_mem_cons.1 hletters
    have hiff := word_append_iff hr cs hword
    rw [List.findSome?_cons, List.findSome?_cons, ih hks]
    dsimp only [Function.comp_apply]
    by_cases h : (cs.take word.length).map Char.toLower = word ∧ endsWord (cs.drop word.length) = true
    · -- the keyword is as long as its word, so it stands in the text
      have hlen : word.length ≤ cs.length := by
        have := congrArg List.length h.1
        rw [List.length_map, List.length_take] at this
        omega
      rw [if_pos (by simpa using hiff.2 h), if_pos (by simpa using h), Option.map_some,
        List.take_append_of_le_length hlen, List.drop_append_of_le_length hlen]
    · rw [if_neg (by simpa using mt hiff.1 h), if_neg (by simpa using h)]
      rfl

theorem isSome_keywordAt?_append (hr : endsWord rest = true) (cs : List Char) :
    (keywordAt? (cs ++ rest)).isSome = (keywordAt? cs).isSome := by
  rw [keywordAt?_append hr, Option.isSome_map]

theorem Breaks.endsTerm_dropBlank (h : Breaks rest) : endsTerm (dropBlank rest) = true := by
  cases rest with
  | nil => rfl
  | cons c rest =>
    rcases h with hc | ⟨hc, h⟩
    · obtain ⟨-, hb, -⟩ := delimiter_cases hc
      simp [dropBlank, hb, endsTerm, hc]
    · simpa [dropBlank, hc] using h

/-- Nor has it a part in whether a literal goes on behind blanks. -/
theorem endsTerm_dropBlank_append (hr : Breaks rest) (cs : List Char) :
    endsTerm (dropBlank (cs ++ rest)) = endsTerm (dropBlank cs) := by
  rw [dropBlank, List.dropWhile_append]
  cases h : cs.dropWhile isBlank with
  | nil =>
    rw [dropBlank, h]
    exact hr.endsTerm_dropBlank
  | cons c ds =>
    have hkey := isSome_keywordAt?_append hr.endsWord (c :: ds)
    rw [List.cons_append] at hkey
    simp [dropBlank, h, endsTerm, hkey]

/-! ## What a lexeme asks of the text behind it -/

theorem readCodePoint_append {e : Escaped} (h : readCodePoint cs = .ok e) (behind : List Char) :
    ∃ digits, e.slice = 'u' :: digits ∧ cs = digits ++ e.rest ∧
      readCodePoint (digits ++ behind) = .ok { e with rest := behind } := by
  unfold readCodePoint at h
  split at h
  · next p q r s rest =>
    split at h
    · next hp hq hr hs =>
      split at h
      · next hc =>
        cases h
        exact ⟨[p, q, r, s], rfl, rfl, by simp [readCodePoint, hp, hq, hr, hs, hc]⟩
      · cases h
    · cases h
  · cases h

theorem readEscape_u (cs : List Char) : readEscape ('u' :: cs) = readCodePoint cs := by
  have hk : (keywordAt? ('u' :: cs)).isSome = false := by simp [keywordAt?, keywords]
  unfold readEscape
  dsimp only
  rw [hk]
  rfl

/-- What an escape takes is a code point, or one character; of what follows, only a keyword
matters. -/
theorem readEscape_cases {c : Char} {e : Escaped} (h : readEscape (c :: cs) = .ok e) :
    (∃ char, e = ⟨char, [c], cs⟩ ∧ ∀ ds : List Char,
      (keywordAt? (c :: ds)).isSome = (keywordAt? (c :: cs)).isSome →
        readEscape (c :: ds) = .ok ⟨char, [c], ds⟩) ∨
    c = 'u' ∧ readCodePoint cs = .ok e := by
  by_cases hu : c = 'u'
  · subst hu
    rw [readEscape_u] at h
    exact .inr ⟨rfl, h⟩
  · refine .inl ?_
    cases hk : (keywordAt? (c :: cs)).isSome with
    | true =>
      rw [readEscape_marked (.inr hk)] at h
      cases h
      exact ⟨c, rfl, fun ds hds ↦ readEscape_marked (.inr hds)⟩
    | false =>
      unfold readEscape at h
      dsimp only at h
      rw [hk, if_neg (by decide)] at h
      split at h
      case h_4 => exact absurd rfl hu
      case h_5 =>
        split at h
        · next hc =>
          cases h
          exact ⟨c, rfl, fun ds _ ↦ readEscape_marked (.inl hc)⟩
        · cases h
      all_goals
        cases h
        refine ⟨_, rfl, fun ds hds ↦ ?_⟩
        unfold readEscape
        dsimp only
        rw [hds, if_neg (by decide)]
        rfl

/-- An escape is read in front of the same characters wherever their word ends. -/
theorem readEscape_append {e : Escaped} {ds : List Char} (h : readEscape cs = .ok e)
    (hrest : e.rest = ds ++ rest) (hr : endsWord rest = true) (hbehind : endsWord behind = true) :
    readEscape (e.slice ++ (ds ++ behind)) = .ok { e with rest := ds ++ behind } := by
  cases cs with
  | nil => cases h
  | cons c cs =>
    rcases readEscape_cases h with ⟨char, rfl, hread⟩ | ⟨rfl, hread⟩
    · obtain rfl : cs = ds ++ rest := hrest
      refine hread (ds ++ behind) ?_
      exact (isSome_keywordAt?_append hbehind (c :: ds)).trans
        (isSome_keywordAt?_append hr (c :: ds)).symm
    · obtain ⟨digits, hslice, -, hdigits⟩ := readCodePoint_append hread (ds ++ behind)
      rw [hslice, List.cons_append, readEscape_u, hdigits, hslice]

/-- **A literal without quotes is the same in front of whatever ends it.** -/
theorem readTerm_append {t : Term} (h : readTerm cs = .ok t) :
    Breaks t.rest ∧ ∀ behind, Breaks behind →
      readTerm (t.slice ++ behind) = .ok { t with rest := behind } := by
  fun_induction readTerm cs generalizing t with
  | case1 =>
    cases h
    exact ⟨trivial, fun behind hb ↦ readTerm_of_breaks hb⟩
  | case2 c rest hc hend =>
    cases h
    exact ⟨.inr ⟨hc, hend⟩, fun behind hb ↦ readTerm_of_breaks hb⟩
  | case3 c rest hc hend ih =>
    obtain ⟨u, hu, rfl⟩ := exists_of_map_eq_ok h
    obtain ⟨hbreaks, hread⟩ := ih hu
    refine ⟨hbreaks, fun behind hb ↦ ?_⟩
    -- the literal goes on behind the blank, whatever ends it
    rw [← readTerm_split hu, endsTerm_dropBlank_append hbreaks] at hend
    rw [Term.push, List.cons_append, readTerm, if_pos hc, endsTerm_dropBlank_append hb, if_neg hend,
      hread behind hb]
    rfl
  | case4 => cases h
  | case5 rest e he hb ih =>
    obtain ⟨u, hu, rfl⟩ := exists_of_map_eq_ok h
    obtain ⟨hbreaks, hread⟩ := ih hu
    refine ⟨hbreaks, fun behind hb ↦ ?_⟩
    have hescape := readEscape_append he (readTerm_split hu).symm hbreaks.endsWord hb.endsWord
    rw [Term.pushEscaped, List.cons_append, List.cons_append, List.append_assoc, readTerm,
      if_neg (by decide), if_pos rfl]
    split
    · next h => rw [hescape] at h; cases h
    · next f h =>
      rw [hescape] at h
      cases h
      rw [hread behind hb]
      rfl
  | case6 c rest hc hs hd =>
    cases h
    exact ⟨.inl hd, fun behind hb ↦ readTerm_of_breaks hb⟩
  | case7 c rest hc hs hd ih =>
    obtain ⟨u, hu, rfl⟩ := exists_of_map_eq_ok h
    obtain ⟨hbreaks, hread⟩ := ih hu
    refine ⟨hbreaks, fun behind hb ↦ ?_⟩
    rw [Term.push, List.cons_append, readTerm, if_neg hc, if_neg hs, if_neg hd, hread behind hb]
    rfl

theorem closeQuote_of_append {escaped : Bool} {slice : List Char}
    (h : closeQuote escaped cs = some (slice, rest)) (behind : List Char) :
    closeQuote escaped (slice ++ behind) = some (slice, behind) := by
  induction cs generalizing escaped slice with
  | nil => cases h
  | cons c cs ih =>
    rw [closeQuote] at h
    split at h
    · next hc =>
      cases h
      obtain ⟨rfl, hescaped⟩ : c = '"' ∧ escaped = false := by simpa using hc
      rw [hescaped]
      rfl
    · next hc =>
      obtain ⟨⟨ds, rest⟩, hds, hmap⟩ := Option.map_eq_some_iff.1 h
      cases hmap
      rw [List.cons_append, closeQuote, if_neg hc, ih hds]
      rfl

theorem readQuoted_append {l : Lexeme} (h : readQuoted cs = .ok (l, rest)) :
    l.kind = .quoted ∧ ∃ tail, l.slice = '"' :: tail ∧
      ∀ behind, readQuoted (tail ++ behind) = .ok (l, behind) := by
  rw [readQuoted] at h
  split at h
  · cases h
  · next slice tail hclose =>
    split at h
    · next value hvalue =>
      cases h
      refine ⟨rfl, slice, rfl, fun behind ↦ ?_⟩
      rw [readQuoted, closeQuote_of_append hclose]
      simp only [hvalue]
    · cases h

end ends

/-! ## Kinds of lexemes -/

/-- The kinds of `and`, `or` and `not`. -/
def TokenKind.IsKeyword : TokenKind → Prop
  | .and | .or | .not => True
  | _ => False

/-- The kinds of literals without quotes. -/
def TokenKind.IsUnquoted : TokenKind → Prop
  | .term | .wildcard => True
  | _ => False

/-- The one slice that a token of the kind has, if there is only one. -/
def TokenKind.spelling? : TokenKind → Option (List Char)
  | .wildcard => some ['*']
  | .colon => some [':']
  | .comparison op => some op.sign
  | .leftParen => some ['(']
  | .rightParen => some [')']
  | .leftBrace => some ['{']
  | .rightBrace => some ['}']
  | _ => none

/-- What a lexeme asks of the text behind it, so that it ends there. -/
def Lexeme.EndsAt (l : Lexeme) (rest : List Char) : Prop :=
  match l.kind with
  | .term | .wildcard => Breaks rest
  | .and | .or | .not => endsWord rest = true
  | .comparison op => op = .lt ∨ op = .gt → rest.head? ≠ some '='
  | _ => True

/-- The lexeme is what is read in front of the text. -/
def Lexeme.StandsBefore (l : Lexeme) (rest : List Char) : Prop :=
  ∃ c tail, l.slice = c :: tail ∧ isBlank c = false ∧ readLexeme c (tail ++ rest) = .ok (l, rest)

section lexeme

variable {c : Char} {cs rest behind : List Char} {l : Lexeme}

theorem Lexeme.endsAt_of_isKeyword (h : l.kind.IsKeyword) :
    l.EndsAt rest ↔ endsWord rest = true := by
  rw [EndsAt]
  cases hk : l.kind <;> rw [hk] at h <;> first | exact Iff.rfl | exact h.elim

theorem Lexeme.endsAt_of_isUnquoted (h : l.kind.IsUnquoted) : l.EndsAt rest ↔ Breaks rest := by
  rw [EndsAt]
  cases hk : l.kind <;> rw [hk] at h <;> first | exact Iff.rfl | exact h.elim

theorem TokenKind.IsKeyword.not_isUnquoted {kind : TokenKind} (h : kind.IsKeyword) :
    ¬ kind.IsUnquoted := by
  cases kind <;> first | exact id | exact h.elim

theorem TokenKind.IsKeyword.spelling?_eq_none {kind : TokenKind} (h : kind.IsKeyword) :
    kind.spelling? = none := by
  cases kind <;> first | rfl | exact h.elim

theorem isKeyword_keywordKind (cs : List Char) : (keywordKind cs).IsKeyword := by
  rw [keywordKind]
  split
  · trivial
  · split <;> trivial

/-- A keyword in front of the end of a word is what its slice says, and nothing else. -/
theorem keywordAt?_eq_some_iff :
    keywordAt? cs = some (l, rest) ↔ ∃ slice, isKeyword slice = true ∧ endsWord rest = true ∧
      cs = slice ++ rest ∧ l = ⟨keywordKind slice, slice, slice⟩ := by
  constructor
  · intro h
    have hsplit := (keywordAt?_split h).1
    obtain ⟨⟨word, kind⟩, hmem, hword⟩ := List.exists_of_findSome?_eq_some h
    dsimp only at hword
    split at hword
    · next hc =>
      cases hword
      obtain ⟨hword, hends⟩ : (cs.take word.length).map Char.toLower = word ∧
          endsWord (cs.drop word.length) = true := by
        simpa using hc
      have hkeyword := isKeyword_of_mem_keywords hmem hword
      refine ⟨_, hkeyword, hends, hsplit.symm, ?_⟩
      have hread := keywordAt?_keyword hkeyword hends
      rw [hsplit, h] at hread
      exact congrArg Prod.fst (Option.some.inj hread)
    · cases hword
  · rintro ⟨slice, hkeyword, hends, rfl, rfl⟩
    exact keywordAt?_keyword hkeyword hends

/-- What is known of a lexeme that is read in front of `rest`: what it asks of that is so, and it is
read again from its slice in front of whatever is so as well. -/
structure Lexeme.Reads (c : Char) (l : Lexeme) (rest : List Char) : Prop where
  endsAt : l.EndsAt rest
  spelling : ∀ slice ∈ l.kind.spelling?, l.slice = slice
  delimiter_iff : isDelimiter c = true ↔ ¬ l.kind.IsKeyword ∧ ¬ l.kind.IsUnquoted
  again : ∃ tail, l.slice = c :: tail ∧
    ∀ behind, l.EndsAt behind → readLexeme c (tail ++ behind) = .ok (l, behind)

theorem reads_single {kind : TokenKind} (hread : ∀ ds, readLexeme c ds = .ok (single kind c ds))
    (hc : isDelimiter c = true) (hkind : kind.spelling? = some [c])
    (hother : ¬ kind.IsKeyword ∧ ¬ kind.IsUnquoted) (hends : ∀ ds, Lexeme.EndsAt ⟨kind, [c], [c]⟩ ds)
    (h : readLexeme c cs = .ok (l, rest)) : l.Reads c rest := by
  rw [hread] at h
  cases h
  refine ⟨hends cs, ?_, iff_of_true hc hother, [], rfl, fun behind _ ↦ hread behind⟩
  rintro slice hslice
  exact Option.some.inj (hkind.symm.trans hslice)

theorem reads_comparison {strict orEqual : Comparison}
    (hread : ∀ ds, readLexeme c ds = .ok (readComparison strict orEqual ds))
    (hc : isDelimiter c = true) (hstrict : strict.sign = [c]) (horEqual : orEqual.sign = [c, '='])
    (h : readLexeme c cs = .ok (l, rest)) : l.Reads c rest := by
  have hspelling : ∀ op : Comparison, ∀ slice ∈ (TokenKind.comparison op).spelling?,
      op.sign = slice := fun op slice hslice ↦ Option.some.inj hslice
  rw [hread] at h
  unfold readComparison at h
  split at h
  · cases h
    refine ⟨?_, hspelling orEqual, iff_of_true hc ⟨id, id⟩, ['='], horEqual, fun behind _ ↦ hread _⟩
    rintro (rfl | rfl) <;> cases horEqual
  · next hequals =>
    cases h
    refine ⟨fun _ hhead ↦ ?_, hspelling strict, iff_of_true hc ⟨id, id⟩, [], hstrict,
      fun behind hbehind ↦ ?_⟩
    · obtain ⟨tail, rfl⟩ := List.head?_eq_some_iff.1 hhead
      exact hequals _ rfl
    · have hone : strict = .lt ∨ strict = .gt := by cases strict <;> simp [Comparison.sign] at hstrict ⊢
      rw [List.nil_append, hread, readComparison]
      exact fun tail htail ↦ hbehind hone (congrArg List.head? htail)

theorem reads_keyword (hc : isDelimiter c = false) (h : keywordAt? (c :: cs) = some (l, rest)) :
    l.Reads c rest := by
  obtain ⟨slice, hkeyword, hends, hsplit, rfl⟩ := keywordAt?_eq_some_iff.1 h
  cases slice with
  | nil => cases hkeyword
  | cons d tail =>
    obtain ⟨rfl, rfl⟩ := List.cons.inj hsplit
    have hkind := isKeyword_keywordKind (c :: tail)
    refine ⟨(Lexeme.endsAt_of_isKeyword hkind).2 hends, ?_, ?_, tail, rfl, fun behind hbehind ↦ ?_⟩
    · simp [hkind.spelling?_eq_none]
    · exact iff_of_false (by simp [hc]) fun h ↦ h.1 hkind
    · have hread := keywordAt?_keyword hkeyword ((Lexeme.endsAt_of_isKeyword hkind).1 hbehind)
      rw [List.cons_append] at hread
      rw [readLexeme_of_not_delimiter hc, hread]

theorem slice_of_not_escaped {t : Term} (h : readTerm cs = .ok t) (hescaped : t.escaped = false) :
    t.slice = t.value := by
  fun_induction readTerm cs generalizing t with
  | case1 | case2 | case6 =>
    cases h
    rfl
  | case3 c rest _ _ ih | case7 c rest _ _ _ ih =>
    obtain ⟨u, hu, rfl⟩ := exists_of_map_eq_ok h
    exact congrArg (c :: ·) (ih hu hescaped)
  | case4 => cases h
  | case5 =>
    obtain ⟨u, -, rfl⟩ := exists_of_map_eq_ok h
    cases hescaped

theorem Term.isUnquoted_lexeme (t : Term) : t.lexeme.kind.IsUnquoted := by
  rw [lexeme]
  dsimp only
  split <;> trivial

theorem reads_term {t : Term} (hb : isBlank c = false) (hc : isDelimiter c = false)
    (hkey : keywordAt? (c :: cs) = none) (h : readTerm (c :: cs) = .ok t) :
    t.lexeme.Reads c t.rest := by
  obtain ⟨hbreaks, hread⟩ := readTerm_append h
  have hkind := t.isUnquoted_lexeme
  have hsplit := readTerm_split h
  obtain ⟨d, tail, htail⟩ := List.exists_cons_of_ne_nil (readTerm_slice_ne_nil h hb hc)
  rw [htail, List.cons_append] at hsplit
  obtain ⟨rfl, rfl⟩ := List.cons.inj hsplit
  refine ⟨(Lexeme.endsAt_of_isUnquoted hkind).2 hbreaks, ?_, ?_, tail, htail, fun behind hbehind ↦ ?_⟩
  · intro slice hslice
    rw [Term.lexeme] at hslice ⊢
    dsimp only at hslice ⊢
    split at hslice
    · next hstar =>
      obtain ⟨hvalue, hescaped⟩ : t.value = ['*'] ∧ t.escaped = false := by simpa using hstar
      rw [slice_of_not_escaped h hescaped, hvalue]
      exact Option.some.inj hslice
    · cases hslice
  · exact iff_of_false (by simp [hc]) fun h ↦ h.2 hkind
  · have hbehind := (Lexeme.endsAt_of_isUnquoted hkind).1 hbehind
    have hnone : keywordAt? (d :: tail) = none := by
      rw [← List.cons_append, keywordAt?_append hbreaks.endsWord] at hkey
      simpa using hkey
    have hagain := hread behind hbehind
    rw [htail, List.cons_append] at hagain
    rw [readLexeme_of_not_delimiter hc, ← List.cons_append, keywordAt?_append hbehind.endsWord, hnone,
      List.cons_append, hagain]
    simp [Except.map, Term.lexeme, htail]

theorem reads_of_readLexeme (h : readLexeme c cs = .ok (l, rest)) (hb : isBlank c = false) :
    l.Reads c rest := by
  cases hc : isDelimiter c with
  | true =>
    have hmem : c ∈ ['(', ')', ':', '<', '>', '"', '{', '}'] := by simpa [isDelimiter] using hc
    simp only [List.mem_cons, List.not_mem_nil, or_false] at hmem
    rcases hmem with rfl | rfl | rfl | rfl | rfl | rfl | rfl | rfl
    · exact reads_single (fun _ ↦ rfl) hc rfl ⟨id, id⟩ (fun _ ↦ trivial) h
    · exact reads_single (fun _ ↦ rfl) hc rfl ⟨id, id⟩ (fun _ ↦ trivial) h
    · exact reads_single (fun _ ↦ rfl) hc rfl ⟨id, id⟩ (fun _ ↦ trivial) h
    · exact reads_comparison (fun _ ↦ rfl) hc rfl rfl h
    · exact reads_comparison (fun _ ↦ rfl) hc rfl rfl h
    · obtain ⟨hkind, tail, hslice, hread⟩ := readQuoted_append h
      refine ⟨?_, ?_, iff_of_true hc ?_, tail, hslice, fun behind _ ↦ hread behind⟩
      · simp [Lexeme.EndsAt, hkind]
      · simp [hkind, TokenKind.spelling?]
      · simp [hkind, TokenKind.IsKeyword, TokenKind.IsUnquoted]
    · exact reads_single (fun _ ↦ rfl) hc rfl ⟨id, id⟩ (fun _ ↦ trivial) h
    · exact reads_single (fun _ ↦ rfl) hc rfl ⟨id, id⟩ (fun _ ↦ trivial) h
  | false =>
    rw [readLexeme_of_not_delimiter hc] at h
    cases hkey : keywordAt? (c :: cs) with
    | some found =>
      rw [hkey] at h
      cases h
      exact reads_keyword hc hkey
    | none =>
      rw [hkey] at h
      obtain ⟨t, ht, hlexeme⟩ := exists_of_map_eq_ok h
      cases hlexeme
      exact reads_term hb hc hkey ht

theorem Lexeme.StandsBefore.of_readLexeme (h : readLexeme c cs = .ok (l, rest))
    (hb : isBlank c = false) : l.StandsBefore rest ∧ c :: cs = l.slice ++ rest := by
  obtain ⟨tail, htail, hread⟩ := (reads_of_readLexeme h hb).again
  have hsplit := (readLexeme_split h hb).1
  refine ⟨⟨c, tail, htail, hb, hread rest (reads_of_readLexeme h hb).endsAt⟩, hsplit.symm⟩

theorem Lexeme.StandsBefore.endsAt (h : l.StandsBefore rest) : l.EndsAt rest := by
  obtain ⟨c, tail, -, hb, hread⟩ := h
  exact (reads_of_readLexeme hread hb).endsAt

/-- **A lexeme is the same in front of whatever it may end at.** -/
theorem Lexeme.StandsBefore.before (h : l.StandsBefore rest) (hbehind : l.EndsAt behind) :
    l.StandsBefore behind := by
  obtain ⟨c, tail, htail, hb, hread⟩ := h
  obtain ⟨tail', htail', hagain⟩ := (reads_of_readLexeme hread hb).again
  exact ⟨c, tail', htail', hb, hagain behind hbehind⟩

theorem Lexeme.StandsBefore.slice_eq (h : l.StandsBefore rest) {slice : List Char}
    (hslice : l.kind.spelling? = some slice) : l.slice = slice := by
  obtain ⟨c, tail, -, hb, hread⟩ := h
  exact (reads_of_readLexeme hread hb).spelling slice hslice

theorem Lexeme.StandsBefore.slice_ne_nil (h : l.StandsBefore rest) : l.slice ≠ [] := by
  obtain ⟨c, tail, htail, -⟩ := h
  simp [htail]

/-- Nothing is asked of the end of the text. -/
theorem Lexeme.endsAt_nil (l : Lexeme) : l.EndsAt [] := by
  rw [EndsAt]
  split
  · trivial
  · trivial
  · rfl
  · rfl
  · rfl
  · simp
  · trivial

end lexeme

/-! ## Gaps between lexemes -/

/-- A keyword is found where it is read, and a literal without quotes is read where there is
neither a delimiter nor a keyword. -/
theorem isSome_keywordAt?_iff {c : Char} {cs rest : List Char} {l : Lexeme}
    (hc : isDelimiter c = false) (h : readLexeme c cs = .ok (l, rest)) :
    (keywordAt? (c :: cs)).isSome = true ↔ ¬ l.kind.IsUnquoted := by
  rw [readLexeme_of_not_delimiter hc] at h
  cases hkey : keywordAt? (c :: cs) with
  | some found =>
    rw [hkey] at h
    cases h
    obtain ⟨slice, -, -, -, rfl⟩ := keywordAt?_eq_some_iff.1 hkey
    exact iff_of_true rfl (isKeyword_keywordKind slice).not_isUnquoted
  | none =>
    rw [hkey] at h
    obtain ⟨t, -, ht⟩ := exists_of_map_eq_ok h
    cases ht
    exact iff_of_false (by simp) (not_not_intro t.isUnquoted_lexeme)

section gap

variable {blanks rest : List Char} {l : Lexeme}

/-- A literal without quotes may end in front of a lexeme that is none itself, and of a keyword only
if blanks stand between them. -/
theorem Lexeme.StandsBefore.breaks_iff (h : l.StandsBefore rest)
    (hblanks : ∀ c ∈ blanks, isBlank c = true) :
    Breaks (blanks ++ (l.slice ++ rest)) ↔
      ¬ l.kind.IsUnquoted ∧ (l.kind.IsKeyword → blanks ≠ []) := by
  obtain ⟨c, tail, htail, hb, hread⟩ := h
  have hiff := (reads_of_readLexeme hread hb).delimiter_iff
  rw [htail, List.cons_append]
  cases blanks with
  | nil =>
    rw [List.nil_append]
    simp [Breaks, hb, hiff, and_comm]
  | cons b blanks =>
    obtain ⟨hblank, hblanks⟩ := List.forall_mem_cons.1 hblanks
    have hdelimiter : isDelimiter b = false := by
      cases hd : isDelimiter b with
      | false => rfl
      | true => rw [← hblank, (delimiter_cases hd).2.1]
    have hdrop : dropBlank (blanks ++ c :: (tail ++ rest)) = c :: (tail ++ rest) := by
      rw [dropBlank, List.dropWhile_append_of_pos hblanks]
      simp [hb]
    cases hc : isDelimiter c with
    | true => simp [Breaks, hblank, hdelimiter, hdrop, endsTerm, hc, (hiff.1 hc).2]
    | false => simp [Breaks, hblank, hdelimiter, hdrop, endsTerm, hc, isSome_keywordAt?_iff hc hread]

/-- A word may end in front of blanks, and in front of any lexeme that is no word. -/
theorem Lexeme.StandsBefore.endsWord_iff (h : l.StandsBefore rest)
    (hblanks : ∀ c ∈ blanks, isBlank c = true) :
    endsWord (blanks ++ (l.slice ++ rest)) = true ↔
      blanks ≠ [] ∨ ¬ l.kind.IsKeyword ∧ ¬ l.kind.IsUnquoted := by
  obtain ⟨c, tail, htail, hb, hread⟩ := h
  cases blanks with
  | nil => simp [htail, endsWord, hb, (reads_of_readLexeme hread hb).delimiter_iff]
  | cons b blanks => simp [endsWord, hblanks b List.mem_cons_self]

end gap

end LogSearch.Kql
