import LogSearch.Proofs.Kql.Faults
import LogSearch.Proofs.Kql.Outline
import LogSearch.Proofs.Kql.Slices
import LogSearch.Query.OfNode

/-!
# Layout

Blanks only part tokens, and a keyword is one in either letter case.  So a text may be laid out anew,
with more blanks in front of its tokens and at its end and with its keywords in other letters, and it
is still cut into the same lexemes: what a lexeme needs behind it, it has all the more behind wider
gaps (`Lexeme.EndsAt.loosen`).  The machine that reads queries looks neither at places nor at the
letters of keywords, so it reads the same query, or fails for the same reason.

## What is here

* `Relaid` — a text laid out anew;
* `Loosened`, `Sliced.relaid` — its lexemes, behind wider gaps;
* `Token.Alike`, `QueryError.kind` — tokens and errors but for layout;
* `tokenize_relaid` — layout does not change a query.
-/

set_option autoImplicit false
namespace LogSearch

/-- An error without its place, and without what it quotes. -/
def QueryError.kind : QueryError → QueryError
  | .invalidEscape _ _ => .invalidEscape "" 0
  | .unclosedQuote _ => .unclosedQuote 0
  | .invalidQuotedString _ reason => .invalidQuotedString "" reason
  | .unexpectedToken _ _ _ expected => .unexpectedToken "" 0 "" expected
  | .missingParenthesis _ => .missingParenthesis 0
  | .missingBrace _ => .missingBrace 0
  | .invalidSpecifier _ _ => .invalidSpecifier "" []
  | error => error

namespace Kql

open Text (isBlank dropBlank takeBlank)

/-! ## What layout leaves -/

/-- Tokens of one kind and one text; the letters of a keyword may be of another case. -/
def Token.Alike (t u : Token) : Prop :=
  u.kind = t.kind ∧ (u.value = t.value ∨ t.kind.IsKeyword ∧
    u.value.toList.map Char.toLower = t.value.toList.map Char.toLower)

/-- A text, which has `offset` bytes in front of it, laid out anew: there may be more blanks in front
of its tokens and at its end, and its keywords may be of another letter case. -/
inductive Relaid : Nat → List Token → List Char → List Char → Prop
  | done {offset : Nat} {text blanks : List Char} (hblanks : ∀ c ∈ blanks, isBlank c = true) :
    Relaid offset [] text (text ++ blanks)
  | token {offset : Nat} {t : Token} {ts : List Token} {front blanks text text' : List Char}
    (hplace : t.offset = offset + Text.Utf8.size front) (hblanks : ∀ c ∈ blanks, isBlank c = true)
    (h : Relaid t.offset ts text text') :
    Relaid offset (t :: ts) (front ++ text) (front ++ (blanks ++ text'))
  | keyword {offset : Nat} {t : Token} {ts : List Token} {front blanks word text text' : List Char}
    (hkeyword : t.kind.IsKeyword) (hplace : t.offset = offset + Text.Utf8.size front)
    (hblanks : ∀ c ∈ blanks, isBlank c = true)
    (hcase : word.map Char.toLower = t.value.toList.map Char.toLower)
    (h : Relaid (t.offset + Text.Utf8.size t.value.toList) ts text text') :
    Relaid offset (t :: ts) (front ++ (t.value.toList ++ text)) (front ++ (blanks ++ (word ++ text')))

/-! ## Lexemes behind wider gaps -/

/-- A lexeme behind blanks, and the same lexeme behind more blanks, unless it is a keyword of another
letter case. -/
structure Loosened (a b : List Char × Lexeme) : Prop where
  blanks : a.1 ≠ [] → b.1 ≠ []
  kind_eq : b.2.kind = a.2.kind
  lexeme : b.2 = a.2 ∨ a.2.kind.IsKeyword ∧ isKeyword b.2.slice = true ∧ b.2.value = b.2.slice ∧
    b.2.value.map Char.toLower = a.2.value.map Char.toLower

section loosened

variable {cs cs' rest rest' : List Char} {found found' : List (List Char × Lexeme)} {l : Lexeme}

theorem breaks_of_blank (h : ∀ c ∈ cs, isBlank c = true) : Breaks cs := by
  cases cs with
  | nil => trivial
  | cons c cs =>
    obtain ⟨hc, hcs⟩ := List.forall_mem_cons.1 h
    refine .inr ⟨hc, ?_⟩
    rw [dropBlank, List.dropWhile_eq_nil_iff.2 hcs]
    rfl

theorem head?_ne_equals_of_isKeyword (h : isKeyword cs = true) : cs.head? ≠ some '=' := by
  intro hhead
  obtain ⟨tail, rfl⟩ := List.head?_eq_some_iff.1 hhead
  simp [isKeyword] at h

theorem head?_ne_equals_of_blank (h : ∀ c ∈ cs, isBlank c = true) : cs.head? ≠ some '=' := by
  intro hhead
  obtain ⟨tail, rfl⟩ := List.head?_eq_some_iff.1 hhead
  cases h '=' List.mem_cons_self

theorem Lexeme.EndsAt.mono (h : l.EndsAt cs) (hbreaks : Breaks cs → Breaks cs')
    (hword : endsWord cs = true → endsWord cs' = true)
    (hequals : cs.head? ≠ some '=' → cs'.head? ≠ some '=') : l.EndsAt cs' := by
  rw [EndsAt] at h ⊢
  split at h
  · exact hbreaks h
  · exact hbreaks h
  · exact hword h
  · exact hword h
  · exact hword h
  · exact fun hop ↦ hequals (h hop)
  · trivial

/-- What a lexeme may end at, it may end at with wider gaps. -/
theorem Lexeme.EndsAt.loosen (h : l.EndsAt cs) (hs : Sliced cs found) (hs' : Sliced cs' found')
    (hf : List.Forall₂ Loosened found found') : l.EndsAt cs' := by
  cases hs' with
  | blank hblanks' =>
    have hbreaks := breaks_of_blank hblanks'
    exact h.mono (fun _ ↦ hbreaks) (fun _ ↦ hbreaks.endsWord)
      fun _ ↦ head?_ne_equals_of_blank hblanks'
  | @lexeme blanks' rest' after found' hblanks' hafter' _ =>
    cases hf with
    | cons ha _ =>
      cases hs with
      | @lexeme blanks rest before found hblanks hafter _ =>
        obtain ⟨hgap, hkind, hlexeme⟩ := ha
        dsimp only at hgap hkind hlexeme
        refine h.mono (fun hb ↦ ?_) (fun hw ↦ ?_) fun he ↦ ?_
        · obtain ⟨hunquoted, hkeyword⟩ := (hafter.breaks_iff hblanks).1 hb
          rw [hafter'.breaks_iff hblanks', hkind]
          exact ⟨hunquoted, fun hk ↦ hgap (hkeyword hk)⟩
        · rw [hafter'.endsWord_iff hblanks', hkind]
          exact ((hafter.endsWord_iff hblanks).1 hw).imp_left hgap
        · cases blanks' with
          | cons b blanks' =>
            have hne := head?_ne_equals_of_blank hblanks'
            simpa using hne
          | nil =>
            have hnil : blanks = [] := by_contra fun hne ↦ hgap hne rfl
            obtain ⟨c, tail, hslice⟩ := List.exists_cons_of_ne_nil hafter'.slice_ne_nil
            rcases hlexeme with rfl | ⟨-, hkey, -⟩
            · simpa [hnil, hslice] using he
            · have hne := head?_ne_equals_of_isKeyword hkey
              simpa [hslice] using hne

/-! ## Texts laid out anew -/

/-- A text is split in one way only behind so many bytes. -/
theorem append_inj_of_size {as bs : List Char} (h : as ++ cs = bs ++ cs')
    (hsize : Text.Utf8.size as = Text.Utf8.size bs) : as = bs ∧ cs = cs' := by
  have hnil {ds : List Char} (hds : Text.Utf8.size ds = 0) : ds = [] :=
    by_contra fun hne ↦ (size_pos_of_ne_nil hne).ne' hds
  rcases List.append_eq_append_iff.1 h with ⟨ds, rfl, rfl⟩ | ⟨ds, rfl, rfl⟩
  all_goals
    rw [Text.Utf8.size_append] at hsize
    obtain rfl := hnil (show Text.Utf8.size ds = 0 by omega)
    simp

theorem Lexeme.StandsBefore.of_isKeyword (h : l.StandsBefore rest) (hkind : l.kind.IsKeyword) :
    isKeyword l.slice = true ∧ l = ⟨keywordKind l.slice, l.slice, l.slice⟩ := by
  obtain ⟨c, tail, htail, hb, hread⟩ := h
  have hc : isDelimiter c = false := by
    cases hd : isDelimiter c with
    | false => rfl
    | true => exact absurd hkind ((reads_of_readLexeme hread hb).delimiter_iff.1 hd).1
  have hkey := (isSome_keywordAt?_iff hc hread).2 hkind.not_isUnquoted
  obtain ⟨found, hfound⟩ := Option.isSome_iff_exists.1 hkey
  rw [readLexeme_of_not_delimiter hc, hfound] at hread
  cases hread
  obtain ⟨slice, hslice, -, -, rfl⟩ := keywordAt?_eq_some_iff.1 hfound
  exact ⟨hslice, rfl⟩

theorem standsBefore_keyword {word : List Char} (h : isKeyword word = true) (hr : endsWord rest = true) :
    Lexeme.StandsBefore ⟨keywordKind word, word, word⟩ rest := by
  cases word with
  | nil => cases h
  | cons c tail =>
    have hc := bare_of_isKeyword h c List.mem_cons_self
    have hread := keywordAt?_keyword h hr
    rw [List.cons_append] at hread
    exact ⟨c, tail, rfl, hc.1, by rw [readLexeme_of_not_delimiter hc.not_delimiter, hread]⟩

theorem isKeyword_congr {word word' : List Char} (h : word'.map Char.toLower = word.map Char.toLower) :
    isKeyword word' = isKeyword word ∧ keywordKind word' = keywordKind word := by
  rw [isKeyword, isKeyword, keywordKind, keywordKind, h]
  exact ⟨rfl, rfl⟩

/-- **A text laid out anew is cut into the same lexemes** behind wider gaps. -/
theorem Sliced.relaid (hs : Sliced cs found) (offset : Nat) (front : List Char) {text' : List Char}
    (hr : Relaid offset (placeTokens (offset + Text.Utf8.size front) found) (front ++ cs) text') :
    ∃ cs' found', text' = front ++ cs' ∧ Sliced cs' found' ∧ List.Forall₂ Loosened found found' := by
  induction hs generalizing offset front text' with
  | @blank blanks hblanks =>
    generalize htext : front ++ blanks = text at hr
    cases hr with
    | @done _ _ more hmore =>
      subst htext
      refine ⟨blanks ++ more, [], List.append_assoc .., .blank fun c hc ↦ ?_, .nil⟩
      exact (List.mem_append.1 hc).elim (hblanks c) (hmore c)
  | @lexeme blanks rest l found hblanks hl hs ih =>
    generalize htext : front ++ (blanks ++ (l.slice ++ rest)) = text at hr
    rw [placeTokens] at hr
    cases hr with
    | @token _ _ _ front' more text text' hplace hmore hr =>
      dsimp only at hplace
      obtain ⟨rfl, rfl⟩ := append_inj_of_size ((List.append_assoc ..).trans htext)
        (by rw [Text.Utf8.size_append]; omega)
      obtain ⟨cs', found', rfl, hs', hf⟩ := ih _ _ hr
      have hl' : l.StandsBefore cs' := hl.before (hl.endsAt.loosen hs hs' hf)
      have hblanks' : ∀ c ∈ blanks ++ more, isBlank c = true := fun c hc ↦
        (List.mem_append.1 hc).elim (hblanks c) (hmore c)
      refine ⟨_, (blanks ++ more, l) :: found', ?_, .lexeme hblanks' hl' hs', .cons ?_ hf⟩
      · simp
      · exact ⟨fun hne ↦ by simp [hne], rfl, .inl rfl⟩
    | @keyword _ _ _ front' more word text text' hkeyword hplace hmore hcase hr =>
      dsimp only at hkeyword hplace hcase hr htext
      obtain ⟨hkey, hl_eq⟩ := hl.of_isKeyword hkeyword
      have hvalue : l.value = l.slice := congrArg Lexeme.value hl_eq
      rw [String.toList_ofList, hvalue] at hcase hr htext
      obtain ⟨rfl, htail⟩ := append_inj_of_size ((List.append_assoc ..).trans htext)
        (by rw [Text.Utf8.size_append]; omega)
      obtain rfl := List.append_cancel_left htail
      obtain ⟨cs', found', htext', hs', hf⟩ := ih _ [] hr
      rw [List.nil_append] at htext'
      subst htext'
      obtain ⟨hword, hkind⟩ := isKeyword_congr hcase
      have hends : endsWord text' = true :=
        (Lexeme.endsAt_of_isKeyword hkeyword).1 (hl.endsAt.loosen hs hs' hf)
      have hl' := standsBefore_keyword (hword.trans hkey) hends
      have hblanks' : ∀ c ∈ blanks ++ more, isBlank c = true := fun c hc ↦
        (List.mem_append.1 hc).elim (hblanks c) (hmore c)
      refine ⟨_, (blanks ++ more, _) :: found', ?_, .lexeme hblanks' hl' hs', .cons ?_ hf⟩
      · simp
      · refine ⟨fun hne ↦ by simp [hne], ?_, .inr ⟨hkeyword, hword.trans hkey, rfl, ?_⟩⟩
        · exact hkind.trans (congrArg Lexeme.kind hl_eq).symm
        · exact hcase.trans (congrArg (List.map Char.toLower) hvalue.symm)

theorem Loosened.alike_placeTokens (hf : List.Forall₂ Loosened found found') (offset offset' : Nat) :
    List.Forall₂ Token.Alike (placeTokens offset found) (placeTokens offset' found') := by
  induction hf generalizing offset offset' with
  | nil => exact .nil
  | cons h _ ih =>
    refine .cons ⟨h.kind_eq, ?_⟩ (ih _ _)
    rcases h.lexeme with heq | ⟨hkeyword, -, -, hcase⟩
    · exact .inl (congrArg (fun l ↦ String.ofList l.value) heq)
    · exact .inr ⟨hkeyword, by simpa using hcase⟩

theorem Token.Alike.outline_eq {t u : Token} (h : t.Alike u) : u.outline = t.outline := by
  obtain ⟨kind, value, offset⟩ := t
  obtain ⟨kind', value', offset'⟩ := u
  obtain ⟨hkind, hvalue⟩ := h
  dsimp only at hkind hvalue
  subst hkind
  rcases hvalue with rfl | ⟨hkeyword, -⟩
  · cases kind' <;> rfl
  · cases kind' <;> first | rfl | exact hkeyword.elim

theorem map_outline_of_alike {ts us : List Token} (h : List.Forall₂ Token.Alike ts us) :
    us.map Token.outline = ts.map Token.outline := by
  induction h with
  | nil => rfl
  | cons h _ ih => rw [List.map_cons, List.map_cons, h.outline_eq, ih]

end loosened

/-! ## Queries of texts laid out anew -/

section queries

variable {limit : Nat} {text text' : String} {ts us : List Token}

theorem mem_of_unexpected {t : Token} {expected : Expectation}
    (h : readTokens limit ts = .error (.unexpected t expected)) : t ∈ ts := by
  rw [readTokens] at h
  split at h
  · cases h
  · rcases run_eq_error h with ⟨before, u, behind, s, rfl, -, hs⟩ | ⟨s, -, hs⟩
    · rcases State.fault_of_step hs with ⟨_, hu⟩ | ⟨hu, -⟩
      · cases hu
        simp
      · cases hu
    · rcases State.fault_of_finish hs with ⟨_, hu⟩ | ⟨-, _, _, -, hu⟩
      · cases hu
      · cases hu

theorem mapError_map {α β : Type} (f : α → β) (kind : QueryError → QueryError)
    (result : Except QueryError α) : (result.map f).mapError kind = (result.mapError kind).map f := by
  cases result <;> rfl

theorem readTokens_outline (limit : Nat) (ts : List Token) :
    readTokens limit (ts.map Token.outline) =
      (readTokens limit ts).mapError ParseFault.outline := by
  cases ts with
  | nil => rfl
  | cons t ts => exact run_outline limit (.operand .start) (t :: ts)

/-- Faults that are the same but for places are errors of one kind. -/
theorem ParseFault.kind_toError {fault fault' : ParseFault} (h : fault'.outline = fault.outline)
    (hplace : ∀ t expected, fault = .unexpected t expected →
      (dropBytes? t.offset text.toList).isSome)
    (hplace' : ∀ t expected, fault' = .unexpected t expected →
      (dropBytes? t.offset text'.toList).isSome) :
    (fault'.toError text').kind = (fault.toError text).kind := by
  cases fault with
  | unexpected t expected =>
    cases fault' with
    | unexpected t' expected' =>
      obtain ⟨rest, hrest⟩ := Option.isSome_iff_exists.1 (hplace _ _ rfl)
      obtain ⟨rest', hrest'⟩ := Option.isSome_iff_exists.1 (hplace' _ _ rfl)
      injection h with _ hexpected
      simp only [toError, hrest, hrest', QueryError.kind, hexpected]
    | _ => cases h
  | _ =>
    cases fault' <;> cases h
    rfl

/-- **Tokens that are alike are one query**, or no query for one reason. -/
theorem parseTokens_alike (h : tokenize text = .ok ts) (h' : tokenize text' = .ok us)
    (halike : List.Forall₂ Token.Alike ts us) :
    (parseTokens limit text' us).mapError QueryError.kind =
      (parseTokens limit text ts).mapError QueryError.kind := by
  have houtline : (readTokens limit us).mapError ParseFault.outline =
      (readTokens limit ts).mapError ParseFault.outline := by
    rw [← readTokens_outline, ← readTokens_outline, map_outline_of_alike halike]
  have hplaces {text : String} {ts : List Token} (h : tokenize text = .ok ts) {fault : ParseFault}
      (hfault : readTokens limit ts = .error fault) (t : Token) (expected : Expectation)
      (ht : fault = .unexpected t expected) : (dropBytes? t.offset text.toList).isSome := by
    obtain ⟨before, behind, hts⟩ := List.append_of_mem (mem_of_unexpected (ht ▸ hfault))
    obtain ⟨rest, hrest, -⟩ := exists_rest_of_tokenize h hts
    exact Option.isSome_of_eq_some hrest
  rw [parseTokens, parseTokens]
  cases hread : readTokens limit ts with
  | ok tree =>
    cases hread' : readTokens limit us with
    | ok tree' =>
      rw [hread, hread'] at houtline
      cases houtline
      rfl
    | error fault' =>
      rw [hread, hread'] at houtline
      cases houtline
  | error fault =>
    cases hread' : readTokens limit us with
    | ok tree' =>
      rw [hread, hread'] at houtline
      cases houtline
    | error fault' =>
      rw [hread, hread'] at houtline
      injection houtline with houtline
      exact congrArg Except.error
        (ParseFault.kind_toError houtline (hplaces h hread) (hplaces h' hread'))

/-- **Layout does not change a query.**  However many blanks are put in front of the tokens of a text
and at its end, and whatever letter case its keywords are written in, the text has the same tokens but
for the letters of keywords, and it is the same query, or no query for the same reason. -/
theorem tokenize_relaid (h : tokenize text = .ok ts) (hr : Relaid 0 ts text.toList text'.toList) :
    (∃ us, tokenize text' = .ok us ∧ List.Forall₂ Token.Alike ts us) ∧
      ∀ limit, (Query.ofKql limit text').mapError QueryError.kind =
        (Query.ofKql limit text).mapError QueryError.kind := by
  obtain ⟨found, hs, rfl⟩ := exists_sliced_of_tokenize h
  obtain ⟨cs', found', htext', hs', hf⟩ := hs.relaid 0 [] hr
  have h' : tokenize text' = .ok (placeTokens 0 found') := by
    rw [← tokenize_of_sliced hs', ← String.ofList_toList (s := text'), htext', List.nil_append]
  have halike := Loosened.alike_placeTokens hf 0 0
  refine ⟨⟨_, h', halike⟩, fun limit ↦ ?_⟩
  have hparse : (parse limit text').mapError QueryError.kind =
      (parse limit text).mapError QueryError.kind := by
    rw [parse, parse, h, h']
    exact parseTokens_alike h h' halike
  rw [Query.ofKql, Query.ofKql, mapError_map, mapError_map, hparse]

/-- `not a<=b` with other blanks and in capitals. -/
theorem tokenize_relaid_capitals :
    let text := "not a<=b"
    let text' := " NOT  a <= b\t"
    let ts : List Token := [⟨.not, "not", 0⟩, ⟨.term, "a", 4⟩, ⟨.comparison .lte, "<=", 5⟩,
      ⟨.term, "b", 7⟩]
    tokenize text = .ok ts ∧ Relaid 0 ts text.toList text'.toList ∧
      (∃ us, tokenize text' = .ok us ∧ List.Forall₂ Token.Alike ts us) ∧
      (Query.ofKql 5 text').mapError QueryError.kind =
        (Query.ofKql 5 text).mapError QueryError.kind := by
  intro text text' ts
  have h : tokenize text = .ok ts := by
    rw [tokenize, lexemes_eq_within (Nat.le_refl _)]
    decide +kernel
  have hspace : ∀ c ∈ [' '], isBlank c = true := List.forall_mem_singleton.2 rfl
  have htab : ∀ c ∈ ['\t'], isBlank c = true := List.forall_mem_singleton.2 rfl
  have htext : text.toList = ['n', 'o', 't', ' ', 'a', '<', '=', 'b'] := by decide
  have htext' : text'.toList =
      [' ', 'N', 'O', 'T', ' ', ' ', 'a', ' ', '<', '=', ' ', 'b', '\t'] := by decide
  have hr : Relaid 0 ts text.toList text'.toList := by
    rw [htext, htext']
    have hb : Relaid 7 [] ['b'] ['b', '\t'] := @Relaid.done _ ['b'] ['\t'] htab
    have hle := @Relaid.token 5 ⟨.term, "b", 7⟩ _ ['<', '='] [' '] _ _ rfl hspace hb
    have ha := @Relaid.token 4 ⟨.comparison .lte, "<=", 5⟩ _ ['a'] [' '] _ _ rfl hspace hle
    have hgap := @Relaid.token 3 ⟨.term, "a", 4⟩ _ [' '] [' '] _ _ rfl hspace ha
    exact @Relaid.keyword 0 ⟨.not, "not", 0⟩ _ [] [' '] ['N', 'O', 'T'] _ _ trivial rfl hspace
      (by decide) hgap
  obtain ⟨htokens, hquery⟩ := tokenize_relaid h hr
  exact ⟨h, hr, htokens, hquery 5⟩

end queries
end Kql
end LogSearch
