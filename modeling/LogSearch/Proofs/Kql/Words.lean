import LogSearch.Kql.Lexer
import LogSearch.Kql.Printer
import LogSearch.Proofs.Json.Literal

/-!
# Cutting a text, word by word

What a query means depends on its tokens only through what they are and what they stand for, not on
where they are.  Such a pair is a *word*, and `words` cuts a text into them.  Each lemma here says of
one kind of word how it is cut off the front of a text, whatever stands behind it; a literal without
quotes and a keyword ask that the text behind breaks there (`Breaks`).

## What is here

* `lexemes_eq_within` — the lexemes of a text, in a form that can be computed;
* `words_cons` — one word, from what the lexer reads;
* `words_sign`, `words_literalChars`, `words_keyword`, `words_bare`, `words_star` — the words of a
  printed query;
* `tokenize_of_words` — a text that can be cut into words can be cut into tokens that are these words.
-/

set_option autoImplicit false
namespace LogSearch.Kql

open Text (isBlank dropBlank takeBlank)

/-- What a token is, with the characters that it stands for. -/
abbrev Word := TokenKind × List Char

/-- The word of a token. -/
def Token.word (t : Token) : Word := (t.kind, t.value.toList)

/-- The word of a lexeme. -/
def Lexeme.word (l : Lexeme) : Word := (l.kind, l.value)

/-- The words of a text. -/
def words (cs : List Char) : Except LexFault (List Word) :=
  (lexemes cs).map (·.map fun found ↦ found.2.word)

/-! ## One word -/

theorem lexemes_eq (cs : List Char) :
    lexemes cs = match dropBlank cs with
      | [] => .ok []
      | c :: rest => match readLexeme c rest with
        | .error fault => .error fault
        | .ok (lexeme, rest) => (lexemes rest).map ((takeBlank cs, lexeme) :: ·) := by
  rw [lexemes]
  split
  · next h => rw [h]
  · next c rest h =>
    rw [h]
    dsimp only
    split
    · next h' => rw [h']
    · next h' => rw [h']

/-- The first lexemes of a text, `n` at most. -/
def lexemesWithin : Nat → List Char → Except LexFault (List (List Char × Lexeme))
  | 0, _ => .ok []
  | n + 1, cs => match dropBlank cs with
    | [] => .ok []
    | c :: rest => match readLexeme c rest with
      | .error fault => .error fault
      | .ok (lexeme, rest) => (lexemesWithin n rest).map ((takeBlank cs, lexeme) :: ·)

/-- A text has no more lexemes than characters, so they can be computed by recursion on a number. -/
theorem lexemes_eq_within {n : Nat} {cs : List Char} (h : cs.length ≤ n) :
    lexemes cs = lexemesWithin n cs := by
  induction n generalizing cs with
  | zero =>
    rw [List.length_eq_zero_iff.1 (Nat.le_zero.1 h), lexemes_eq]
    rfl
  | succ n ih =>
    rw [lexemes_eq, lexemesWithin]
    cases hd : dropBlank cs with
    | nil => rfl
    | cons c rest =>
      dsimp only
      cases hl : readLexeme c rest with
      | error fault => rfl
      | ok found =>
        have hlt := length_readLexeme_lt hl (Text.isBlank_of_dropBlank_eq_cons hd)
        have hle := Text.length_dropBlank_le cs
        rw [hd] at hle
        dsimp only
        rw [ih (by omega)]

theorem map_map {ε α β γ : Type} (f : α → β) (g : β → γ) (x : Except ε α) :
    (x.map f).map g = x.map (g ∘ f) := by
  cases x <;> rfl

/-- The words of a text, by its first lexeme. -/
theorem words_eq (cs : List Char) :
    words cs = match dropBlank cs with
      | [] => .ok []
      | c :: rest => match readLexeme c rest with
        | .error fault => .error fault
        | .ok (lexeme, rest) => (words rest).map (lexeme.word :: ·) := by
  rw [words, lexemes_eq]
  split
  · rfl
  · split
    · rfl
    · rw [words, map_map, map_map]
      rfl

theorem words_nil : words [] = .ok [] := by
  rw [words_eq]
  rfl

/-- Blanks in front of a text do not matter. -/
theorem words_blank {c : Char} (h : isBlank c = true) (cs : List Char) :
    words (c :: cs) = words cs := by
  rw [words_eq, words_eq cs, show dropBlank (c :: cs) = dropBlank cs by simp [dropBlank, h]]

theorem words_cons {c : Char} {cs rest : List Char} (l : Lexeme) (hb : isBlank c = false)
    (h : readLexeme c cs = .ok (l, rest)) : words (c :: cs) = (words rest).map (l.word :: ·) := by
  rw [words_eq, show dropBlank (c :: cs) = c :: cs by simp [dropBlank, hb]]
  simp only [h]

/-! ## Signs -/

theorem words_leftParen (rest : List Char) :
    words ('(' :: rest) = (words rest).map ((.leftParen, ['(']) :: ·) :=
  words_cons ⟨.leftParen, ['('], ['(']⟩ rfl rfl

theorem words_rightParen (rest : List Char) :
    words (')' :: rest) = (words rest).map ((.rightParen, [')']) :: ·) :=
  words_cons ⟨.rightParen, [')'], [')']⟩ rfl rfl

theorem words_leftBrace (rest : List Char) :
    words ('{' :: rest) = (words rest).map ((.leftBrace, ['{']) :: ·) :=
  words_cons ⟨.leftBrace, ['{'], ['{']⟩ rfl rfl

theorem words_rightBrace (rest : List Char) :
    words ('}' :: rest) = (words rest).map ((.rightBrace, ['}']) :: ·) :=
  words_cons ⟨.rightBrace, ['}'], ['}']⟩ rfl rfl

theorem words_colon (rest : List Char) :
    words (':' :: rest) = (words rest).map ((.colon, [':']) :: ·) :=
  words_cons ⟨.colon, [':'], [':']⟩ rfl rfl

/-- The word of a comparison. -/
def signWord (op : Comparison) : Word := (.comparison op, op.sign)

/-- A comparison keeps the sign it was written with, unless an `=` behind it makes it another. -/
theorem words_sign {op : Comparison} {rest : List Char}
    (h : op = .lt ∨ op = .gt → rest.head? ≠ some '=') :
    words (op.sign ++ rest) = (words rest).map (signWord op :: ·) := by
  let lexeme : Lexeme := ⟨.comparison op, op.sign, op.sign⟩
  cases op with
  | lte => exact words_cons lexeme rfl rfl
  | gte => exact words_cons lexeme rfl rfl
  | lt =>
    refine words_cons lexeme rfl ?_
    have hne := h (.inl rfl)
    simp only [readLexeme, readComparison]
    split
    · next h' => exact absurd (congrArg List.head? h') hne
    · rfl
  | gt =>
    refine words_cons lexeme rfl ?_
    have hne := h (.inr rfl)
    simp only [readLexeme, readComparison]
    split
    · next h' => exact absurd (congrArg List.head? h') hne
    · rfl

/-! ## Literals between quotes -/

theorem closeQuote_append {cs : List Char} (h : ∀ c ∈ cs, c ≠ '"' ∧ c ≠ '\\') (rest : List Char) :
    closeQuote false (cs ++ rest)
      = (closeQuote false rest).map fun found ↦ (cs ++ found.1, found.2) := by
  induction cs with
  | nil => simp
  | cons c cs ih =>
    obtain ⟨hq, hb⟩ := h c List.mem_cons_self
    rw [List.cons_append, closeQuote]
    simp [hq, hb, ih fun d hd ↦ h d (List.mem_cons_of_mem _ hd), Function.comp_def]

theorem closeQuote_escapeChar (c : Char) (rest : List Char) :
    closeQuote false (Json.escapeChar c ++ rest)
      = (closeQuote false rest).map fun found ↦ (Json.escapeChar c ++ found.1, found.2) := by
  rcases Json.escapeChar_cases c with ⟨he, hq, hb, -⟩ | ⟨x, tail, he, htail, -⟩
  · rw [he]
    exact closeQuote_append (by simp [hq, hb]) rest
  · rw [he, List.cons_append, List.cons_append, closeQuote, closeQuote]
    simp [closeQuote_append htail, Function.comp_def]

/-- No quote inside a literal closes it. -/
theorem closeQuote_flatMap_escapeChar (cs rest : List Char) :
    closeQuote false (cs.flatMap Json.escapeChar ++ '"' :: rest)
      = some (cs.flatMap Json.escapeChar ++ ['"'], rest) := by
  induction cs with
  | nil => rfl
  | cons c cs ih =>
    rw [List.flatMap_cons, List.append_assoc, closeQuote_escapeChar, ih]
    simp

/-- A literal between quotes, whatever stands behind it. -/
theorem words_literalChars (cs rest : List Char) :
    words (Json.literalChars cs ++ rest) = (words rest).map ((.quoted, cs) :: ·) := by
  rw [Json.literalChars, List.append_assoc, List.cons_append, List.singleton_append]
  refine words_cons ⟨.quoted, cs, Json.literalChars cs⟩ rfl ?_
  simp only [readLexeme, readQuoted, closeQuote_flatMap_escapeChar]
  rw [show '"' :: (cs.flatMap Json.escapeChar ++ ['"']) = Json.literalChars cs from rfl,
    Json.decodeLiteral_literalChars]

/-! ## Where a literal breaks off -/

/-- A literal without quotes ends in front of the text: at its end, at a delimiter, or at blanks
with one of these or a keyword behind them. -/
def Breaks : List Char → Prop
  | [] => True
  | c :: rest => isDelimiter c = true ∨ isBlank c = true ∧ endsTerm (dropBlank rest) = true

theorem delimiter_cases {c : Char} (h : isDelimiter c = true) :
    isSpecial c = true ∧ isBlank c = false ∧ c ≠ '\\' := by
  simp only [isDelimiter, List.mem_cons, List.not_mem_nil, or_false, decide_eq_true_eq] at h
  rcases h with rfl | rfl | rfl | rfl | rfl | rfl | rfl | rfl <;> decide

theorem Breaks.endsWord {rest : List Char} (h : Breaks rest) : endsWord rest = true := by
  cases rest with
  | nil => rfl
  | cons c rest => rcases h with h | ⟨h, -⟩ <;> simp [Kql.endsWord, h]

theorem readTerm_of_breaks {rest : List Char} (h : Breaks rest) :
    readTerm rest = .ok ⟨[], [], false, rest⟩ := by
  cases rest with
  | nil => rw [readTerm]
  | cons c rest =>
    rcases h with h | ⟨hb, he⟩
    · obtain ⟨-, hb, hs⟩ := delimiter_cases h
      rw [readTerm, if_neg (by simp [hb]), if_neg hs, if_pos h]
    · rw [readTerm, if_pos hb, if_pos he]

/-- A character that stands for itself in a literal without quotes. -/
def IsBare (c : Char) : Prop := isBlank c = false ∧ isSpecial c = false

theorem IsBare.not_delimiter {c : Char} (h : IsBare c) : isDelimiter c = false := by
  cases hd : isDelimiter c with
  | false => rfl
  | true => rw [← h.2, (delimiter_cases hd).1]

theorem IsBare.ne {c d : Char} (h : IsBare c) (hd : isSpecial d = true) : c ≠ d := by
  rintro rfl
  rw [h.2] at hd
  cases hd

theorem readTerm_bare {cs rest : List Char} (hcs : ∀ c ∈ cs, IsBare c) (h : Breaks rest) :
    readTerm (cs ++ rest) = .ok ⟨cs, cs, false, rest⟩ := by
  induction cs with
  | nil => exact readTerm_of_breaks h
  | cons c cs ih =>
    have hc := hcs c List.mem_cons_self
    rw [List.cons_append, readTerm, if_neg (by simp [hc.1]), if_neg (hc.ne rfl),
      if_neg (by simp [hc.not_delimiter]), ih fun d hd ↦ hcs d (List.mem_cons_of_mem _ hd)]
    rfl

/-! ## Keywords and bare words -/

/-- The letters of the keywords stand for themselves. -/
theorem bare_of_toLower {c : Char} (h : c.toLower ∈ ['a', 'n', 'd', 'o', 'r', 't']) :
    IsBare c := by
  by_cases hn : 65 ≤ c.toNat ∧ c.toNat ≤ 90
  · refine ⟨?_, ?_⟩
    · simp [isBlank]
      omega
    · simp only [isSpecial, List.mem_cons, List.not_mem_nil, or_false, decide_eq_false_iff_not]
      rintro (rfl | rfl | rfl | rfl | rfl | rfl | rfl | rfl | rfl | rfl) <;> revert hn <;> decide
  · -- no upper case letter, so the character is its own lower case
    have hc : c.toLower = c := dif_neg hn
    simp only [hc, List.mem_cons, List.not_mem_nil, or_false] at h
    rcases h with rfl | rfl | rfl | rfl | rfl | rfl <;> exact ⟨rfl, rfl⟩

theorem bare_of_isKeyword {cs : List Char} (h : isKeyword cs = true) : ∀ c ∈ cs, IsBare c := by
  intro c hc
  have hmem : c.toLower ∈ cs.map Char.toLower := List.mem_map_of_mem hc
  refine bare_of_toLower ?_
  simp only [isKeyword, List.mem_cons, List.not_mem_nil, or_false, decide_eq_true_eq] at h
  rcases h with h | h | h <;> rw [h] at hmem <;> simp only [List.mem_cons] at hmem ⊢ <;> grind

/-- A keyword in front of a text that starts with a bare word is all of the word, and no more. -/
theorem length_of_keyword {cs rest : List Char} {n : Nat} (hcs : ∀ c ∈ cs, IsBare c)
    (hr : endsWord rest = true) (hk : isKeyword ((cs ++ rest).take n) = true)
    (hn : n ≤ (cs ++ rest).length) (hd : endsWord ((cs ++ rest).drop n) = true) :
    n = cs.length := by
  rcases Nat.lt_trichotomy n cs.length with hlt | heq | hgt
  · -- the word would go on
    rw [List.drop_append_of_le_length (Nat.le_of_lt hlt), List.drop_eq_getElem_cons hlt,
      List.cons_append] at hd
    have hc := hcs _ (List.getElem_mem hlt)
    simp [endsWord, hc.1, hc.not_delimiter] at hd
  · exact heq
  · -- what ends the word would be a letter of the keyword
    cases rest with
    | nil =>
      rw [List.append_nil] at hn
      omega
    | cons r rest =>
      have hmem : r ∈ (cs ++ r :: rest).take n := by
        rw [List.take_append, List.take_cons (by omega)]
        simp
      have hbare := bare_of_isKeyword hk r hmem
      simp [endsWord, hbare.1, hbare.not_delimiter] at hr

theorem isKeyword_of_mem_keywords {word cs : List Char} {kind : TokenKind}
    (h : (word, kind) ∈ keywords) (hcs : cs.map Char.toLower = word) : isKeyword cs = true := by
  have hin : word ∈ keywords.map Prod.fst := List.mem_map_of_mem h
  rw [isKeyword, hcs]
  exact decide_eq_true hin

theorem keywordAt?_bare {cs rest : List Char} (hcs : ∀ c ∈ cs, IsBare c)
    (hk : isKeyword cs = false) (hr : endsWord rest = true) : keywordAt? (cs ++ rest) = none := by
  rw [keywordAt?, List.findSome?_eq_none_iff]
  intro ⟨word, kind⟩ hmem
  dsimp only
  split
  · next h =>
    simp only [Bool.and_eq_true, decide_eq_true_eq] at h
    have hkey := isKeyword_of_mem_keywords hmem h.1
    have hn := congrArg List.length h.1
    rw [List.length_map, List.length_take] at hn
    have hlen := length_of_keyword hcs hr hkey (by omega) h.2
    rw [hlen, List.take_left, hk] at hkey
    cases hkey
  · rfl

/-- The kind of a keyword. -/
def keywordKind (cs : List Char) : TokenKind :=
  if cs.map Char.toLower = ['a', 'n', 'd'] then .and
  else if cs.map Char.toLower = ['o', 'r'] then .or
  else .not

theorem keywordAt?_keyword {cs rest : List Char} (h : isKeyword cs = true)
    (hr : endsWord rest = true) : keywordAt? (cs ++ rest) = some (⟨keywordKind cs, cs, cs⟩, rest) := by
  simp only [isKeyword, List.mem_cons, List.not_mem_nil, or_false, decide_eq_true_eq,
    List.map_eq_cons_iff, List.map_eq_nil_iff] at h
  rcases h with ⟨x, _, rfl, hx, y, _, rfl, hy, z, _, rfl, hz, rfl⟩ |
    ⟨x, _, rfl, hx, y, _, rfl, hy, rfl⟩ | ⟨x, _, rfl, hx, y, _, rfl, hy, z, _, rfl, hz, rfl⟩
  · simp [keywordAt?, keywords, keywordKind, hx, hy, hz, hr]
  · simp [keywordAt?, keywords, keywordKind, hx, hy, hr]
  · simp [keywordAt?, keywords, keywordKind, hx, hy, hz, hr]

/-- Where no delimiter stands, a keyword is read, or a literal without quotes. -/
theorem readLexeme_of_not_delimiter {c : Char} (hc : isDelimiter c = false) (rest : List Char) :
    readLexeme c rest = match keywordAt? (c :: rest) with
      | some found => .ok found
      | none => (readTerm (c :: rest)).map fun term ↦ (term.lexeme, term.rest) := by
  rw [readLexeme]
  all_goals first
    | rfl
    | rintro rfl
      cases hc

/-- A keyword, in any letter case, where a word ends behind it. -/
theorem words_keyword {cs rest : List Char} (h : isKeyword cs = true) (hr : endsWord rest = true) :
    words (cs ++ rest) = (words rest).map ((keywordKind cs, cs) :: ·) := by
  have hcs := bare_of_isKeyword h
  have hk := keywordAt?_keyword h hr
  cases cs with
  | nil => cases h
  | cons c cs =>
    have hc := hcs c List.mem_cons_self
    rw [List.cons_append] at hk ⊢
    refine words_cons ⟨keywordKind (c :: cs), c :: cs, c :: cs⟩ hc.1 ?_
    rw [readLexeme_of_not_delimiter hc.not_delimiter, hk]

/-- A keyword with a blank behind it. -/
theorem words_operator {cs : List Char} (h : isKeyword cs = true) (rest : List Char) :
    words (cs ++ ' ' :: rest) = (words rest).map ((keywordKind cs, cs) :: ·) := by
  rw [words_keyword h rfl, words_blank rfl]

theorem words_not (rest : List Char) :
    words ('n' :: 'o' :: 't' :: ' ' :: rest) = (words rest).map ((.not, ['n', 'o', 't']) :: ·) :=
  words_operator (show isKeyword ['n', 'o', 't'] = true from rfl) rest

/-! ## Literals without quotes -/

/-- **A literal without quotes stands for itself** where it breaks off. -/
theorem words_bare {cs rest : List Char} (hne : cs ≠ []) (hcs : ∀ c ∈ cs, IsBare c)
    (hkey : isKeyword cs = false) (hr : Breaks rest) :
    words (cs ++ rest) = (words rest).map ((.term, cs) :: ·) := by
  have hk := keywordAt?_bare hcs hkey hr.endsWord
  have ht := readTerm_bare hcs hr
  cases cs with
  | nil => exact absurd rfl hne
  | cons c cs =>
    have hc := hcs c List.mem_cons_self
    have hlexeme : Term.lexeme ⟨c :: cs, c :: cs, false, rest⟩ = ⟨.term, c :: cs, c :: cs⟩ := by
      simp [Term.lexeme, hc.ne (d := '*') rfl]
    rw [List.cons_append] at hk ht ⊢
    refine words_cons ⟨.term, c :: cs, c :: cs⟩ hc.1 ?_
    rw [readLexeme_of_not_delimiter hc.not_delimiter, hk, ht, ← hlexeme]
    rfl

/-- A `*` on its own. -/
theorem words_star {rest : List Char} (hr : Breaks rest) :
    words ('*' :: rest) = (words rest).map ((.wildcard, ['*']) :: ·) := by
  have hk : keywordAt? ('*' :: rest) = none := by
    simp [keywordAt?, keywords]
  refine words_cons ⟨.wildcard, ['*'], ['*']⟩ rfl ?_
  rw [readLexeme, hk]
  · dsimp only
    rw [readTerm, if_neg (by decide), if_neg (by decide), if_neg (by decide),
      readTerm_of_breaks hr]
    rfl
  all_goals decide

/-! ## Words and tokens -/

theorem map_word_placeTokens (offset : Nat) (found : List (List Char × Lexeme)) :
    (placeTokens offset found).map Token.word = found.map fun l ↦ l.2.word := by
  induction found generalizing offset with
  | nil => rfl
  | cons l found ih =>
    rw [placeTokens, List.map_cons, List.map_cons, ih, Token.word, Lexeme.word, String.toList_ofList]

/-- A text that can be cut into words can be cut into tokens. -/
theorem tokenize_of_words {text : String} {ws : List Word} (h : words text.toList = .ok ws) :
    ∃ ts, tokenize text = .ok ts ∧ ts.map Token.word = ws := by
  rw [words] at h
  rw [tokenize]
  cases hf : lexemes text.toList with
  | error fault => rw [hf] at h; cases h
  | ok found =>
    rw [hf] at h
    cases h
    exact ⟨placeTokens 0 found, rfl, map_word_placeTokens 0 found⟩

end LogSearch.Kql
