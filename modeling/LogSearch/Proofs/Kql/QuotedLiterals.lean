import LogSearch.Proofs.Json.Encoding
import LogSearch.Proofs.Kql.Quoting

/-!
# Literals between quotes

A quoted literal is scanned twice: once for its closing quote, the first one with no backslash of its
own in front of it, and once for what stands between the quotes, as JSON has it.  The two scans agree on
where a literal ends.  So where the lexer comes to a quote, it takes a string literal whole and goes on
right behind it; and if none stands there, it fails with what the first scan found
(`tokenize_quote`).

## What is here

* `Lexed` — how far the lexer gets in a text;
* `closeQuote_of_encodesText`, `closesBehind_of_closeQuote`, `closeQuote_eq_none_iff` — the quote that
  the first scan finds;
* `ReadsQuote`, `tokenize_quote` — what becomes of a text with a quote in it.
-/

set_option autoImplicit false
namespace LogSearch.Kql

open Text (dropBlank takeBlank)

/-! ## How far the lexer gets -/

/-- The lexer gets from a text to what is left of it, lexeme by lexeme. -/
inductive Lexed : List Char → List (List Char × Lexeme) → List Char → Prop
  | refl (cs : List Char) : Lexed cs [] cs
  | step {cs tail rest unread : List Char} {c : Char} {l : Lexeme}
    {found : List (List Char × Lexeme)} (hd : dropBlank cs = c :: tail)
    (hl : readLexeme c tail = .ok (l, rest)) (h : Lexed rest found unread) :
    Lexed cs ((takeBlank cs, l) :: found) unread

/-- The text of lexemes, with the blanks in front of each. -/
def spelled (found : List (List Char × Lexeme)) : List Char :=
  found.flatMap fun lexeme ↦ lexeme.1 ++ lexeme.2.slice

theorem placeTokens_append (offset : Nat) (found more : List (List Char × Lexeme)) :
    placeTokens offset (found ++ more)
      = placeTokens offset found ++ placeTokens (offset + Text.Utf8.size (spelled found)) more := by
  induction found generalizing offset with
  | nil => rfl
  | cons lexeme found ih =>
    obtain ⟨blanks, l⟩ := lexeme
    simp only [List.cons_append, placeTokens, ih, spelled, List.flatMap_cons, Text.Utf8.size_append]
    simp only [Nat.add_assoc]

section lexed

variable {cs rest unread : List Char} {found more : List (List Char × Lexeme)}

theorem Lexed.append (h : Lexed cs found rest) (h' : Lexed rest more unread) :
    Lexed cs (found ++ more) unread := by
  induction h with
  | refl => exact h'
  | step hd hl _ ih => exact .step hd hl (ih h')

theorem Lexed.eq_append (h : Lexed cs found rest) : cs = spelled found ++ rest := by
  induction h with
  | refl => rfl
  | @step cs tail rest unread c l found hd hl _ ih =>
    have hsplit := (readLexeme_split hl (Text.isBlank_of_dropBlank_eq_cons hd)).1
    calc cs = takeBlank cs ++ dropBlank cs := (Text.takeBlank_append_dropBlank cs).symm
      _ = takeBlank cs ++ (l.slice ++ rest) := by rw [hd, hsplit]
      _ = takeBlank cs ++ (l.slice ++ (spelled found ++ unread)) := by rw [← ih]
      _ = spelled ((takeBlank cs, l) :: found) ++ unread := by simp [spelled]

/-- The lexemes of a text are those up to where the lexer got, and those of what is left. -/
theorem Lexed.lexemes_eq (h : Lexed cs found rest) :
    lexemes cs = (lexemes rest).map (found ++ ·) := by
  induction h with
  | refl cs =>
    cases lexemes cs <;> rfl
  | step hd hl _ ih =>
    rw [Kql.lexemes_eq, hd]
    simp only [hl, ih, map_map]
    rfl

end lexed

/-! ## The closing quote -/

/-- A quote behind the text is the first one with no backslash of its own in front of it. -/
def ClosesBehind (inside : List Char) : Prop :=
  backslashes inside % 2 = 0 ∧
    ∀ before behind, inside = before ++ '"' :: behind → backslashes before % 2 = 1

/-- Every quote in the text has a backslash of its own in front of it. -/
def NeverCloses (cs : List Char) : Prop :=
  ∀ inside behind, cs = inside ++ '"' :: behind → backslashes inside % 2 = 1

section quote

variable {cs rest slice body value : List Char} {c : Char}

theorem closeQuote_backslash (l : Char) (rest : List Char) :
    closeQuote false ('\\' :: l :: rest)
      = (closeQuote false rest).map fun found ↦ ('\\' :: l :: found.1, found.2) := by
  rw [closeQuote, closeQuote]
  simp [Function.comp_def]

/-- No character closes a literal, however it is written. -/
theorem closeQuote_of_encodes (h : Json.Encodes cs c) (rest : List Char) :
    closeQuote false (cs ++ rest)
      = (closeQuote false rest).map fun found ↦ (cs ++ found.1, found.2) := by
  cases h with
  | plain hc hquote hbackslash => exact closeQuote_append (by simp [hquote, hbackslash]) rest
  | letter h => exact closeQuote_backslash _ rest
  | unit h =>
    rw [List.cons_append, List.cons_append, closeQuote_backslash, closeQuote_append h.forall_mem_ne]
    simp [Function.comp_def]
  | pair h h' =>
    rw [List.cons_append, List.cons_append, closeQuote_backslash, List.append_assoc,
      closeQuote_append h.forall_mem_ne, List.cons_append, List.cons_append, closeQuote_backslash,
      closeQuote_append h'.forall_mem_ne]
    simp [Function.comp_def]

/-- **The first scan stops where the literal ends.** -/
theorem closeQuote_of_encodesText (h : Json.EncodesText body value) (rest : List Char) :
    closeQuote false (body ++ '"' :: rest) = some (body ++ ['"'], rest) := by
  induction h with
  | nil => rfl
  | cons h _ ih =>
    rw [List.append_assoc, closeQuote_of_encodes h, ih]
    simp

theorem escapesNext_of_closeQuote_eq_some {escaped : Bool}
    (h : closeQuote escaped cs = some (slice, rest)) :
    ∃ inside, slice = inside ++ ['"'] ∧ escapesNext escaped inside = false ∧
      ∀ before behind, inside = before ++ '"' :: behind → escapesNext escaped before = true := by
  induction cs generalizing escaped slice with
  | nil => cases h
  | cons c cs ih =>
    rw [closeQuote] at h
    split at h
    · next hc =>
      cases h
      obtain ⟨rfl, rfl⟩ : c = '"' ∧ escaped = false := by simpa using hc
      exact ⟨[], rfl, rfl, by simp⟩
    · next hc =>
      obtain ⟨⟨slice', rest'⟩, hclose, hmap⟩ := Option.map_eq_some_iff.1 h
      cases hmap
      obtain ⟨inside, rfl, hend, hquotes⟩ := ih hclose
      refine ⟨c :: inside, rfl, hend, fun before behind hsplit ↦ ?_⟩
      cases before with
      | nil =>
        obtain ⟨rfl, -⟩ := List.cons.inj hsplit
        simpa [escapesNext] using hc
      | cons d before =>
        rw [List.cons_append] at hsplit
        obtain ⟨rfl, hinside⟩ := List.cons.inj hsplit
        exact hquotes before behind hinside

theorem escapesNext_eq_false_iff (cs : List Char) :
    escapesNext false cs = false ↔ backslashes cs % 2 = 0 := by
  rw [← Bool.not_eq_true, escapesNext_eq_true_iff]
  omega

theorem closesBehind_of_closeQuote (h : closeQuote false cs = some (slice, rest)) :
    ∃ inside, slice = inside ++ ['"'] ∧ ClosesBehind inside := by
  obtain ⟨inside, hslice, hend, hquotes⟩ := escapesNext_of_closeQuote_eq_some h
  exact ⟨inside, hslice, (escapesNext_eq_false_iff inside).1 hend,
    fun before behind hsplit ↦ (escapesNext_eq_true_iff before).1 (hquotes before behind hsplit)⟩

theorem closeQuote_eq_none_iff : closeQuote false cs = none ↔ NeverCloses cs := by
  constructor
  · rintro h inside behind rfl
    exact (escapesNext_eq_true_iff inside).1 (escapesNext_of_closeQuote h)
  · intro h
    rw [Option.eq_none_iff_forall_ne_some]
    rintro ⟨slice, rest⟩ hclose
    obtain ⟨inside, rfl, hend, -⟩ := closesBehind_of_closeQuote hclose
    have hsplit := closeQuote_split hclose
    have hodd := h inside rest (by rw [← hsplit]; simp)
    omega

end quote

/-! ## What becomes of a quote -/

/-- A string literal starts with the quote in front of the text. -/
def BeginsLiteral (rest : List Char) : Prop :=
  ∃ body value behind, Json.EncodesText body value ∧ rest = body ++ '"' :: behind

/-- What becomes of a text in which the lexer found lexemes and came to a quote, with so much in front
of the quote and behind it. -/
structure ReadsQuote (text : String) (found : List (List Char × Lexeme)) (before rest : List Char) :
    Prop where
  /-- A literal is one token, which stands for the text that the literal stands for, and the lexer goes
  on right behind it. -/
  literal (body value behind : List Char) (hbody : Json.EncodesText body value)
    (hrest : rest = body ++ '"' :: behind) :
    (∃ blanks, Lexed text.toList
      (found ++ [(blanks, ⟨.quoted, value, '"' :: (body ++ ['"'])⟩)]) behind) ∧
    tokenize text = match lexemes behind with
      | .ok more => .ok (placeTokens 0 found ++
          ⟨.quoted, String.ofList value, Text.Utf8.size before⟩ ::
            placeTokens (Text.Utf8.size (before ++ '"' :: (body ++ ['"']))) more)
      | .error fault => .error (fault.toError text.toList)
  /-- Where there is none, the lexer fails at the quote if nothing closes it. -/
  unclosed (hnone : ¬ BeginsLiteral rest) (hnever : NeverCloses rest) :
    tokenize text = .error (.unclosedQuote (Text.Utf8.size before))
  /-- And otherwise with the text up to the quote that closes it. -/
  invalid (hnone : ¬ BeginsLiteral rest) (hcloses : ¬ NeverCloses rest) :
    ∃ inside behind reason, rest = inside ++ '"' :: behind ∧ ClosesBehind inside ∧
      Json.decodeLiteral ('"' :: (inside ++ ['"'])) = .error reason ∧
      tokenize text = .error (.invalidQuotedString (String.ofList ('"' :: (inside ++ ['"']))) reason)

section reads

variable {text : String} {cs tail rest : List Char} {c : Char} {found : List (List Char × Lexeme)}

theorem tokenize_of_error (h : Lexed text.toList found cs) (hd : dropBlank cs = c :: tail)
    {fault : LexFault} (hl : readLexeme c tail = .error fault) :
    tokenize text = .error (fault.toError text.toList) := by
  rw [tokenize, h.lexemes_eq, lexemes_eq, hd]
  simp only [hl]
  rfl

/-- **What becomes of a quote** where a token starts.  If a string literal stands there, it is one token
and the lexer goes on right behind it.  If none does, the lexer fails: at the quote if nothing closes
it, and otherwise with the text up to the quote that does. -/
theorem tokenize_quote (h : Lexed text.toList found cs) (hd : dropBlank cs = '"' :: rest) :
    ∃ before, text.toList = before ++ '"' :: rest ∧ ReadsQuote text found before rest := by
  have htext : text.toList = spelled found ++ takeBlank cs ++ '"' :: rest := by
    rw [h.eq_append, List.append_assoc, ← hd, Text.takeBlank_append_dropBlank]
  refine ⟨spelled found ++ takeBlank cs, htext, ?_, ?_, ?_⟩
  · rintro body value behind hbody rfl
    have hclose := closeQuote_of_encodesText hbody behind
    have hdecode := Json.decodeLiteral_eq_ok_iff.2 ⟨body, hbody, rfl⟩
    have hl : readLexeme '"' (body ++ '"' :: behind)
        = .ok (⟨.quoted, value, '"' :: (body ++ ['"'])⟩, behind) := by
      simp only [readLexeme, readQuoted, hclose, hdecode]
    have hlexed := h.append (.step hd hl (.refl behind))
    refine ⟨⟨takeBlank cs, hlexed⟩, ?_⟩
    rw [tokenize, hlexed.lexemes_eq]
    cases lexemes behind with
    | error fault => rfl
    | ok more =>
      simp only [Except.map, List.append_assoc, placeTokens_append]
      simp [placeTokens, spelled]
  · intro hnone hnever
    have hclose := closeQuote_eq_none_iff.2 hnever
    have hl : readLexeme '"' rest = .error (.unclosedQuote ('"' :: rest)) := by
      simp only [readLexeme, readQuoted, hclose]
    rw [tokenize_of_error h hd hl, htext, LexFault.toError, Text.Utf8.size_append, Nat.add_sub_cancel]
  · intro hnone hcloses
    have hsome : closeQuote false rest ≠ none := mt closeQuote_eq_none_iff.1 hcloses
    obtain ⟨⟨slice, behind⟩, hclose⟩ := Option.ne_none_iff_exists'.1 hsome
    obtain ⟨inside, rfl, hinside⟩ := closesBehind_of_closeQuote hclose
    have hrest : rest = inside ++ '"' :: behind := by simpa using (closeQuote_split hclose).symm
    cases hdecode : Json.decodeLiteral ('"' :: (inside ++ ['"'])) with
    | ok value =>
      obtain ⟨body, hbody, hslice⟩ := Json.decodeLiteral_eq_ok_iff.1 hdecode
      obtain rfl : inside = body := by simpa using hslice
      exact absurd ⟨inside, value, behind, hbody, hrest⟩ hnone
    | error reason =>
      have hl : readLexeme '"' rest = .error (.invalidQuoted ('"' :: (inside ++ ['"'])) reason) := by
        simp only [readLexeme, readQuoted, hclose, hdecode]
      exact ⟨inside, behind, reason, hrest, hinside, hdecode, tokenize_of_error h hd hl⟩

/-- A literal with a surrogate pair behind a word, a quote that only an escaped quote follows, and half
of a pair. -/
theorem tokenize_quote_samples :
    (Lexed "a \"\\uD83d\\ude00\"".toList [([], ⟨.term, ['a'], ['a']⟩)] " \"\\uD83d\\ude00\"".toList ∧
      tokenize "a \"\\uD83d\\ude00\"" = .ok [⟨.term, "a", 0⟩, ⟨.quoted, "😀", 2⟩]) ∧
    tokenize "\"a\\\"" = .error (.unclosedQuote 0) ∧
    ∃ reason, tokenize "\"\\ud83d\"" = .error (.invalidQuotedString "\"\\ud83d\"" reason) := by
  have hword : Lexed "a \"\\uD83d\\ude00\"".toList [([], ⟨.term, ['a'], ['a']⟩)]
      " \"\\uD83d\\ude00\"".toList := by
    have hd : dropBlank "a \"\\uD83d\\ude00\"".toList = 'a' :: " \"\\uD83d\\ude00\"".toList := by decide
    refine .step hd ?_ (.refl _)
    decide +kernel
  have hpair : Json.EncodesText "\\uD83d\\ude00".toList ['😀'] := by
    have hhigh : Json.IsUnit ['D', '8', '3', 'd'] (((13 * 16 + 8) * 16 + 3) * 16 + 13) :=
      .mk (.inr rfl) (.inl rfl) (.inl rfl) (.inl rfl)
    have hlow : Json.IsUnit ['d', 'e', '0', '0'] (((13 * 16 + 14) * 16 + 0) * 16 + 0) :=
      .mk (.inl rfl) (.inl rfl) (.inl rfl) (.inl rfl)
    exact .cons (.pair hhigh hlow (by decide) (by decide) rfl) .nil
  have hnone {rest : List Char} {stop : Json.Stop} (hread : Json.readString rest = .error stop) :
      ¬ BeginsLiteral rest := by
    rintro ⟨body, value, behind, hbody, rfl⟩
    cases hread.symm.trans (Json.readString_eq_ok_iff.2 ⟨body, hbody, rfl⟩)
  refine ⟨⟨hword, ?_⟩, ?_, ?_⟩
  · obtain ⟨before, hbefore, hquote⟩ := tokenize_quote hword rfl
    obtain rfl : before = ['a', ' '] := List.append_cancel_right hbefore.symm
    have hend : lexemes [] = .ok [] := by
      rw [lexemes_eq]
      rfl
    rw [(hquote.literal _ _ [] hpair rfl).2, hend]
    decide +kernel
  · have hd : dropBlank "\"a\\\"".toList = '"' :: ['a', '\\', '"'] := by decide
    have hread : Json.readString ['a', '\\', '"'] = .error ⟨.endInString, [], 0⟩ := by cbv
    obtain ⟨before, hbefore, hquote⟩ := tokenize_quote (.refl _) hd
    obtain rfl : before = [] := List.append_cancel_right hbefore.symm
    exact hquote.unclosed (hnone hread) (closeQuote_eq_none_iff.1 rfl)
  · have hd : dropBlank "\"\\ud83d\"".toList = '"' :: ['\\', 'u', 'd', '8', '3', 'd', '"'] := by decide
    have hread : Json.readString ['\\', 'u', 'd', '8', '3', 'd', '"']
        = .error ⟨.brokenSurrogatePair, ['"'], 1⟩ := by cbv
    have hcloses : ¬ NeverCloses ['\\', 'u', 'd', '8', '3', 'd', '"'] := by
      rw [← closeQuote_eq_none_iff]
      decide
    obtain ⟨before, hbefore, hquote⟩ := tokenize_quote (.refl _) hd
    obtain ⟨inside, behind, reason, hrest, -, -, htokens⟩ := hquote.invalid (hnone hread) hcloses
    -- The text has one quote only, so that is the one at which it is split.
    have hsplit : ['\\', 'u', 'd', '8', '3', 'd'] ++ '"' :: [] = inside ++ '"' :: behind := hrest
    obtain ⟨rfl, -, rfl⟩ := (List.append_cons_inj_of_notMem (by decide) (by decide)).1 hsplit
    exact ⟨reason, htokens⟩

end reads

end LogSearch.Kql
