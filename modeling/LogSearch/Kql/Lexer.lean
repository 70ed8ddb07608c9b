import LogSearch.Json.Literal
import LogSearch.Kql.Token
import LogSearch.QueryError
import LogSearch.Text.Blank

/-!
# Cutting a query into tokens

A query is cut into *lexemes*: slices of the text with what they stand for, and the blanks in front
of each.  Blanks separate tokens only where a token could end anyway; between two words that are
no keywords they belong to the literal, so `message:connection refused` has one literal with a blank
in it.  Offsets are not part of the cutting; they are counted afterwards from the slices.

## What is here

* `keywordAt?` — a keyword that stands as a whole word at the start of a text;
* `readEscape`, `readTerm`, `readQuoted` — literals without and with quotes;
* `readLexeme` — the lexeme at the start of a text, and what follows it; `readLexeme_split` says
  that its slice and what follows make up the text, and that the slice is not empty;
* `lexemes` — all lexemes of a text;
* `tokenize` — the tokens of a text, or its first error.
-/

set_option autoImplicit false
namespace LogSearch.Kql

open Text (isBlank dropBlank takeBlank)

/-! ## Characters and keywords -/

/-- The characters that end a literal without quotes. -/
def isDelimiter (c : Char) : Bool := c ∈ ['(', ')', ':', '<', '>', '"', '{', '}']

/-- The characters that stand for themselves behind a backslash. -/
def isEscapable (c : Char) : Bool := c ∈ ['\\', '(', ')', ':', '<', '>', '"', '*', '{', '}']

/-- The keywords, in lower case. -/
def keywords : List (List Char × TokenKind) :=
  [(['a', 'n', 'd'], .and), (['o', 'r'], .or), (['n', 'o', 't'], .not)]

/-- Whether a word ends in front of the text. -/
def endsWord : List Char → Bool
  | [] => true
  | c :: _ => isBlank c || isDelimiter c

/-- A slice of a query, with the token it spells. -/
structure Lexeme where
  kind : TokenKind
  /-- The text it stands for. -/
  value : List Char
  /-- The slice itself. -/
  slice : List Char
  deriving DecidableEq, Repr

/-- The keyword at the start of a text, of either letter case, and what follows it. -/
def keywordAt? (cs : List Char) : Option (Lexeme × List Char) :=
  keywords.findSome? fun (word, kind) =>
    let slice := cs.take word.length
    let rest := cs.drop word.length
    if slice.map Char.toLower = word && endsWord rest then some (⟨kind, slice, slice⟩, rest)
    else none

/-- Whether a literal ends in front of a text that starts with no blank. -/
def endsTerm (cs : List Char) : Bool :=
  match cs with
  | [] => true
  | c :: _ => isDelimiter c || (keywordAt? cs).isSome

/-! ## Errors -/

/-- Why a text cannot be cut, with the text from the error on. -/
inductive LexFault
  | invalidEscape (sequence unread : List Char)
  | unclosedQuote (unread : List Char)
  | invalidQuoted (literal : List Char) (reason : Json.Fault)
  deriving DecidableEq, Repr

/-! ## Literals without quotes -/

/-- A character read from an escape: what it is, its slice without the backslash, and what
follows. -/
structure Escaped where
  char : Char
  slice : List Char
  rest : List Char
  deriving Repr

/-- The character with the given code point, unless that is half of a surrogate pair. -/
def scalar? (n : Nat) : Option Char :=
  if 0xD800 ≤ n && n ≤ 0xDFFF then none else some (Char.ofNat n)

/-- Reads the four hexadecimal digits behind `\u`. -/
def readCodePoint (cs : List Char) : Except (List Char) Escaped :=
  match cs with
  | p :: q :: r :: s :: rest =>
    match Text.hexValue? p, Text.hexValue? q, Text.hexValue? r, Text.hexValue? s with
    | some a, some b, some c, some d =>
      match scalar? (((a * 16 + b) * 16 + c) * 16 + d) with
      | some char => .ok ⟨char, ['u', p, q, r, s], rest⟩
      | none => .error ['\\', 'u', p, q, r, s]
    | _, _, _, _ => .error ['\\', 'u']
  | _ => .error ['\\', 'u']

/-- Reads the escape whose backslash has been read, or says which sequence is none.  In front of a
keyword the backslash only takes its first letter; the others then no longer make a keyword. -/
def readEscape (cs : List Char) : Except (List Char) Escaped :=
  match cs with
  | [] => .error ['\\']
  | c :: rest =>
    if (keywordAt? cs).isSome then .ok ⟨c, [c], rest⟩
    else match c with
      | 't' => .ok ⟨'\t', ['t'], rest⟩
      | 'r' => .ok ⟨'\r', ['r'], rest⟩
      | 'n' => .ok ⟨'\n', ['n'], rest⟩
      | 'u' => readCodePoint rest
      | c => if isEscapable c then .ok ⟨c, [c], rest⟩ else .error ['\\', c]

theorem readCodePoint_split {cs : List Char} {e : Escaped} (h : readCodePoint cs = .ok e) :
    e.slice ++ e.rest = 'u' :: cs ∧ e.slice ≠ [] := by
  unfold readCodePoint at h
  repeat' split at h
  all_goals simp only [reduceCtorEq, Except.ok.injEq] at h
  all_goals simp [← h]

theorem readEscape_split {cs : List Char} {e : Escaped} (h : readEscape cs = .ok e) :
    e.slice ++ e.rest = cs ∧ e.slice ≠ [] := by
  unfold readEscape at h
  repeat' split at h
  case h_4 => exact readCodePoint_split h
  all_goals simp only [reduceCtorEq, Except.ok.injEq] at h
  all_goals simp [← h]

/-- A literal without quotes: what it stands for, its slice, whether a backslash stands in it, and
what follows. -/
structure Term where
  value : List Char
  slice : List Char
  escaped : Bool
  rest : List Char
  deriving Repr

/-- The term with one more character in front. -/
def Term.push (term : Term) (c : Char) : Term :=
  { term with value := c :: term.value, slice := c :: term.slice }

/-- The term with one more escape in front. -/
def Term.pushEscaped (term : Term) (e : Escaped) : Term :=
  { term with
    value := e.char :: term.value
    slice := '\\' :: e.slice ++ term.slice
    escaped := true }

/-- Reads a literal without quotes up to where it ends. -/
def readTerm (cs : List Char) : Except LexFault Term :=
  match cs with
  | [] => .ok ⟨[], [], false, []⟩
  | c :: rest =>
    if isBlank c then
      if endsTerm (dropBlank rest) then .ok ⟨[], [], false, c :: rest⟩
      else (readTerm rest).map (·.push c)
    else if c = '\\' then
      match _h : readEscape rest with
      | .error sequence => .error (.invalidEscape sequence (c :: rest))
      | .ok e => (readTerm e.rest).map (·.pushEscaped e)
    else if isDelimiter c then .ok ⟨[], [], false, c :: rest⟩
    else (readTerm rest).map (·.push c)
  termination_by cs.length
  decreasing_by
  · simp
  · have := congrArg List.length (readEscape_split ‹_›).1
    simp only [List.length_append] at this
    simp only [List.length_cons]
    omega
  · simp

/-- The lexeme a term makes: a bare `*` is the wildcard. -/
def Term.lexeme (term : Term) : Lexeme :=
  ⟨if term.value = ['*'] && !term.escaped then .wildcard else .term, term.value, term.slice⟩

/-! ## Literals between quotes -/

/-- The slice up to the closing quote, the first one with no backslash of its own in front of it,
and what follows. -/
def closeQuote : Bool → List Char → Option (List Char × List Char)
  | _, [] => none
  | escaped, c :: rest =>
    if c = '"' && !escaped then some (['"'], rest)
    else (closeQuote (c = '\\' && !escaped) rest).map fun (slice, rest) => (c :: slice, rest)

theorem closeQuote_split {b : Bool} {cs slice rest : List Char}
    (h : closeQuote b cs = some (slice, rest)) : slice ++ rest = cs := by
  induction cs generalizing b slice with
  | nil => simp [closeQuote] at h
  | cons c cs ih =>
    rw [closeQuote] at h
    split at h
    · simp only [Option.some.injEq, Prod.mk.injEq] at h
      obtain ⟨rfl, rfl⟩ := h
      simp_all
    · obtain ⟨⟨s, r⟩, h1, h2⟩ := Option.map_eq_some_iff.1 h
      simp only [Prod.mk.injEq] at h2
      obtain ⟨rfl, rfl⟩ := h2
      simp [ih h1]

/-- The literal behind an opening quote, which is a JSON string literal. -/
def readQuoted (rest : List Char) : Except LexFault (Lexeme × List Char) :=
  match closeQuote false rest with
  | none => .error (.unclosedQuote ('"' :: rest))
  | some (slice, rest) =>
    match Json.decodeLiteral ('"' :: slice) with
    | .ok value => .ok (⟨.quoted, value, '"' :: slice⟩, rest)
    | .error reason => .error (.invalidQuoted ('"' :: slice) reason)

/-! ## All lexemes -/

/-- A lexeme of one character. -/
def single (kind : TokenKind) (c : Char) (rest : List Char) : Lexeme × List Char :=
  (⟨kind, [c], [c]⟩, rest)

/-- The comparison that starts with `<` or `>`, which an `=` right behind it belongs to. -/
def readComparison (strict orEqual : Comparison) (rest : List Char) : Lexeme × List Char :=
  match rest with
  | '=' :: rest => (⟨.comparison orEqual, orEqual.sign, orEqual.sign⟩, rest)
  | rest => (⟨.comparison strict, strict.sign, strict.sign⟩, rest)

/-- The lexeme at the start of a text whose first character is no blank. -/
def readLexeme (c : Char) (rest : List Char) : Except LexFault (Lexeme × List Char) :=
  match c with
  | '(' => .ok (single .leftParen c rest)
  | ')' => .ok (single .rightParen c rest)
  | '{' => .ok (single .leftBrace c rest)
  | '}' => .ok (single .rightBrace c rest)
  | ':' => .ok (single .colon c rest)
  | '<' => .ok (readComparison .lt .lte rest)
  | '>' => .ok (readComparison .gt .gte rest)
  | '"' => readQuoted rest
  | c =>
    match keywordAt? (c :: rest) with
    | some found => .ok found
    | none => (readTerm (c :: rest)).map fun term => (term.lexeme, term.rest)

theorem keywordAt?_split {cs rest : List Char} {l : Lexeme} (h : keywordAt? cs = some (l, rest)) :
    l.slice ++ rest = cs ∧ l.slice ≠ [] := by
  obtain ⟨⟨word, kind⟩, hmem, h⟩ := List.exists_of_findSome?_eq_some h
  simp only [Bool.and_eq_true, decide_eq_true_eq] at h
  split at h
  · next hc =>
    simp only [Option.some.injEq, Prod.mk.injEq] at h
    obtain ⟨rfl, rfl⟩ := h
    refine ⟨List.take_append_drop _ _, fun he => ?_⟩
    have hw := hc.1
    simp only at he
    rw [he] at hw
    subst hw
    simp [keywords] at hmem
  · cases h

theorem readTerm_split {cs : List Char} {t : Term} (h : readTerm cs = .ok t) :
    t.slice ++ t.rest = cs := by
  fun_induction readTerm cs generalizing t with
  | case1 => cases h; rfl
  | case2 => cases h; rfl
  | case3 c rest _ _ ih | case7 c rest _ _ _ ih =>
    cases hr : readTerm rest with
    | error e => simp [hr, Except.map] at h
    | ok u =>
      simp only [hr, Except.map, Except.ok.injEq] at h
      subst h
      simp [Term.push, ih hr]
  | case4 => cases h
  | case5 rest e he _ ih =>
    cases hr : readTerm e.rest with
    | error fault => simp [hr, Except.map] at h
    | ok u =>
      simp only [hr, Except.map, Except.ok.injEq] at h
      subst h
      simp [Term.pushEscaped, ih hr, (readEscape_split he).1]
  | case6 => cases h; rfl

theorem readTerm_slice_ne_nil {c : Char} {rest : List Char} {t : Term}
    (h : readTerm (c :: rest) = .ok t) (hb : isBlank c = false) (hd : isDelimiter c = false) :
    t.slice ≠ [] := by
  rw [readTerm] at h
  simp only [hb, hd, Bool.false_eq_true, if_false] at h
  split at h
  · split at h
    · cases h
    · next e he =>
      cases hr : readTerm e.rest with
      | error e => simp [hr, Except.map] at h
      | ok u =>
        simp only [hr, Except.map, Except.ok.injEq] at h
        subst h
        simp [Term.pushEscaped]
  · cases hr : readTerm rest with
    | error e => simp [hr, Except.map] at h
    | ok u =>
      simp only [hr, Except.map, Except.ok.injEq] at h
      subst h
      simp [Term.push]

/-- **A lexeme is a slice of the text**: it is not empty, and nothing is lost between it and what
follows it. -/
theorem readLexeme_split {c : Char} {rest rest' : List Char} {l : Lexeme}
    (h : readLexeme c rest = .ok (l, rest')) (hb : isBlank c = false) :
    l.slice ++ rest' = c :: rest ∧ l.slice ≠ [] := by
  unfold readLexeme at h
  split at h
  case h_6 | h_7 =>
    simp only [Except.ok.injEq] at h
    unfold readComparison at h
    split at h
    all_goals simp only [Prod.mk.injEq] at h
    all_goals obtain ⟨rfl, rfl⟩ := h
    all_goals simp [Comparison.sign]
  case h_8 =>
    unfold readQuoted at h
    split at h
    · cases h
    · next slice tail hq =>
      split at h
      · simp only [Except.ok.injEq, Prod.mk.injEq] at h
        obtain ⟨rfl, rfl⟩ := h
        simp [closeQuote_split hq]
      · cases h
  case h_9 hn =>
    split at h
    · next found hk =>
      simp only [Except.ok.injEq] at h
      subst h
      exact keywordAt?_split hk
    · cases hr : readTerm (c :: rest) with
      | error e => simp [hr, Except.map] at h
      | ok t =>
        simp only [hr, Except.map, Except.ok.injEq, Prod.mk.injEq] at h
        obtain ⟨rfl, rfl⟩ := h
        refine ⟨readTerm_split hr, readTerm_slice_ne_nil hr hb ?_⟩
        simp only [isDelimiter, List.mem_cons, List.not_mem_nil, or_false, decide_eq_false_iff_not]
        grind
  all_goals
    simp only [single, Except.ok.injEq, Prod.mk.injEq] at h
    obtain ⟨rfl, rfl⟩ := h
    simp

theorem length_readLexeme_lt {c : Char} {rest rest' : List Char} {l : Lexeme}
    (h : readLexeme c rest = .ok (l, rest')) (hb : isBlank c = false) :
    rest'.length < (c :: rest).length := by
  obtain ⟨h1, h2⟩ := readLexeme_split h hb
  have := congrArg List.length h1
  have := List.length_pos_iff.2 h2
  simp only [List.length_append] at *
  omega

/-- The lexemes of a text, each with the blanks in front of it. -/
def lexemes (cs : List Char) : Except LexFault (List (List Char × Lexeme)) :=
  match _hc : dropBlank cs with
  | [] => .ok []
  | c :: rest =>
    match _h : readLexeme c rest with
    | .error fault => .error fault
    | .ok (lexeme, rest') => (lexemes rest').map ((takeBlank cs, lexeme) :: ·)
  termination_by cs.length
  decreasing_by
    have h1 := length_readLexeme_lt ‹_› (Text.isBlank_of_dropBlank_eq_cons _hc)
    have h2 := Text.length_dropBlank_le cs
    rw [_hc] at h2
    omega

/-! ## Tokens -/

/-- Lexemes as tokens, the first of them behind `offset` bytes. -/
def placeTokens (offset : Nat) : List (List Char × Lexeme) → List Token
  | [] => []
  | (blanks, lexeme) :: rest =>
    let start := offset + Text.Utf8.size blanks
    ⟨lexeme.kind, String.ofList lexeme.value, start⟩ ::
      placeTokens (start + Text.Utf8.size lexeme.slice) rest

/-- The fault as an error in a text: the place is what lies in front of the unread text. -/
def LexFault.toError (text : List Char) : LexFault → QueryError
  | .invalidEscape sequence unread =>
    .invalidEscape (String.ofList sequence) (Text.Utf8.size text - Text.Utf8.size unread)
  | .unclosedQuote unread => .unclosedQuote (Text.Utf8.size text - Text.Utf8.size unread)
  | .invalidQuoted literal reason => .invalidQuotedString (String.ofList literal) reason

/-- The tokens of a query, or the first error in it. -/
def tokenize (text : String) : Except QueryError (List Token) :=
  match lexemes text.toList with
  | .ok found => .ok (placeTokens 0 found)
  | .error fault => .error (fault.toError text.toList)

end LogSearch.Kql
