import LogSearch.Kql.Parser
import LogSearch.Proofs.Kql.Boundaries
import Mathlib.Data.List.Chain
import Mathlib.Data.List.Forall2
import Mathlib.Data.List.TakeWhile

/-!
# The slices of a text

A text that can be cut into tokens is blanks and slices in turn, a slice for each token.  Each slice
says all of its token: it is read as this token when nothing else is there, and the text from a token
on is read as the tokens from there on (`tokenize_covers`).

`Sliced` has this as a relation between a text and its lexemes, which is the cutting itself
(`Sliced.of_lexemes`, `Sliced.lexemes_eq`); the other results are inductions on it.

## What is here

* `Sliced` — a text as blanks and lexemes in turn;
* `Sliced.split` — where a token stands;
* `Covers` — the same for tokens and slices, with the places of the tokens;
* `tokenize_covers` — the tokens of a text cover it.
-/

set_option autoImplicit false
namespace LogSearch.Kql

open Text (isBlank dropBlank takeBlank)

/-! ## Whole texts -/

/-- The text is blanks and lexemes in turn. -/
inductive Sliced : List Char → List (List Char × Lexeme) → Prop
  | blank {blanks : List Char} (hblanks : ∀ c ∈ blanks, isBlank c = true) : Sliced blanks []
  | lexeme {blanks rest : List Char} {l : Lexeme} {found : List (List Char × Lexeme)}
    (hblanks : ∀ c ∈ blanks, isBlank c = true) (hl : l.StandsBefore rest) (h : Sliced rest found) :
    Sliced (blanks ++ (l.slice ++ rest)) ((blanks, l) :: found)

theorem Sliced.nil : Sliced [] [] := .blank (List.forall_mem_nil _)

theorem Sliced.cons {rest : List Char} {l : Lexeme} {found : List (List Char × Lexeme)}
    (hl : l.StandsBefore rest) (h : Sliced rest found) : Sliced (l.slice ++ rest) (([], l) :: found) :=
  .lexeme (List.forall_mem_nil _) hl h

theorem isBlank_of_mem_takeBlank (cs : List Char) : ∀ c ∈ takeBlank cs, isBlank c = true :=
  fun _ hc ↦ List.mem_takeWhile_imp hc

theorem Sliced.of_lexemes {cs : List Char} {found : List (List Char × Lexeme)}
    (h : lexemes cs = .ok found) : Sliced cs found := by
  induction hn : cs.length using Nat.strongRecOn generalizing cs found with
  | ind n ih =>
    have hcs := Text.takeBlank_append_dropBlank cs
    rw [lexemes_eq] at h
    cases hd : dropBlank cs with
    | nil =>
      rw [hd] at h hcs
      cases h
      rw [← hcs, List.append_nil]
      exact .blank (isBlank_of_mem_takeBlank _)
    | cons c tail =>
      rw [hd] at h hcs
      dsimp only at h
      cases hread : readLexeme c tail with
      | error fault =>
        rw [hread] at h
        cases h
      | ok read =>
        obtain ⟨l, rest⟩ := read
        have hb := Text.isBlank_of_dropBlank_eq_cons hd
        have hlt := length_readLexeme_lt hread hb
        have hle := Text.length_dropBlank_le cs
        obtain ⟨hl, hslice⟩ := Lexeme.StandsBefore.of_readLexeme hread hb
        rw [hread] at h
        obtain ⟨found, hfound, rfl⟩ := exists_of_map_eq_ok h
        rw [hd] at hle
        have hsliced := Sliced.lexeme (isBlank_of_mem_takeBlank cs) hl
          (ih _ (by omega) hfound rfl)
        rwa [← hslice, hcs] at hsliced

theorem Sliced.lexemes_eq {cs : List Char} {found : List (List Char × Lexeme)}
    (h : Sliced cs found) : lexemes cs = .ok found := by
  induction h with
  | blank hblanks =>
    rw [Kql.lexemes_eq, dropBlank, List.dropWhile_eq_nil_iff.2 hblanks]
  | @lexeme blanks rest l found hblanks hl h ih =>
    obtain ⟨c, tail, htail, hb, hread⟩ := hl
    have hdrop : dropBlank (blanks ++ (l.slice ++ rest)) = c :: (tail ++ rest) := by
      rw [dropBlank, List.dropWhile_append_of_pos hblanks, htail]
      simp [hb]
    have htake : takeBlank (blanks ++ (l.slice ++ rest)) = blanks := by
      rw [takeBlank, List.takeWhile_append_of_pos hblanks, htail]
      simp [hb]
    rw [Kql.lexemes_eq, hdrop, htake]
    simp only [hread, ih]
    rfl

/-! ## Tokens and their places -/

/-- Behind the bytes of a text stands what is behind the text. -/
theorem dropBytes?_append (before rest : List Char) :
    dropBytes? (Text.Utf8.size before) (before ++ rest) = some rest := by
  induction before with
  | nil => cases rest <;> rfl
  | cons c before ih =>
    obtain ⟨n, hn⟩ := Nat.exists_eq_add_one_of_ne_zero (Nat.ne_of_gt c.utf8Size_pos)
    rw [Text.Utf8.size_cons, List.cons_append, hn, Nat.add_right_comm, dropBytes?, if_pos (by omega)]
    rw [hn, show n + Text.Utf8.size before + 1 - (n + 1) = Text.Utf8.size before by omega, ih]

/-- Tokens as they are that many bytes further to the front. -/
def Token.backBy (n : Nat) (t : Token) : Token := { t with offset := t.offset - n }

theorem map_backBy_placeTokens (n offset : Nat) (found : List (List Char × Lexeme)) :
    (placeTokens (n + offset) found).map (Token.backBy n) = placeTokens offset found := by
  induction found generalizing offset with
  | nil => rfl
  | cons found rest ih =>
    obtain ⟨blanks, l⟩ := found
    simp only [placeTokens, List.map_cons, Nat.add_assoc, ih]
    rw [Token.backBy, Nat.add_sub_cancel_left]

/-- The text, which has `offset` bytes in front of it, is blanks and slices in turn, one slice for
each token: it is not empty, and the token's place is where it starts. -/
inductive Covers : Nat → List Token → List (List Char) → List Char → Prop
  | blank {offset : Nat} {blanks : List Char} (hblanks : ∀ c ∈ blanks, isBlank c = true) :
    Covers offset [] [] blanks
  | token {offset : Nat} {blanks slice rest : List Char} {t : Token} {ts : List Token}
    {slices : List (List Char)} (hblanks : ∀ c ∈ blanks, isBlank c = true) (hslice : slice ≠ [])
    (hoffset : t.offset = offset + Text.Utf8.size blanks)
    (h : Covers (t.offset + Text.Utf8.size slice) ts slices rest) :
    Covers offset (t :: ts) (slice :: slices) (blanks ++ (slice ++ rest))

section tokens

variable {cs rest : List Char} {found : List (List Char × Lexeme)} {l : Lexeme}

theorem Sliced.covers (h : Sliced cs found) (offset : Nat) :
    Covers offset (placeTokens offset found) (found.map fun lexeme ↦ lexeme.2.slice) cs := by
  induction h generalizing offset with
  | blank hblanks => exact .blank hblanks
  | lexeme hblanks hl _ ih => exact .token hblanks hl.slice_ne_nil rfl (ih _)

/-- A lexeme with nothing around it. -/
theorem Lexeme.StandsBefore.sliced_slice (h : l.StandsBefore rest) : Sliced l.slice [([], l)] := by
  have hsliced := Sliced.cons (h.before l.endsAt_nil) .nil
  rwa [List.append_nil] at hsliced

theorem tokenize_of_sliced (h : Sliced cs found) :
    tokenize (String.ofList cs) = .ok (placeTokens 0 found) := by
  rw [tokenize, String.toList_ofList, h.lexemes_eq]

/-- A token stands where a lexeme is read, and the tokens behind it are those of the text behind. -/
theorem Sliced.split (h : Sliced cs found) {offset : Nat} {before behind : List Token} {t : Token}
    (hts : placeTokens offset found = before ++ t :: behind) :
    ∃ (front rest : List Char) (l : Lexeme) (found : List (List Char × Lexeme)),
      cs = front ++ (l.slice ++ rest) ∧
      t = ⟨l.kind, String.ofList l.value, offset + Text.Utf8.size front⟩ ∧
      l.StandsBefore rest ∧ Sliced rest found ∧
      behind = placeTokens (t.offset + Text.Utf8.size l.slice) found := by
  induction h generalizing offset before with
  | blank => simp [placeTokens] at hts
  | @lexeme blanks rest l found hblanks hl h ih =>
    cases before with
    | nil =>
      obtain ⟨rfl, rfl⟩ := List.cons.inj hts
      exact ⟨blanks, rest, l, found, rfl, rfl, hl, h, rfl⟩
    | cons u before =>
      obtain ⟨-, hts⟩ := List.cons.inj hts
      obtain ⟨front, rest', l', found', rfl, ht, hl', h', hbehind⟩ := ih hts
      refine ⟨blanks ++ (l.slice ++ front), rest', l', found', by simp, ?_, hl', h', hbehind⟩
      rw [ht]
      simp [Nat.add_assoc]

/-- No two literals without quotes stand side by side: they would be one. -/
theorem Sliced.isChain_placeTokens (h : Sliced cs found) (offset : Nat) :
    (placeTokens offset found).IsChain fun t u ↦ ¬ (t.kind.IsUnquoted ∧ u.kind.IsUnquoted) := by
  induction h generalizing offset with
  | blank => exact .nil
  | @lexeme blanks rest l found hblanks hl h ih =>
    refine List.IsChain.cons (ih _) fun u hu ⟨hleft, hright⟩ ↦ ?_
    cases h with
    | blank => cases hu
    | @lexeme blanks' rest' l' found hblanks' hl' h =>
      obtain rfl := Option.some.inj hu
      have hends := (Lexeme.endsAt_of_isUnquoted hleft).1 hl.endsAt
      exact ((hl'.breaks_iff hblanks').1 hends).1 hright

theorem le_offset_placeTokens (offset : Nat) (found : List (List Char × Lexeme)) :
    ∀ t ∈ placeTokens offset found, offset ≤ t.offset := by
  induction found generalizing offset with
  | nil => simp [placeTokens]
  | cons lexeme found ih =>
    obtain ⟨blanks, l⟩ := lexeme
    refine List.forall_mem_cons.2 ⟨Nat.le_add_right _ _, fun t ht ↦ ?_⟩
    have hle := ih _ t ht
    omega

theorem size_pos_of_ne_nil (h : cs ≠ []) : 0 < Text.Utf8.size cs := by
  cases cs with
  | nil => exact absurd rfl h
  | cons c cs =>
    have hc := c.utf8Size_pos
    rw [Text.Utf8.size_cons]
    omega

theorem Sliced.pairwise_offset (h : Sliced cs found) (offset : Nat) :
    (placeTokens offset found).Pairwise fun t u ↦ t.offset < u.offset := by
  induction h generalizing offset with
  | blank => exact .nil
  | lexeme hblanks hl _ ih =>
    refine .cons (fun u hu ↦ ?_) (ih _)
    have hle := le_offset_placeTokens _ _ u hu
    have hpos := size_pos_of_ne_nil hl.slice_ne_nil
    dsimp only
    omega

/-- Each slice is read as its token, whatever else is in the text. -/
theorem Sliced.forall₂_slices (h : Sliced cs found) (offset : Nat) :
    List.Forall₂ (fun t slice ↦ tokenize (String.ofList slice) = .ok [{ t with offset := 0 }] ∧
        (t.kind = .wildcard → slice = ['*']))
      (placeTokens offset found) (found.map fun lexeme ↦ lexeme.2.slice) := by
  induction h generalizing offset with
  | blank => exact .nil
  | lexeme hblanks hl _ ih =>
    refine .cons ⟨tokenize_of_sliced hl.sliced_slice, fun hkind ↦ ?_⟩ (ih _)
    exact hl.slice_eq (congrArg TokenKind.spelling? hkind)

section text

variable {text : String} {tokens : List Token}

theorem exists_sliced_of_tokenize (h : tokenize text = .ok tokens) :
    ∃ found, Sliced text.toList found ∧ tokens = placeTokens 0 found := by
  rw [tokenize] at h
  split at h
  · next found hfound =>
    cases h
    exact ⟨found, .of_lexemes hfound, rfl⟩
  · cases h

/-- Every token stands at a place in the text, and the text from there on is read as the tokens from
there on. -/
theorem exists_rest_of_tokenize (h : tokenize text = .ok tokens) {before behind : List Token}
    {t : Token} (hts : tokens = before ++ t :: behind) :
    ∃ rest, dropBytes? t.offset text.toList = some rest ∧ rest ≠ [] ∧
      tokenize (String.ofList rest) = .ok ((t :: behind).map (Token.backBy t.offset)) := by
  obtain ⟨found, hs, rfl⟩ := exists_sliced_of_tokenize h
  obtain ⟨front, rest, l, found, hcs, ht, hl, hrest, hbehind⟩ := hs.split hts
  have hoffset : t.offset = Text.Utf8.size front := by simp [ht]
  refine ⟨l.slice ++ rest, ?_, by simp [hl.slice_ne_nil], ?_⟩
  · rw [hcs, hoffset, dropBytes?_append]
  · rw [tokenize_of_sliced (Sliced.cons hl hrest), ← map_backBy_placeTokens t.offset 0]
    simp [placeTokens, hbehind, ht]

/-- **Tokens cover the text**, slice by slice.  Between blanks stands a slice for each token, which is
read as this token alone, and the one of a wildcard is a `*`.  Places increase, the text from a place on
is read as the tokens from there on, and no two literals without quotes stand side by side. -/
theorem tokenize_covers (h : tokenize text = .ok tokens) :
    (∃ slices : List (List Char), Covers 0 tokens slices text.toList ∧
      List.Forall₂ (fun t slice ↦ tokenize (String.ofList slice) = .ok [{ t with offset := 0 }] ∧
        (t.kind = .wildcard → slice = ['*'])) tokens slices) ∧
    (tokens.Pairwise fun t u ↦ t.offset < u.offset) ∧
    (∀ before t behind, tokens = before ++ t :: behind →
      ∃ rest, dropBytes? t.offset text.toList = some rest ∧ rest ≠ [] ∧
        tokenize (String.ofList rest) = .ok ((t :: behind).map (Token.backBy t.offset))) ∧
    tokens.IsChain fun t u ↦ ¬ (t.kind.IsUnquoted ∧ u.kind.IsUnquoted) := by
  obtain ⟨found, hs, rfl⟩ := exists_sliced_of_tokenize h
  exact ⟨⟨_, hs.covers 0, hs.forall₂_slices 0⟩, hs.pairwise_offset 0,
    fun _ _ _ ↦ exists_rest_of_tokenize h, hs.isChain_placeTokens 0⟩

/-- A literal with an escaped keyword in it, between other tokens. -/
theorem tokenize_covers_literals :
    let text := "é \\or *:\"a b\"and x< =5 or y:*"
    let tokens : List Token := [⟨.term, "é or *", 0⟩, ⟨.colon, ":", 8⟩, ⟨.quoted, "a b", 9⟩,
      ⟨.and, "and", 14⟩, ⟨.term, "x", 18⟩, ⟨.comparison .lt, "<", 19⟩, ⟨.term, "=5", 21⟩,
      ⟨.or, "or", 24⟩, ⟨.term, "y", 27⟩, ⟨.colon, ":", 28⟩, ⟨.wildcard, "*", 29⟩]
    tokenize text = .ok tokens ∧
      (∃ slices : List (List Char), Covers 0 tokens slices text.toList ∧
        List.Forall₂ (fun t slice ↦ tokenize (String.ofList slice) = .ok [{ t with offset := 0 }] ∧
          (t.kind = .wildcard → slice = ['*'])) tokens slices) ∧
      ∃ rest, dropBytes? 24 text.toList = some rest ∧ rest ≠ [] ∧
        tokenize (String.ofList rest) = .ok [⟨.or, "or", 0⟩, ⟨.term, "y", 3⟩, ⟨.colon, ":", 4⟩,
          ⟨.wildcard, "*", 5⟩] := by
  intro text tokens
  have h : tokenize text = .ok tokens := by
    rw [tokenize, lexemes_eq_within (Nat.le_refl _)]
    decide +kernel
  obtain ⟨hcovers, -, hrest, -⟩ := tokenize_covers h
  exact ⟨h, hcovers, hrest (tokens.take 7) ⟨.or, "or", 24⟩ (tokens.drop 8) rfl⟩

end text

end tokens

end LogSearch.Kql
