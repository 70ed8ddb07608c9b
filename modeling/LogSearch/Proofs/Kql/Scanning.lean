import LogSearch.Proofs.Kql.Slices
import Mathlib.Data.Bool.Basic

/-!
# Scanning for faults

Only escapes and quoted literals can be wrong in a text, and neither depends on where literals without
quotes end.  So a scan that looks at nothing but escapes and quotes finds the same faults as the lexer
does (`agrees_lexemes`).  It goes through a text in one way only, and what it went through it goes
through with nothing behind it (`Passes.cut`); hence the text in front of a fault has none.

An escape is the one thing that looks ahead, for the end of a keyword.  Where a text is cut short in
front of a backslash or a quote, no keyword is lost, since neither is a letter of one.

## What is here

* `Passes`, `Stuck` — how far the scan gets, and why no further;
* `Agrees`, `agrees_lexemes` — the lexer fails where the scan is stuck, and nowhere else;
* `Passes.exists_lexemes`, `Passes.cut` — what the scan gets through is cut into lexemes, and is still
  got through with nothing behind it.
-/

set_option autoImplicit false
namespace LogSearch.Kql

open Text (isBlank dropBlank takeBlank)

/-! ## A scan for escapes and quotes -/

/-- A scan that looks at nothing but escapes and quoted literals gets from a text to what is left of
it. -/
inductive Passes : List Char → List Char → Prop
  | refl (cs : List Char) : Passes cs cs
  | plain {c : Char} {cs rest : List Char} (hs : c ≠ '\\') (hq : c ≠ '"') (h : Passes cs rest) :
    Passes (c :: cs) rest
  | escape {cs rest : List Char} {e : Escaped} (he : readEscape cs = .ok e) (h : Passes e.rest rest) :
    Passes ('\\' :: cs) rest
  | quoted {cs cs' rest : List Char} {l : Lexeme} (hl : readQuoted cs = .ok (l, cs'))
    (h : Passes cs' rest) : Passes ('"' :: cs) rest

/-- The scan cannot go on in front of the text, because of the fault. -/
inductive Stuck : List Char → LexFault → Prop
  | escape {cs sequence : List Char} (h : readEscape cs = .error sequence) :
    Stuck ('\\' :: cs) (.invalidEscape sequence ('\\' :: cs))
  | quoted {cs : List Char} {fault : LexFault} (h : readQuoted cs = .error fault) :
    Stuck ('"' :: cs) fault

/-- The scan agrees with a reader: it gets to where the reader stops, and where the reader fails it
is stuck. -/
def Agrees (cs : List Char) : Except LexFault (List Char) → Prop
  | .ok rest => Passes cs rest
  | .error fault => ∃ unread, Passes cs unread ∧ Stuck unread fault

section scan

variable {cs cs' rest unread : List Char} {fault : LexFault} {read : Except LexFault (List Char)}

theorem Passes.trans (h : Passes cs cs') (h' : Passes cs' rest) : Passes cs rest := by
  induction h with
  | refl => exact h'
  | plain hs hq _ ih => exact .plain hs hq (ih h')
  | escape he _ ih => exact .escape he (ih h')
  | quoted hl _ ih => exact .quoted hl (ih h')

theorem Passes.agrees (h : Passes cs cs') (h' : Agrees cs' read) : Agrees cs read := by
  cases read with
  | ok rest => exact h.trans h'
  | error fault =>
    obtain ⟨unread, hpasses, hstuck⟩ := h'
    exact ⟨unread, h.trans hpasses, hstuck⟩

theorem passes_append (h : ∀ c ∈ cs, c ≠ '\\' ∧ c ≠ '"') (rest : List Char) :
    Passes (cs ++ rest) rest := by
  induction cs with
  | nil => exact .refl rest
  | cons c cs ih =>
    obtain ⟨hc, hcs⟩ := List.forall_mem_cons.1 h
    exact .plain hc.1 hc.2 (ih hcs)

theorem ne_of_blank {c : Char} (h : isBlank c = true) : c ≠ '\\' ∧ c ≠ '"' := by
  constructor <;> rintro rfl <;> cases h

/-- The scan gets through a text in one way only, so it is stuck nowhere in a text that it gets
through. -/
theorem Passes.not_stuck (h : Passes cs []) (hunread : Passes cs unread) : ¬ Stuck unread fault := by
  intro hstuck
  induction hunread with
  | refl =>
    cases hstuck with
    | escape hread =>
      cases h with
      | plain hs => exact hs rfl
      | escape he => cases hread.symm.trans he
    | quoted hread =>
      cases h with
      | plain _ hq => exact hq rfl
      | quoted hl => cases hread.symm.trans hl
  | plain hs hq _ ih =>
    cases h with
    | plain _ _ h => exact ih h hstuck
    | escape => exact hs rfl
    | quoted => exact hq rfl
  | escape he _ ih =>
    cases h with
    | plain hs => exact hs rfl
    | escape he' h =>
      cases he.symm.trans he'
      exact ih h hstuck
  | quoted hl _ ih =>
    cases h with
    | plain _ hq => exact hq rfl
    | quoted hl' h =>
      cases hl.symm.trans hl'
      exact ih h hstuck

/-! ## The scan and the lexemes -/

theorem agrees_readTerm (cs : List Char) : Agrees cs ((readTerm cs).map Term.rest) := by
  fun_induction readTerm cs with
  | case1 => exact .refl []
  | case2 c rest => exact .refl (c :: rest)
  | case3 c rest hc _ ih =>
    obtain ⟨hs, hq⟩ := ne_of_blank hc
    rw [map_map]
    exact (Passes.plain hs hq (.refl rest)).agrees ih
  | case4 rest sequence hread => exact ⟨_, .refl _, .escape hread⟩
  | case5 rest e hread _ ih =>
    rw [map_map]
    exact (Passes.escape hread (.refl _)).agrees ih
  | case6 c rest => exact .refl (c :: rest)
  | case7 c rest hc hs hd ih =>
    have hq : c ≠ '"' := by
      rintro rfl
      exact hd rfl
    rw [map_map]
    exact (Passes.plain hs hq (.refl rest)).agrees ih

theorem agrees_readQuoted (cs : List Char) : Agrees ('"' :: cs) ((readQuoted cs).map Prod.snd) := by
  cases h : readQuoted cs with
  | error fault => exact ⟨_, .refl _, .quoted h⟩
  | ok read => exact .quoted h (.refl read.2)

theorem agrees_readLexeme {c : Char} (cs : List Char) (hb : isBlank c = false) :
    Agrees (c :: cs) ((readLexeme c cs).map Prod.snd) := by
  cases hc : isDelimiter c with
  | true =>
    have hmem : c ∈ ['(', ')', ':', '<', '>', '"', '{', '}'] := by simpa [isDelimiter] using hc
    simp only [List.mem_cons, List.not_mem_nil, or_false] at hmem
    have hcomparison (strict orEqual : Comparison) {c : Char} (hs : c ≠ '\\') (hq : c ≠ '"') :
        Passes (c :: cs) (readComparison strict orEqual cs).2 := by
      refine .plain hs hq ?_
      unfold readComparison
      split
      · exact .plain (by decide) (by decide) (.refl _)
      · exact .refl _
    rcases hmem with rfl | rfl | rfl | rfl | rfl | rfl | rfl | rfl
    case inr.inr.inr.inl | inr.inr.inr.inr.inl => exact hcomparison _ _ (by decide) (by decide)
    case inr.inr.inr.inr.inr.inl => exact agrees_readQuoted cs
    all_goals exact .plain (by decide) (by decide) (.refl cs)
  | false =>
    rw [readLexeme_of_not_delimiter hc]
    cases hkey : keywordAt? (c :: cs) with
    | some found =>
      obtain ⟨slice, hslice, -, hsplit, -⟩ := keywordAt?_eq_some_iff.1 hkey
      rw [hsplit]
      refine passes_append (fun d hd ↦ ?_) found.2
      have hbare := bare_of_isKeyword hslice d hd
      exact ⟨hbare.ne rfl, hbare.ne rfl⟩
    | none =>
      dsimp only
      rw [map_map]
      exact agrees_readTerm (c :: cs)

/-- **A text is cut into lexemes just if the scan gets through it**, and the faults are the same. -/
theorem agrees_lexemes (cs : List Char) : Agrees cs ((lexemes cs).map fun _ ↦ []) := by
  induction hn : cs.length using Nat.strongRecOn generalizing cs with
  | ind n ih =>
    have hblanks : Passes cs (dropBlank cs) := by
      have h := passes_append (fun c hc ↦ ne_of_blank (isBlank_of_mem_takeBlank cs c hc)) (dropBlank cs)
      rwa [Text.takeBlank_append_dropBlank] at h
    rw [lexemes_eq]
    refine hblanks.agrees ?_
    cases hd : dropBlank cs with
    | nil => exact .refl []
    | cons c rest =>
      have hb := Text.isBlank_of_dropBlank_eq_cons hd
      have hlexeme := agrees_readLexeme rest hb
      have hle := Text.length_dropBlank_le cs
      rw [hd] at hle
      cases hread : readLexeme c rest with
      | error fault =>
        rw [hread] at hlexeme
        simp only [hread]
        exact hlexeme
      | ok read =>
        obtain ⟨l, rest'⟩ := read
        rw [hread] at hlexeme
        simp only [hread]
        have hlt := length_readLexeme_lt hread hb
        have htail := ih _ (by omega) rest' rfl
        rw [map_map]
        exact Passes.agrees hlexeme htail

theorem Passes.exists_lexemes (h : Passes cs []) : ∃ found, lexemes cs = .ok found := by
  have hagrees := agrees_lexemes cs
  cases hread : lexemes cs with
  | ok found => exact ⟨found, rfl⟩
  | error fault =>
    rw [hread] at hagrees
    obtain ⟨unread, hpasses, hstuck⟩ := hagrees
    exact absurd hstuck (h.not_stuck hpasses)

/-! ## Cutting a text short -/

/-- A keyword in front of what cannot be part of one is there without it, too. -/
theorem isSome_keywordAt?_of_append {c : Char} (hc : ¬ IsBare c)
    (h : (keywordAt? (cs ++ c :: rest)).isSome = true) : (keywordAt? cs).isSome = true := by
  obtain ⟨⟨l, rest'⟩, hfound⟩ := Option.isSome_iff_exists.1 h
  obtain ⟨slice, hslice, hends, hsplit, -⟩ := keywordAt?_eq_some_iff.1 hfound
  rcases List.append_eq_append_iff.1 hsplit with ⟨ds, rfl, htail⟩ | ⟨ds, rfl, rfl⟩
  · cases ds with
    | nil =>
      rw [List.append_nil] at hslice
      rw [← List.append_nil cs, keywordAt?_keyword hslice rfl]
      rfl
    | cons d ds =>
      cases htail
      exact absurd (bare_of_isKeyword hslice c (by simp)) hc
  · have hends' : endsWord ds = true := by
      cases ds with
      | nil => rfl
      | cons d ds => exact hends
    rw [keywordAt?_keyword hslice hends']
    rfl

/-- An escape is still one if the text behind it is cut short, though it may then be of a keyword. -/
theorem readEscape_of_append {e : Escaped} {c : Char} (hc : ¬ IsBare c) (h : readEscape cs = .ok e)
    (hrest : e.rest = cs' ++ c :: rest) :
    ∃ char, readEscape (e.slice ++ cs') = .ok ⟨char, e.slice, cs'⟩ := by
  cases cs with
  | nil => cases h
  | cons d cs =>
    rcases readEscape_cases h with ⟨char, rfl, hread⟩ | ⟨rfl, hread⟩
    · obtain rfl : cs = cs' ++ c :: rest := hrest
      by_cases hkey : (keywordAt? (d :: cs')).isSome = true
      · exact ⟨d, readEscape_marked (.inr hkey)⟩
      · have hkey' : ¬ (keywordAt? (d :: cs' ++ c :: rest)).isSome = true :=
          mt (isSome_keywordAt?_of_append hc) hkey
        refine ⟨char, hread cs' ?_⟩
        rw [Bool.eq_false_of_not_eq_true hkey]
        exact (Bool.eq_false_of_not_eq_true hkey').symm
    · obtain ⟨digits, hslice, -, hdigits⟩ := readCodePoint_append hread cs'
      exact ⟨e.char, by rw [hslice, List.cons_append, readEscape_u, hdigits, hslice]⟩

/-- **What the scan gets through, it gets through with nothing behind it.** -/
theorem Passes.cut {c : Char} (hc : ¬ IsBare c) (h : Passes cs cs') (hcs' : cs' = c :: rest) :
    ∃ before, cs = before ++ c :: rest ∧ Passes before [] := by
  induction h with
  | refl => exact ⟨[], hcs', .refl []⟩
  | @plain d cs rest' hs hq _ ih =>
    obtain ⟨before, rfl, hbefore⟩ := ih hcs'
    exact ⟨d :: before, rfl, .plain hs hq hbefore⟩
  | @escape cs rest' e he _ ih =>
    obtain ⟨before, hrest, hbefore⟩ := ih hcs'
    obtain ⟨char, hread⟩ := readEscape_of_append hc he hrest
    refine ⟨'\\' :: (e.slice ++ before), ?_, .escape hread hbefore⟩
    rw [List.cons_append, List.append_assoc, ← hrest, (readEscape_split he).1]
  | @quoted cs tail rest' l hl _ ih =>
    obtain ⟨before, rfl, hbefore⟩ := ih hcs'
    obtain ⟨-, tail, hslice, hread⟩ := readQuoted_append hl
    refine ⟨'"' :: (tail ++ before), ?_, .quoted (hread before) hbefore⟩
    have hsplit := (readLexeme_split (c := '"') hl rfl).1
    rw [← hsplit, hslice]
    simp

end scan

end LogSearch.Kql
