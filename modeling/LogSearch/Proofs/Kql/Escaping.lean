import LogSearch.Proofs.Kql.RoundTrip
import LogSearch.Query.OfNode
import Mathlib.Data.List.TakeWhile

/-!
# Literals without quotes, escaped

Every text that has no blank at either end can be written without quotes: with a backslash in front
of each special character and of each keyword that stands between blanks.  Nothing in the text is
read as a sign of the query then.

What has to be seen is where the lexer looks for keywords.  Behind a blank it looks at text that is
still escaped, and behind a backslash it looks at the text that the backslash escapes; in both places
the escaped text has a keyword at its start just where the text itself has one with a blank or its
end behind it (`isSome_keywordAt?_escapeFrom`).  So the first kind is never found, as the backslash
stands in front of it, and the second always.

## What is here

* `startsWithKeyword`, `escapeFrom`, `escape` — the texts with backslashes;
* `readTerm_escapeFrom` — an escaped text is read as one literal, up to the end or a delimiter;
* `words_escapeFrom` — it is one word, and no keyword and no wildcard;
* `ofKql_escape` — the queries of escaped fields and values.
-/

set_option autoImplicit false
namespace LogSearch.Kql

open Text (isBlank dropBlank)

/-! ## Escaping -/

/-- Whether the text starts with a keyword, in any letter case, that has the end or a blank behind
it. -/
def startsWithKeyword (cs : List Char) : Bool :=
  keywords.any fun keyword ↦
    (cs.take keyword.1.length).map Char.toLower = keyword.1 &&
      (cs.drop keyword.1.length).head?.all isBlank

/-- The text with its backslashes, behind a blank or at its start if `fresh`. -/
def escapeFrom : Bool → List Char → List Char
  | _, [] => []
  | fresh, c :: cs =>
    if isSpecial c || fresh && startsWithKeyword (c :: cs) then
      '\\' :: c :: escapeFrom (isBlank c) cs
    else c :: escapeFrom (isBlank c) cs

/-- The text with a backslash in front of each special character and of each keyword that stands
between blanks. -/
def escape (text : String) : String := String.ofList (escapeFrom true text.toList)

/-- The text is not empty and has no blank at either end. -/
def IsTrimmed (cs : List Char) : Prop :=
  (∃ c ∈ cs.head?, isBlank c = false) ∧ ∃ c ∈ cs.getLast?, isBlank c = false

/-- An escaped literal ends in front of the text: at its end, or at a delimiter. -/
def Stops : List Char → Prop
  | [] => True
  | c :: _ => isDelimiter c = true

theorem Stops.breaks {rest : List Char} (h : Stops rest) : Breaks rest := by
  cases rest with
  | nil => trivial
  | cons c rest => exact .inl h

section escaping

variable {fresh : Bool} {c : Char} {cs rest : List Char}

theorem escapeFrom_marked (h : isSpecial c = true ∨ fresh = true ∧ startsWithKeyword (c :: cs) = true) :
    escapeFrom fresh (c :: cs) = '\\' :: c :: escapeFrom (isBlank c) cs := by
  rw [escapeFrom, if_pos]
  simpa using h

theorem escapeFrom_plain (hc : isSpecial c = false)
    (hk : fresh = true → startsWithKeyword (c :: cs) = false) :
    escapeFrom fresh (c :: cs) = c :: escapeFrom (isBlank c) cs := by
  rw [escapeFrom, if_neg]
  simpa [hc] using hk

theorem isBlank_of_isSpecial (h : isSpecial c = true) : isBlank c = false := by
  simp only [isSpecial, List.mem_cons, List.not_mem_nil, or_false, decide_eq_true_eq] at h
  rcases h with rfl | rfl | rfl | rfl | rfl | rfl | rfl | rfl | rfl | rfl <;> rfl

theorem isDelimiter_of_not_isSpecial (h : isSpecial c = false) : isDelimiter c = false := by
  cases hd : isDelimiter c with
  | false => rfl
  | true => rw [← h, (delimiter_cases hd).1]

/-! ## Keywords in escaped text -/

/-- A word of letters stands at the start of an escaped text, with the end of a word behind it, just
if it stands so in the text itself, with a blank or the end behind it. -/
theorem word_escapeFrom_iff (hr : Stops rest) {word : List Char}
    (hword : ∀ w ∈ word, w ∈ ['a', 'n', 'd', 'o', 'r', 't']) :
    (((escapeFrom false cs ++ rest).take word.length).map Char.toLower = word ∧
        endsWord ((escapeFrom false cs ++ rest).drop word.length) = true) ↔
      ((cs.take word.length).map Char.toLower = word ∧
        (cs.drop word.length).head?.all isBlank = true) := by
  induction word generalizing cs with
  | nil =>
    cases cs with
    | nil => simpa [escapeFrom] using hr.breaks.endsWord
    | cons c cs =>
      cases hc : isSpecial c with
      | true =>
        have hblank := isBlank_of_isSpecial hc
        rw [escapeFrom_marked (.inl hc)]
        simp [endsWord, hblank, show isBlank '\\' = false from rfl,
          show isDelimiter '\\' = false from rfl]
      | false =>
        rw [escapeFrom_plain hc (by simp)]
        simp [endsWord, isDelimiter_of_not_isSpecial hc]
  | cons w word ih =>
    obtain ⟨hw, hword⟩ := List.forall_mem_cons.1 hword
    have hbare : ∀ {c : Char}, c.toLower = w → IsBare c := fun h ↦ bare_of_toLower (h ▸ hw)
    cases cs with
    | nil =>
      -- a letter of the word would be what stands behind the text
      cases rest with
      | nil => simp [escapeFrom]
      | cons r rest =>
        have hne : r.toLower ≠ w := fun h ↦ by
          have hd := (hbare h).not_delimiter
          rw [show isDelimiter r = true from hr] at hd
          cases hd
        simp [escapeFrom, hne]
    | cons c cs =>
      by_cases hc : c.toLower = w
      · have hcb := hbare hc
        rw [escapeFrom_plain hcb.2 (by simp), hcb.1]
        simpa [hc] using ih hword
      · cases hs : isSpecial c with
        | true =>
          have hne : '\\' ≠ w := by
            rintro rfl
            cases (hbare (c := '\\') rfl).2
          rw [escapeFrom_marked (.inl hs)]
          simp [hc, hne]
        | false =>
          rw [escapeFrom_plain hs (by simp)]
          simp [hc]

/-- **Escaping neither hides a keyword between blanks nor makes a new one.** -/
theorem isSome_keywordAt?_escapeFrom (hr : Stops rest) (cs : List Char) :
    (keywordAt? (escapeFrom false cs ++ rest)).isSome = startsWithKeyword cs := by
  have hletters : ∀ keyword ∈ keywords, ∀ w ∈ keyword.1, w ∈ ['a', 'n', 'd', 'o', 'r', 't'] := by
    simp [keywords]
  rw [keywordAt?, startsWithKeyword, Bool.eq_iff_iff, List.findSome?_isSome_iff, List.any_eq_true]
  refine exists_congr fun keyword ↦ and_congr_right fun hmem ↦ ?_
  simpa using word_escapeFrom_iff hr (hletters keyword hmem)

/-- No keyword starts with a backslash. -/
theorem keywordAt?_backslash (cs : List Char) : keywordAt? ('\\' :: cs) = none := by
  simp [keywordAt?, keywords]

/-! ## Reading an escaped literal -/

/-- Behind a blank, an escaped text does not end a literal. -/
theorem endsTerm_escapeFrom (hr : Stops rest) (c : Char) (cs : List Char) :
    endsTerm (escapeFrom true (c :: cs) ++ rest) = false := by
  by_cases hmark : isSpecial c = true ∨ startsWithKeyword (c :: cs) = true
  · rw [escapeFrom_marked (by simpa using hmark), List.cons_append, endsTerm, keywordAt?_backslash]
    rfl
  · obtain ⟨hc, hk⟩ := not_or.1 hmark
    rw [Bool.not_eq_true] at hc hk
    -- no backslash in front of it, the text is the one that the keywords are looked up in
    have hsame : escapeFrom true (c :: cs) = escapeFrom false (c :: cs) := by
      rw [escapeFrom_plain hc fun _ ↦ hk, escapeFrom_plain hc (by simp)]
    have hkey := isSome_keywordAt?_escapeFrom hr (c :: cs)
    rw [hsame]
    rw [escapeFrom_plain hc (by simp), List.cons_append] at hkey ⊢
    rw [endsTerm, hkey, hk, isDelimiter_of_not_isSpecial hc]
    rfl

/-- An escaped text starts with a blank only if the text does. -/
theorem exists_escapeFrom_eq_cons (fresh : Bool) (cs : List Char) (hc : isBlank c = false) :
    ∃ d ds, escapeFrom fresh (c :: cs) = d :: ds ∧ isBlank d = false := by
  rw [escapeFrom]
  split
  · exact ⟨_, _, rfl, rfl⟩
  · exact ⟨_, _, rfl, hc⟩

theorem startsWithKeyword_of_isBlank (h : isBlank c = true) :
    startsWithKeyword (c :: cs) = false := by
  have hne : ∀ w ∈ ['a', 'n', 'd', 'o', 'r', 't'], c.toLower ≠ w := by
    rintro w hw rfl
    rw [(bare_of_toLower hw).1] at h
    cases h
  simp [startsWithKeyword, keywords, hne]

/-- The blanks in front of a text stay as they are. -/
theorem dropBlank_escapeFrom (h : dropBlank cs ≠ []) :
    dropBlank (escapeFrom true cs ++ rest) = escapeFrom true (dropBlank cs) ++ rest := by
  induction cs with
  | nil => exact absurd rfl h
  | cons c cs ih =>
    cases hblank : isBlank c with
    | true =>
      have hc : isSpecial c = false := by
        cases hs : isSpecial c with
        | false => rfl
        | true => rw [← hblank, isBlank_of_isSpecial hs]
      have hdrop : ∀ ds, dropBlank (c :: ds) = dropBlank ds := fun ds ↦ by
        simp [dropBlank, hblank]
      rw [hdrop] at h ⊢
      rw [escapeFrom_plain hc fun _ ↦ startsWithKeyword_of_isBlank hblank, hblank,
        List.cons_append, hdrop, ih h]
    | false =>
      have hkeep : ∀ {d} (ds : List Char), isBlank d = false → dropBlank (d :: ds) = d :: ds :=
        fun ds hd ↦ by simp [dropBlank, hd]
      obtain ⟨d, ds, heq, hd⟩ := exists_escapeFrom_eq_cons true cs hblank
      rw [hkeep cs hblank, heq, List.cons_append, hkeep _ hd]

theorem dropBlank_ne_nil (hne : cs ≠ []) (hend : ∀ c ∈ cs.getLast?, isBlank c = false) :
    dropBlank cs ≠ [] := by
  intro h
  have hall := List.dropWhile_eq_nil_iff.1 h _ (List.getLast_mem hne)
  rw [hend _ (List.getLast?_eq_some_getLast hne)] at hall
  cases hall

/-- A backslash takes a special character as it is, and so it does the first letter of a keyword. -/
theorem readEscape_marked (h : isSpecial c = true ∨ (keywordAt? (c :: rest)).isSome = true) :
    readEscape (c :: rest) = .ok ⟨c, [c], rest⟩ := by
  unfold readEscape
  dsimp only
  split
  · rfl
  · next hk =>
    have hc := h.resolve_right hk
    simp only [isSpecial, List.mem_cons, List.not_mem_nil, or_false, decide_eq_true_eq] at hc
    rcases hc with rfl | rfl | rfl | rfl | rfl | rfl | rfl | rfl | rfl | rfl <;> rfl

/-- **An escaped text is read as one literal** that stands for the text, and a `*` in it is escaped. -/
theorem readTerm_escapeFrom (fresh : Bool) (hr : Stops rest)
    (hend : ∀ c ∈ cs.getLast?, isBlank c = false) :
    ∃ escaped, readTerm (escapeFrom fresh cs ++ rest)
        = .ok ⟨cs, escapeFrom fresh cs, escaped, rest⟩ ∧
      ('*' ∈ cs → escaped = true) := by
  induction cs generalizing fresh with
  | nil => exact ⟨false, readTerm_of_breaks hr.breaks, by simp⟩
  | cons c cs ih =>
    have hend' : ∀ d ∈ cs.getLast?, isBlank d = false := by
      cases cs with
      | nil => simp
      | cons d ds => simpa using hend
    obtain ⟨escaped, hread, hstar⟩ := ih (isBlank c) hend'
    by_cases hmark : isSpecial c = true ∨ fresh = true ∧ startsWithKeyword (c :: cs) = true
    · have hescape : readEscape (c :: (escapeFrom (isBlank c) cs ++ rest))
          = .ok ⟨c, [c], escapeFrom (isBlank c) cs ++ rest⟩ := by
        refine readEscape_marked ?_
        cases hc : isSpecial c with
        | true => exact .inl rfl
        | false =>
          have hk : startsWithKeyword (c :: cs) = true := (hmark.resolve_left (by simp [hc])).2
          have hkey := isSome_keywordAt?_escapeFrom hr (c :: cs)
          rw [escapeFrom_plain hc (by simp), List.cons_append, hk] at hkey
          exact .inr hkey
      refine ⟨true, ?_, fun _ ↦ rfl⟩
      rw [escapeFrom_marked hmark, List.cons_append, List.cons_append, readTerm, if_neg (by decide),
        if_pos rfl]
      split
      · next h =>
        rw [hescape] at h
        cases h
      · next e h =>
        rw [hescape] at h
        cases h
        rw [hread]
        rfl
    · obtain ⟨hc, hk⟩ := not_or.1 hmark
      rw [Bool.not_eq_true] at hc
      have hplain : escapeFrom fresh (c :: cs) = c :: escapeFrom (isBlank c) cs :=
        escapeFrom_plain hc fun hf ↦ by simpa [hf] using hk
      have hne : ∀ d, isSpecial d = true → d ≠ c := by
        rintro d hd rfl
        rw [hc] at hd
        cases hd
      refine ⟨escaped, ?_, ?_⟩
      · have hends : isBlank c = true →
            endsTerm (dropBlank (escapeFrom (isBlank c) cs ++ rest)) = false := by
          intro hblank
          have hcs : cs ≠ [] := by
            rintro rfl
            rw [hend c rfl] at hblank
            cases hblank
          have hdrop := dropBlank_ne_nil hcs hend'
          obtain ⟨d, ds, hds⟩ := List.exists_cons_of_ne_nil hdrop
          rw [hblank, dropBlank_escapeFrom hdrop, hds]
          exact endsTerm_escapeFrom hr d ds
        rw [hplain, List.cons_append, readTerm]
        cases hblank : isBlank c with
        | true =>
          rw [hblank] at hends hread
          rw [if_pos rfl, if_neg (by simp [hends rfl]), hread]
          rfl
        | false =>
          rw [hblank] at hread
          rw [if_neg (by simp), if_neg (hne '\\' rfl).symm,
            if_neg (by simp [isDelimiter_of_not_isSpecial hc]), hread]
          rfl
      · rw [List.mem_cons]
        rintro (h | h)
        · exact absurd h (hne '*' rfl)
        · exact hstar h

/-- **An escaped text is one word**: no keyword, no wildcard, and nothing else besides. -/
theorem words_escapeFrom (hr : Stops rest) (h : IsTrimmed cs) :
    words (escapeFrom true cs ++ rest) = (words rest).map ((.term, cs) :: ·) := by
  obtain ⟨⟨c, hhead, hblank⟩, b, hlast, hb⟩ := h
  have hend : ∀ d ∈ cs.getLast?, isBlank d = false := fun d hd ↦ by
    rwa [Option.mem_unique hd hlast]
  obtain ⟨escaped, hread, hstar⟩ := readTerm_escapeFrom true hr hend
  obtain ⟨tail, rfl⟩ := List.head?_eq_some_iff.1 hhead
  obtain ⟨d, ds, heq, hd⟩ := exists_escapeFrom_eq_cons true tail hblank
  have hends := endsTerm_escapeFrom hr c tail
  rw [heq, List.cons_append] at hends hread ⊢
  obtain ⟨hdelimiter, hkey⟩ := Bool.or_eq_false_iff.1 hends
  have hlexeme : Term.lexeme ⟨c :: tail, d :: ds, escaped, rest⟩
      = ⟨.term, c :: tail, d :: ds⟩ := by
    rw [Term.lexeme, if_neg]
    intro hw
    obtain ⟨hvalue, hplain⟩ := Bool.and_eq_true_iff.1 hw
    have hone : c :: tail = ['*'] := of_decide_eq_true hvalue
    have hescaped := hstar (by simp [hone])
    simp [hescaped] at hplain
  have hnone : keywordAt? (d :: (ds ++ rest)) = none := by simpa using hkey
  refine words_cons ⟨.term, c :: tail, d :: ds⟩ hd ?_
  rw [readLexeme_of_not_delimiter hdelimiter, hnone, hread, ← hlexeme]
  rfl

end escaping

/-! ## Escaped queries -/

/-- **Every text can be written without quotes, and nothing gets in with it.**  An escaped field and an
escaped value ask just for this value of this field, and an escaped field alone asks for the field,
whatever the texts are, as long as no blank stands at their ends. -/
theorem ofKql_escape (limit : Nat) {field value : String} (hfield : IsTrimmed field.toList)
    (hvalue : IsTrimmed value.toList) :
    Query.ofKql limit (escape field ++ ":" ++ escape value) = .ok (.matchText field value) ∧
      Query.ofKql limit (escape field) = .ok (.present field) := by
  have hone : ∀ {text : String}, IsTrimmed text.toList →
      words (escapeFrom true text.toList) = .ok [(.term, text.toList)] := by
    intro text htext
    have hwords := words_escapeFrom (show Stops [] from trivial) htext
    rwa [List.append_nil, words_nil] at hwords
  have hwords : words (escape field ++ ":" ++ escape value).toList
      = .ok [(.term, field.toList), (.colon, [':']), (.term, value.toList)] := by
    have htext : (escape field ++ ":" ++ escape value).toList
        = escapeFrom true field.toList ++ ':' :: escapeFrom true value.toList := by
      simp [escape]
    rw [htext, words_escapeFrom (show Stops (':' :: _) from rfl) hfield, words_colon, hone hvalue]
    rfl
  have hterm : ∀ {t : Token} {text : String}, t.word = (.term, text.toList) →
      t.IsText ∧ t.value = text := fun h ↦
    ⟨.inl (congrArg Prod.fst h), String.toList_inj.1 (congrArg Prod.snd h)⟩
  constructor
  · obtain ⟨ts, htokens, hts⟩ := tokenize_of_words hwords
    obtain ⟨f, ts, rfl, hf, hts⟩ := List.map_eq_cons_iff.1 hts
    obtain ⟨c, ts, rfl, hc, hts⟩ := List.map_eq_cons_iff.1 hts
    obtain ⟨v, rfl, hv⟩ := List.map_eq_singleton_iff.1 hts
    obtain ⟨hftext, rfl⟩ := hterm hf
    obtain ⟨hvtext, rfl⟩ := hterm hv
    have hquery : IsQuery limit [f, c, v] (.field f.value (.literal v.value)) :=
      Disjunction.of_negatable (.plain (.field hftext (congrArg Prod.fst hc) (.literal hvtext)))
    rw [Query.ofKql, parse_eq_ok_iff.2 ⟨_, htokens, hquery⟩]
    rfl
  · have halone : words (escape field).toList = .ok [(.term, field.toList)] :=
      (congrArg words String.toList_ofList).trans (hone hfield)
    obtain ⟨ts, htokens, hts⟩ := tokenize_of_words halone
    obtain ⟨f, rfl, hf⟩ := List.map_eq_singleton_iff.1 hts
    obtain ⟨hftext, rfl⟩ := hterm hf
    have hquery : IsQuery limit [f] (.present f.value) :=
      Disjunction.of_negatable (.plain (.present hftext))
    rw [Query.ofKql, parse_eq_ok_iff.2 ⟨_, htokens, hquery⟩]
    rfl

/-- A field with a keyword, a sign and blanks in it, and a value that is a keyword in parentheses. -/
theorem ofKql_escape_keywords :
    escape "Not a:b" ++ ":" ++ escape "(or) or *" = "\\Not a\\:b:\\(or\\) \\or \\*" ∧
      Query.ofKql 0 (escape "Not a:b" ++ ":" ++ escape "(or) or *")
        = .ok (.matchText "Not a:b" "(or) or *") := by
  refine ⟨by decide, ?_⟩
  exact (ofKql_escape 0 ⟨⟨'N', rfl, rfl⟩, 'b', rfl, rfl⟩ ⟨⟨'(', rfl, rfl⟩, '*', rfl, rfl⟩).1

end LogSearch.Kql
