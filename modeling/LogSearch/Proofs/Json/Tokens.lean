import LogSearch.Json.Reader
import LogSearch.Proofs.Json.Unambiguous

/-!
# The tokens of a document

A text is made of tokens: punctuation marks, words, numbers and strings.  Blanks may stand between them and
change nothing, as long as no two words or numbers touch, for these go on as far as they can.  So the tokens
of a text are its own, and can be told from it (`Layout.unique`).

A document is written in one line or with a line for each item and field.  Piece by piece the two texts are
made of the same tokens.

## What is here

* `IsToken`, `Layout`, `SameTokens` — tokens, and texts that are made of them;
* `Covers`, `covers_brackets`, `covers_block` — pieces of texts;
* `tokens`, `covers_write`, `covers_writePretty` — the tokens of a document;
* `sameTokens_pretty_compact` — both texts of a document;
* `Layout.unique` — a text is cut in one way.
-/

set_option autoImplicit false

namespace LogSearch.Json

/-! ## Texts made of tokens -/

/-- The punctuation marks. -/
def marks : List Char := ['[', ']', '{', '}', ',', ':']

/-- A punctuation mark, a word, a number or a string. -/
inductive IsToken : List Char → Prop
  | mark {c : Char} (h : c ∈ marks) : IsToken [c]
  | word {cs : List Char} (h : cs ∈ ["null".toList, "true".toList, "false".toList]) : IsToken cs
  | number {cs : List Char} (h : IsNumber cs) : IsToken cs
  | string {cs : List Char} (h : IsStringBody cs) : IsToken ('"' :: cs ++ ['"'])

/-- Words and numbers are made of such characters, and go on as long as such characters follow. -/
def isBare (c : Char) : Bool := c.isAlphanum || c ∈ ['+', '-', '.']

/-- The text does not go on with a word or a number. -/
def EndsBare (cs : List Char) : Prop := ∀ c ∈ cs.head?, isBare c = false

/-- The text is the tokens one after the other, with blanks wherever one likes, but no word and no number
touches another. -/
inductive Layout : List (List Char) → List Char → Prop
  | blanks {bs : List Char} (h : IsBlanks bs) : Layout [] bs
  | token {bs token cs : List Char} {tokens : List (List Char)} (hblanks : IsBlanks bs)
    (htoken : IsToken token) (hapart : (∃ c ∈ token.getLast?, isBare c = true) → EndsBare cs)
    (h : Layout tokens cs) : Layout (token :: tokens) (bs ++ token ++ cs)

/-- Two texts have the same tokens: they differ in the blanks between tokens only. -/
def SameTokens (cs ds : List Char) : Prop := ∃ tokens, Layout tokens cs ∧ Layout tokens ds

/-! ## Pieces of texts -/

/-- The piece is made of the tokens, whatever follows it that keeps its end. -/
def Covers (tokens : List (List Char)) (text : List Char) : Prop :=
  ∀ us cs, Layout us cs → EndsBare cs → Layout (tokens ++ us) (text ++ cs)

section covers

variable {tokens us : List (List Char)} {text cs bs : List Char}

@[simp] theorem endsBare_nil : EndsBare [] := by simp [EndsBare]

@[simp] theorem endsBare_cons {c : Char} : EndsBare (c :: cs) ↔ isBare c = false := by simp [EndsBare]

theorem Layout.blanks_append (hbs : IsBlanks bs) (h : Layout tokens cs) : Layout tokens (bs ++ cs) := by
  have happend {ds : List Char} (hds : IsBlanks ds) : IsBlanks (bs ++ ds) :=
    List.forall_mem_append.2 ⟨hbs, hds⟩
  cases h with
  | blanks h => exact .blanks (happend h)
  | token hblanks htoken hapart h =>
    have hlayout := Layout.token (happend hblanks) htoken hapart h
    simpa only [List.append_assoc] using hlayout

theorem covers_token (h : IsToken text) : Covers [text] text := by
  intro us cs hlayout hends
  exact .token isBlanks_nil h (fun _ ↦ hends) hlayout

theorem isBare_mark {c : Char} (h : c ∈ marks) : isBare c = false := by
  have hall : ∀ c ∈ marks, isBare c = false := by simp [marks, isBare]
  exact hall c h

theorem layout_mark {c : Char} (h : c ∈ marks) (hlayout : Layout us cs) :
    Layout ([c] :: us) (c :: cs) := by
  refine .token isBlanks_nil (.mark h) ?_ hlayout
  rintro ⟨d, hd, hbare⟩
  obtain rfl : c = d := by simpa using hd
  rw [isBare_mark h] at hbare
  cases hbare

/-- Blanks keep what stands in front of them from going on. -/
theorem EndsBare.blanks_append (hbs : IsBlanks bs) (h : EndsBare cs) : EndsBare (bs ++ cs) := by
  cases bs with
  | nil => exact h
  | cons b bs =>
    have hall : ∀ b ∈ [' ', '\t', '\n', '\r'], isBare b = false := by simp [isBare]
    exact endsBare_cons.2 (hall b (hbs b List.mem_cons_self))

theorem Covers.blanks_append (hbs : IsBlanks bs) (h : Covers tokens text) :
    Covers tokens (bs ++ text) := by
  intro us cs hlayout hends
  rw [List.append_assoc]
  exact (h us cs hlayout hends).blanks_append hbs

end covers

/-! ## Items and fields -/

/-- Tokens of items or fields, with commas between them. -/
def separate : List (List (List Char)) → List (List Char)
  | [] => []
  | tokens :: others => tokens ++ others.flatMap ([','] :: ·)

section lists

variable {α : Type} {tokens : α → List (List Char)} {text : α → List Char} {as : List α}
  {us : List (List Char)} {cs : List Char}

theorem endsBare_flatMap_comma (texts : List (List Char)) (hends : EndsBare cs) :
    EndsBare (texts.flatMap (',' :: ·) ++ cs) := by
  cases texts with
  | nil => exact hends
  | cons text texts => exact endsBare_cons.2 rfl

theorem covers_flatMap_comma (h : ∀ a ∈ as, Covers (tokens a) (text a)) :
    Covers ((as.map tokens).flatMap ([','] :: ·)) ((as.map text).flatMap (',' :: ·)) := by
  intro us cs hlayout hends
  induction as with
  | nil => exact hlayout
  | cons a as ih =>
    obtain ⟨ha, has⟩ := List.forall_mem_cons.1 h
    simp only [List.map_cons, List.flatMap_cons, List.append_assoc, List.cons_append]
    exact layout_mark (by decide) (ha _ _ (ih has) (endsBare_flatMap_comma _ hends))

theorem covers_commaSeparated (h : ∀ a ∈ as, Covers (tokens a) (text a)) :
    Covers (separate (as.map tokens)) (commaSeparated (as.map text)) := by
  intro us cs hlayout hends
  cases as with
  | nil => exact hlayout
  | cons a as =>
    obtain ⟨ha, has⟩ := List.forall_mem_cons.1 h
    rw [List.map_cons, List.map_cons, separate, commaSeparated_cons, List.append_assoc,
      List.append_assoc]
    exact ha _ _ (covers_flatMap_comma has us cs hlayout hends) (endsBare_flatMap_comma _ hends)

end lists

/-! ## Documents -/

mutual

/-- The tokens of a document. -/
def tokens : Json → List (List Char)
  | .array items => ['['] :: separate (tokensItems items) ++ [[']']]
  | .object fields => ['{'] :: separate (tokensFields fields) ++ [['}']]
  | value => [value.write]

/-- The tokens of the items of an array. -/
def tokensItems : List Json → List (List (List Char))
  | [] => []
  | item :: items => item.tokens :: tokensItems items

/-- The tokens of the fields of an object. -/
def tokensFields : List (String × Json) → List (List (List Char))
  | [] => []
  | (name, value) :: fields =>
    (literalChars name.toList :: [':'] :: value.tokens) :: tokensFields fields

end

theorem tokensItems_eq (items : List Json) : tokensItems items = items.map tokens := by
  induction items with
  | nil => rfl
  | cons item items ih => rw [tokensItems, ih, List.map_cons]

theorem tokensFields_eq (fields : List (String × Json)) : tokensFields fields
    = fields.map fun field ↦ literalChars field.1.toList :: [':'] :: field.2.tokens := by
  induction fields with
  | nil => rfl
  | cons field fields ih => rw [tokensFields, ih, List.map_cons]

theorem writePrettyItems_eq (level : Nat) (items : List Json) :
    writePrettyItems level items = items.map (writePretty level) := by
  induction items with
  | nil => rfl
  | cons item items ih => rw [writePrettyItems, ih, List.map_cons]

theorem writePrettyFields_eq (level : Nat) (fields : List (String × Json)) :
    writePrettyFields level fields = fields.map fun field ↦
      literalChars field.1.toList ++ ':' :: ' ' :: field.2.writePretty level := by
  induction fields with
  | nil => rfl
  | cons field fields ih => rw [writePrettyFields, ih, List.map_cons]

section documents

variable {value : Json} {level : Nat}

theorem isBlanks_newLine (level : Nat) : IsBlanks (newLine level) := by
  refine List.forall_mem_cons.2 ⟨by decide, fun c hc ↦ ?_⟩
  rw [List.eq_of_mem_replicate hc]
  decide

theorem isToken_literalChars (cs : List Char) : IsToken (literalChars cs) :=
  .string (isStringBody_flatMap cs)

/-- Texts between brackets, with blanks behind the last. -/
theorem covers_brackets {α : Type} {tokens : α → List (List Char)} {text : α → List Char} {as : List α}
    {bs : List Char} {opener closer : Char} (hopener : opener ∈ marks) (hcloser : closer ∈ marks)
    (hbs : IsBlanks bs) (h : ∀ a ∈ as, Covers (tokens a) (text a)) :
    Covers ([opener] :: separate (as.map tokens) ++ [[closer]])
      (opener :: commaSeparated (as.map text) ++ bs ++ [closer]) := by
  intro us cs hlayout _
  simp only [List.cons_append, List.append_assoc, List.nil_append]
  have hbehind : EndsBare (closer :: cs) := endsBare_cons.2 (isBare_mark hcloser)
  exact layout_mark hopener (covers_commaSeparated h _ _
    ((layout_mark hcloser hlayout).blanks_append hbs) (hbehind.blanks_append hbs))

/-- A name, a colon and a value, with blanks in front of the value. -/
theorem covers_field {name : String} {tokens : List (List Char)} {text bs : List Char}
    (hbs : IsBlanks bs) (h : Covers tokens text) :
    Covers (literalChars name.toList :: [':'] :: tokens)
      (literalChars name.toList ++ ':' :: (bs ++ text)) := by
  intro us cs hlayout hends
  have hcolon := layout_mark (by decide : ':' ∈ marks) ((h us cs hlayout hends).blanks_append hbs)
  have hname := covers_token (isToken_literalChars name.toList) _ _ hcolon (endsBare_cons.2 rfl)
  simpa only [List.append_assoc, List.cons_append, List.nil_append] using hname

/-- Texts a line each between brackets, or brackets with nothing between them. -/
theorem covers_block {α : Type} {tokens : α → List (List Char)} {text : α → List Char} {as : List α}
    {opener closer : Char} (hopener : opener ∈ marks) (hcloser : closer ∈ marks) (level : Nat)
    (h : ∀ a ∈ as, Covers (tokens a) (text a)) :
    Covers ([opener] :: separate (as.map tokens) ++ [[closer]])
      (block level opener closer (as.map text)) := by
  cases as with
  | nil => exact covers_brackets hopener hcloser isBlanks_nil h
  | cons a as =>
    have hlines : ∀ b ∈ a :: as, Covers (tokens b) (newLine (level + 1) ++ text b) :=
      fun b hb ↦ (h b hb).blanks_append (isBlanks_newLine _)
    rw [block, if_neg (by simp), List.map_map]
    exact covers_brackets hopener hcloser (isBlanks_newLine level) hlines

/-- **The text without blanks** is made of the tokens. -/
theorem covers_write (h : value.Whole) : Covers value.tokens value.write := by
  induction h with
  | null => exact covers_token (.word (by decide))
  | bool value => cases value <;> exact covers_token (.word (by decide))
  | int n => exact covers_token (.number (isNumber_int n))
  | string s => exact covers_token (isToken_literalChars s.toList)
  | @array items _ ih =>
    rw [tokens, tokensItems_eq, write, writeItems_eq]
    simpa using covers_brackets (by decide) (by decide) isBlanks_nil ih
  | @object fields _ ih =>
    have hfields : ∀ field ∈ fields, Covers _ (writeField field) :=
      fun field hfield ↦ covers_field isBlanks_nil (ih field hfield)
    rw [tokens, tokensFields_eq, write, writeFields_eq]
    simpa using covers_brackets (by decide) (by decide) isBlanks_nil hfields

/-- **The text for people** is made of the same tokens. -/
theorem covers_writePretty (h : value.Whole) (level : Nat) :
    Covers value.tokens (value.writePretty level) := by
  induction h generalizing level with
  | null => exact covers_token (.word (by decide))
  | bool value => cases value <;> exact covers_token (.word (by decide))
  | int n => exact covers_token (.number (isNumber_int n))
  | string s => exact covers_token (isToken_literalChars s.toList)
  | @array items _ ih =>
    rw [tokens, tokensItems_eq, writePretty, writePrettyItems_eq]
    exact covers_block (by decide) (by decide) level fun item hitem ↦ ih item hitem (level + 1)
  | @object fields _ ih =>
    have hspace : IsBlanks [' '] := by simp [IsBlanks]
    rw [tokens, tokensFields_eq, writePretty, writePrettyFields_eq]
    exact covers_block (by decide) (by decide) level
      fun field hfield ↦ covers_field hspace (ih field hfield (level + 1))

theorem Covers.layout {tokens : List (List Char)} {text : List Char} (h : Covers tokens text) :
    Layout tokens text := by
  have hlayout := h [] [] (.blanks isBlanks_nil) endsBare_nil
  rwa [List.append_nil, List.append_nil] at hlayout

/-- **Both texts of a document have the same tokens.** -/
theorem sameTokens_pretty_compact (h : value.Whole) :
    SameTokens value.pretty.toList value.compact.toList := by
  rw [pretty, compact, String.toList_ofList, String.toList_ofList]
  exact ⟨value.tokens, (covers_writePretty h 0).layout, (covers_write h).layout⟩

end documents

/-! ## One way to cut a text -/

section unique

variable {cs ds r s token other : List Char}

theorem IsStringBody.append_inj (hc : IsStringBody cs) (hd : IsStringBody ds)
    (h : cs ++ '"' :: r = ds ++ '"' :: s) : cs = ds ∧ r = s := by
  induction hc generalizing ds with
  | nil =>
    cases hd with
    | nil => exact ⟨rfl, (List.cons.inj h).2⟩
    | plain _ hquote => exact absurd (List.cons.inj h).1.symm hquote
    | escape => exact absurd (List.cons.inj h).1 (by decide)
    | unicode => exact absurd (List.cons.inj h).1 (by decide)
  | plain _ hquote hbackslash _ ih =>
    cases hd with
    | nil => exact absurd (List.cons.inj h).1 hquote
    | plain _ _ _ hd =>
      obtain ⟨rfl, hrest⟩ := List.cons.inj h
      obtain ⟨rfl, hbehind⟩ := ih hd hrest
      exact ⟨rfl, hbehind⟩
    | escape => exact absurd (List.cons.inj h).1 hbackslash
    | unicode => exact absurd (List.cons.inj h).1 hbackslash
  | @escape c _ hc _ ih =>
    cases hd with
    | nil => exact absurd (List.cons.inj h).1 (by decide)
    | plain _ _ hbackslash => exact absurd (List.cons.inj h).1.symm hbackslash
    | escape _ hd =>
      obtain ⟨rfl, hrest⟩ := List.cons.inj (List.cons.inj h).2
      obtain ⟨rfl, hbehind⟩ := ih hd hrest
      exact ⟨rfl, hbehind⟩
    | unicode =>
      obtain ⟨rfl, -⟩ := List.cons.inj (List.cons.inj h).2
      exact absurd hc (by decide)
  | @unicode digits _ hlength _ _ ih =>
    cases hd with
    | nil => exact absurd (List.cons.inj h).1 (by decide)
    | plain _ _ hbackslash => exact absurd (List.cons.inj h).1.symm hbackslash
    | escape hc =>
      obtain ⟨rfl, -⟩ := List.cons.inj (List.cons.inj h).2
      exact absurd hc (by decide)
    | @unicode others _ hothers _ hd =>
      simp only [List.cons_append, List.append_assoc, List.cons.injEq, true_and] at h
      obtain ⟨rfl, hrest⟩ := List.append_inj h (hlength.trans hothers.symm)
      obtain ⟨rfl, hbehind⟩ := ih hd hrest
      exact ⟨rfl, hbehind⟩

theorem isBare_number (h : IsNumber cs) : cs ≠ [] ∧ ∀ c ∈ cs, isBare c = true := by
  obtain ⟨sign, hsign, whole, fraction, exponent, ⟨hwhole, -⟩, hfraction, hexponent, rfl⟩ := h
  have hdigits {digits : List Char} (h : IsDigits digits) : ∀ c ∈ digits, isBare c = true :=
    fun c hc ↦ by simp [isBare, Char.isAlphanum, h.2 c hc]
  refine ⟨by simp [hwhole.1], ?_⟩
  simp only [List.forall_mem_append]
  refine ⟨⟨⟨?_, hdigits hwhole⟩, ?_⟩, ?_⟩
  · simp only [List.mem_cons, List.not_mem_nil, or_false] at hsign
    rcases hsign with rfl | rfl <;> simp [isBare]
  · rcases hfraction with rfl | ⟨digits, h, rfl⟩
    · exact List.forall_mem_nil _
    · exact List.forall_mem_cons.2 ⟨rfl, hdigits h⟩
  · rcases hexponent with rfl | ⟨e, he, sign, hsign, digits, h, rfl⟩
    · exact List.forall_mem_nil _
    · simp only [List.mem_cons, List.not_mem_nil, or_false] at he hsign
      simp only [List.cons_append, List.forall_mem_cons, List.forall_mem_append]
      refine ⟨by rcases he with rfl | rfl <;> rfl, ?_, hdigits h⟩
      rcases hsign with rfl | rfl | rfl <;> simp [isBare]

/-- What stands behind the first character of a token. -/
def StartsToken (c : Char) (rest : List Char) : Prop :=
  if c ∈ marks then rest = []
  else if c = '"' then ∃ cs, IsStringBody cs ∧ rest = cs ++ ['"']
  else ∀ d ∈ c :: rest, isBare d = true

theorem startsToken_bare {c : Char} (h : ∀ d ∈ c :: cs, isBare d = true) : StartsToken c cs := by
  have hc := h c List.mem_cons_self
  have hmark : c ∉ marks := fun hmark ↦ by simp [isBare_mark hmark] at hc
  have hquote : c ≠ '"' := by rintro rfl; cases hc
  rw [StartsToken, if_neg hmark, if_neg hquote]
  exact h

/-- The first character of a token says what kind of token it is. -/
theorem IsToken.starts (h : IsToken token) : ∃ c rest, token = c :: rest ∧ StartsToken c rest := by
  cases h with
  | mark h => exact ⟨_, [], rfl, by rw [StartsToken, if_pos h]⟩
  | word h =>
    have hall : ∀ word ∈ ["null".toList, "true".toList, "false".toList],
        word ≠ [] ∧ ∀ c ∈ word, isBare c = true := by simp [isBare]
    obtain ⟨hne, hbare⟩ := hall _ h
    obtain ⟨c, rest, rfl⟩ := List.exists_cons_of_ne_nil hne
    exact ⟨c, rest, rfl, startsToken_bare hbare⟩
  | number h =>
    obtain ⟨hne, hbare⟩ := isBare_number h
    obtain ⟨c, rest, rfl⟩ := List.exists_cons_of_ne_nil hne
    exact ⟨c, rest, rfl, startsToken_bare hbare⟩
  | @string cs h =>
    refine ⟨'"', cs ++ ['"'], rfl, ?_⟩
    rw [StartsToken, if_neg (by decide), if_pos rfl]
    exact ⟨cs, h, rfl⟩

theorem takeWhile_isBare (hne : token ≠ []) (htoken : ∀ c ∈ token, isBare c = true)
    (hapart : (∃ c ∈ token.getLast?, isBare c = true) → EndsBare r) :
    (token ++ r).takeWhile isBare = token := by
  have hends : EndsBare r := hapart
    ⟨token.getLast hne, List.getLast?_eq_some_getLast hne, htoken _ (List.getLast_mem hne)⟩
  rw [List.takeWhile_append_of_pos htoken]
  cases r with
  | nil => simp
  | cons c r => simp [endsBare_cons.1 hends]

/-- The next token of a text, when words and numbers go on as long as they can. -/
theorem IsToken.append_inj (h : IsToken token) (h' : IsToken other)
    (hapart : (∃ c ∈ token.getLast?, isBare c = true) → EndsBare r)
    (hapart' : (∃ c ∈ other.getLast?, isBare c = true) → EndsBare s) (heq : token ++ r = other ++ s) :
    token = other ∧ r = s := by
  obtain ⟨c, x, rfl, hx⟩ := h.starts
  obtain ⟨d, y, rfl, hy⟩ := h'.starts
  obtain ⟨rfl, hrest⟩ := List.cons.inj heq
  unfold StartsToken at hx hy
  split at hx
  · next hmark =>
    rw [if_pos hmark] at hy
    subst hx hy
    exact ⟨rfl, hrest⟩
  · next hmark =>
    rw [if_neg hmark] at hy
    split at hx
    · next hquote =>
      rw [if_pos hquote] at hy
      obtain ⟨cs, hcs, rfl⟩ := hx
      obtain ⟨ds, hds, rfl⟩ := hy
      obtain ⟨rfl, hbehind⟩ := hcs.append_inj hds (by simpa using hrest)
      exact ⟨rfl, hbehind⟩
    · next hquote =>
      rw [if_neg hquote] at hy
      have hwords := congrArg (List.takeWhile isBare) heq
      rw [takeWhile_isBare (List.cons_ne_nil c x) hx hapart,
        takeWhile_isBare (List.cons_ne_nil c y) hy hapart'] at hwords
      exact ⟨hwords, List.append_cancel_left (hwords ▸ heq)⟩

theorem isSpace_of_mem {c : Char} (h : c ∈ [' ', '\t', '\n', '\r']) : isSpace c = true := by
  have hall : ∀ c ∈ [' ', '\t', '\n', '\r'], isSpace c = true := by simp [isSpace]
  exact hall c h

/-- Blanks in front of a token end where the token starts. -/
theorem IsToken.dropWhile_isSpace (h : IsToken token) (hcs : IsBlanks cs) :
    (cs ++ token ++ r).dropWhile isSpace = token ++ r := by
  obtain ⟨c, x, rfl, hx⟩ := h.starts
  have hc : ¬isSpace c = true := by
    intro hblank
    simp only [isSpace, Bool.or_eq_true, beq_iff_eq] at hblank
    rcases hblank with ((rfl | rfl) | rfl) | rfl <;>
      (rw [StartsToken, if_neg (by decide), if_neg (by decide)] at hx; cases hx _ List.mem_cons_self)
  rw [List.append_assoc, List.dropWhile_append_of_pos fun d hd ↦ isSpace_of_mem (hcs d hd)]
  exact List.dropWhile_cons_of_neg hc

theorem IsBlanks.dropWhile_isSpace (h : IsBlanks cs) : cs.dropWhile isSpace = [] := by
  rw [← List.append_nil cs, List.dropWhile_append_of_pos fun c hc ↦ isSpace_of_mem (h c hc)]
  rfl

/-- **A text can be cut into tokens in one way only.** -/
theorem Layout.unique {tokens others : List (List Char)} (h : Layout tokens cs) (h' : Layout others cs) :
    tokens = others := by
  induction h generalizing others with
  | @blanks bs h =>
    cases h' with
    | blanks => rfl
    | @token ds token es _ hblanks htoken =>
      have hnone := h.dropWhile_isSpace
      rw [htoken.dropWhile_isSpace hblanks] at hnone
      obtain ⟨c, x, rfl, -⟩ := htoken.starts
      cases hnone
  | @token bs token cs tokens hblanks htoken hapart _ ih =>
    generalize htext : bs ++ token ++ cs = text at h'
    have hdrop := htoken.dropWhile_isSpace (r := cs) hblanks
    rw [htext] at hdrop
    cases h' with
    | blanks h =>
      rw [h.dropWhile_isSpace] at hdrop
      obtain ⟨c, x, rfl, -⟩ := htoken.starts
      cases hdrop
    | token hblanks' htoken' hapart' h' =>
      rw [htoken'.dropWhile_isSpace hblanks'] at hdrop
      obtain ⟨rfl, rfl⟩ := htoken.append_inj htoken' hapart hapart' hdrop.symm
      rw [ih h']

end unique
end LogSearch.Json
