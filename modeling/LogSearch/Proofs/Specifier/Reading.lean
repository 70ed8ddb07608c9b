import LogSearch.Proofs.Kql.Words
import LogSearch.Specifier

/-!
# Which texts are specifiers

An operator is *active* if no backslash stands right in front of it.  The active operators cut a text
into parts, in one way only (`areOf_iff`), and a text is a specifier if there is no operator and the one
part is not empty, or one operator between two parts that are not empty.  All other texts are refused
with their parts and operators.

Backslashes are looked at twice, when the text is cut and when the parts lose them.  In the cutting, a
character is looked at with the one in front of it; so everything here is said of a text behind a
character that is a backslash or not.

## What is here

* `IsActive`, `strip` — the active operators of a text, and the text without the backslashes;
* `Parts`, `Parts.AreOf` — a text, cut at its active operators;
* `partsBehind`, `areBehind_iff` — the parts, by recursion on the text;
* `map_word_cut` — the tokens are the parts and the operators between them;
* `parse_eq`, `parse_eq_ok_iff` — what a text is read as, from its parts;
* `parse_active` — the same in terms of active operators.
-/

set_option autoImplicit false
namespace LogSearch.Specifier

open Kql (Token TokenKind Word)

/-! ## Operators and backslashes -/

/-- The four operators. -/
def isOperator (c : Char) : Bool := c ∈ ['=', '<', '>', '~']

/-- An operator stands at this place of the text, with no backslash right in front of it. -/
def IsActive (cs : List Char) (i : Nat) : Prop :=
  (∃ c ∈ cs[i]?, isOperator c = true) ∧ ∀ j, i = j + 1 → cs[j]? ≠ some '\\'

/-- The text without the backslashes that stand right in front of an operator. -/
def strip : List Char → List Char
  | [] => []
  | c :: cs => if c = '\\' && cs.head?.any isOperator then strip cs else c :: strip cs

section operators

variable {c : Char} {cs : List Char} {i : Nat}

theorem isSome_operatorKind? (c : Char) : (operatorKind? c).isSome = isOperator c := by
  unfold operatorKind?
  split
  case h_5 h1 h2 h3 h4 =>
    have hc : c ≠ '=' ∧ c ≠ '<' ∧ c ≠ '>' ∧ c ≠ '~' := ⟨h1, h2, h3, h4⟩
    simpa [isOperator] using hc
  all_goals rfl

theorem ne_backslash_of_isOperator (h : isOperator c = true) : c ≠ '\\' := by
  rintro rfl
  cases h

theorem unescape_eq_strip (cs : List Char) : unescape cs = strip cs := by
  fun_induction unescape cs with
  | case1 => rfl
  | case2 c => simp [strip]
  | case3 c d rest h ih =>
    have hd : isOperator d = true := by
      rw [isSome_operatorKind?] at h
      simpa using (Bool.and_eq_true_iff.1 h).2
    have hkept : strip (d :: rest) = d :: strip rest := by
      rw [strip, if_neg]
      simp [ne_backslash_of_isOperator hd]
    rw [strip, if_pos, hkept, ih]
    simpa [isSome_operatorKind?] using h
  | case4 c d rest h ih =>
    rw [strip, if_neg, ih]
    simpa [isSome_operatorKind?] using h

/-- The operator that a character stands for. -/
def operatorOf? (c : Char) : Option SpecifierOperator := (operatorKind? c).bind operator?

theorem isOperator_iff : isOperator c = true ↔ c = '=' ∨ c = '<' ∨ c = '>' ∨ c = '~' := by
  simp [isOperator]

theorem operatorOf?_eq_some_iff {op : SpecifierOperator} :
    operatorOf? c = some op ↔ sign op = c.toString := by
  have hsign : ∀ d : Char, String.singleton d = c.toString ↔ d = c := fun d ↦
    ⟨fun h ↦ by simpa using congrArg String.toList h, fun h ↦ h ▸ rfl⟩
  constructor
  · intro h
    have hc : isOperator c = true := by
      rw [← isSome_operatorKind?]
      exact Option.isSome_of_mem (Option.bind_eq_some_iff.1 h).choose_spec.1
    rcases isOperator_iff.1 hc with rfl | rfl | rfl | rfl <;> cases h <;> rfl
  · intro h
    match op with
    | .present => simpa [sign] using congrArg String.toList h
    | .equals => rw [← (hsign '=').1 h]; rfl
    | .lessThan => rw [← (hsign '<').1 h]; rfl
    | .greaterThan => rw [← (hsign '>').1 h]; rfl
    | .matches => rw [← (hsign '~').1 h]; rfl

theorem isActive_zero : IsActive (c :: cs) 0 ↔ isOperator c = true := by
  simp [IsActive]

theorem isActive_succ : IsActive (c :: cs) (i + 1) ↔ IsActive cs i ∧ (i = 0 → c ≠ '\\') := by
  rw [IsActive, IsActive, and_assoc, List.getElem?_cons_succ]
  refine and_congr_right fun _ ↦ ⟨fun h ↦ ⟨fun j hj ↦ ?_, fun hi ↦ ?_⟩, fun h j hj ↦ ?_⟩
  · exact h (j + 1) (by omega)
  · simpa [hi] using h i rfl
  · obtain rfl : i = j := by omega
    cases i with
    | zero => simpa using h.2 rfl
    | succ i => exact h.1 i rfl

end operators

/-! ## Parts -/

/-- Parts of a text with an operator between each two of them. -/
structure Parts where
  first : List Char
  /-- The operators, each with the part behind it. -/
  rest : List (Char × List Char)

namespace Parts

/-- The text that the parts and operators make. -/
def text (p : Parts) : List Char := p.first ++ p.rest.flatMap fun found ↦ found.1 :: found.2

/-- The places of operators and the parts behind them, from `n` on. -/
def placesFrom : Nat → List (Char × List Char) → List Nat
  | _, [] => []
  | n, (_, part) :: rest => n :: placesFrom (n + 1 + part.length) rest

/-- The places of the operators in the text. -/
def places (p : Parts) : List Nat := placesFrom p.first.length p.rest

/-- The parts of a text: all of it, cut at its active operators. -/
def AreOf (p : Parts) (cs : List Char) : Prop :=
  p.text = cs ∧ ∀ i, IsActive cs i ↔ i ∈ p.places

/-- A part in an error, if it is not empty. -/
def piece (part : List Char) : List String :=
  if part = [] then [] else [String.ofList (strip part)]

/-- What an error says of the parts: the operators, and the parts that are not empty, in order. -/
def pieces (p : Parts) : List String :=
  piece p.first ++ p.rest.flatMap fun found ↦ found.1.toString :: piece found.2

/-- One more character of the first part. -/
def push (c : Char) (p : Parts) : Parts := ⟨c :: p.first, p.rest⟩

/-- One more operator in front of the first part. -/
def cutAt (c : Char) (p : Parts) : Parts := ⟨[], (c, p.first) :: p.rest⟩

section parts

variable {c d : Char} {p q : Parts}

@[simp] theorem text_push : (push c p).text = c :: p.text := rfl

@[simp] theorem text_cutAt : (cutAt c p).text = c :: p.text := rfl

theorem placesFrom_succ (n : Nat) (rest : List (Char × List Char)) :
    placesFrom (n + 1) rest = (placesFrom n rest).map (· + 1) := by
  induction rest generalizing n with
  | nil => rfl
  | cons found rest ih =>
    obtain ⟨c, part⟩ := found
    rw [placesFrom, placesFrom, List.map_cons, ← ih, Nat.add_right_comm (n + 1) 1 part.length]

@[simp] theorem places_push : (push c p).places = p.places.map (· + 1) :=
  placesFrom_succ p.first.length p.rest

@[simp] theorem places_cutAt : (cutAt c p).places = 0 :: p.places.map (· + 1) := by
  rw [places, places, cutAt, ← placesFrom_succ, placesFrom, List.length_nil, Nat.zero_add,
    Nat.add_comm 1]

@[simp] theorem push_inj : push c p = push d q ↔ c = d ∧ p = q := by
  obtain ⟨first, rest⟩ := p
  obtain ⟨first', rest'⟩ := q
  simp [push, and_assoc]

@[simp] theorem cutAt_inj : cutAt c p = cutAt d q ↔ c = d ∧ p = q := by
  obtain ⟨first, rest⟩ := p
  obtain ⟨first', rest'⟩ := q
  simp [cutAt, and_assoc]

theorem push_ne_cutAt : push c p ≠ cutAt d q := by
  simp [push, cutAt]

/-- Parts are empty, or begin with a character, or with an operator. -/
theorem eq_push_or_cutAt (p : Parts) :
    p = ⟨[], []⟩ ∨ (∃ c q, p = push c q) ∨ ∃ c q, p = cutAt c q := by
  obtain ⟨first, rest⟩ := p
  rcases first with _ | ⟨c, first⟩
  · rcases rest with _ | ⟨⟨c, part⟩, rest⟩
    · exact .inl rfl
    · exact .inr (.inr ⟨c, ⟨part, rest⟩, rfl⟩)
  · exact .inr (.inl ⟨c, ⟨first, rest⟩, rfl⟩)

end parts

end Parts

/-! ## The parts of a text -/

/-- The parts of a text, which stands behind a backslash if it is `escaped`. -/
def partsBehind : Bool → List Char → Parts
  | _, [] => ⟨[], []⟩
  | escaped, c :: cs =>
    if isOperator c && !escaped then (partsBehind (c = '\\') cs).cutAt c
    else (partsBehind (c = '\\') cs).push c

/-- The parts of a text. -/
def partsOf (cs : List Char) : Parts := partsBehind false cs

section cutting

variable {escaped : Bool} {c : Char} {cs : List Char}

theorem partsBehind_active (hc : isOperator c = true) :
    partsBehind false (c :: cs) = (partsBehind false cs).cutAt c := by
  have hne : decide (c = '\\') = false := decide_eq_false (ne_backslash_of_isOperator hc)
  rw [partsBehind, if_pos (by simpa using hc), hne]

theorem partsBehind_inactive (h : isOperator c = true → escaped = true) :
    partsBehind escaped (c :: cs) = (partsBehind (c = '\\') cs).push c := by
  rw [partsBehind, if_neg]
  simpa using h

/-- The parts of a text that stands behind a backslash if it is `escaped`. -/
def Parts.AreBehind (escaped : Bool) (p : Parts) (cs : List Char) : Prop :=
  p.text = cs ∧ ∀ i, (IsActive cs i ∧ (i = 0 → escaped = false)) ↔ i ∈ p.places

theorem areOf_iff_areBehind {p : Parts} : p.AreOf cs ↔ p.AreBehind false cs := by
  simp [Parts.AreOf, Parts.AreBehind]

section behind

variable {d : Char} {p : Parts}

theorem areBehind_push : (p.push d).AreBehind escaped (c :: cs) ↔
    d = c ∧ (isOperator c = true → escaped = true) ∧ p.AreBehind (c = '\\') cs := by
  rw [Parts.AreBehind, Parts.AreBehind, ← Nat.and_forall_add_one]
  simp [isActive_zero, isActive_succ, and_assoc, and_left_comm]

theorem areBehind_cutAt : (p.cutAt d).AreBehind escaped (c :: cs) ↔
    d = c ∧ (isOperator c = true ∧ escaped = false) ∧ p.AreBehind (c = '\\') cs := by
  rw [Parts.AreBehind, Parts.AreBehind, ← Nat.and_forall_add_one]
  simp [isActive_zero, isActive_succ, and_assoc, and_left_comm]

end behind

/-- **A text has one cutting**: its parts are those of the recursion. -/
theorem areBehind_iff {p : Parts} : p.AreBehind escaped cs ↔ p = partsBehind escaped cs := by
  induction cs generalizing escaped p with
  | nil =>
    rcases p.eq_push_or_cutAt with rfl | ⟨d, q, rfl⟩ | ⟨d, q, rfl⟩
    · simp [Parts.AreBehind, Parts.text, Parts.places, Parts.placesFrom, partsBehind, IsActive]
    · simp [Parts.AreBehind, partsBehind, Parts.push, Parts.text]
    · simp [Parts.AreBehind, partsBehind, Parts.cutAt, Parts.text]
  | cons c cs ih =>
    by_cases h : isOperator c = true → escaped = true
    · rw [partsBehind_inactive h]
      rcases p.eq_push_or_cutAt with rfl | ⟨d, q, rfl⟩ | ⟨d, q, rfl⟩
      · simp [Parts.AreBehind, Parts.text, Parts.push]
      · rw [areBehind_push, Parts.push_inj, ih, and_iff_right h]
      · rw [areBehind_cutAt]
        refine iff_of_false (fun hp ↦ ?_) Parts.push_ne_cutAt.symm
        simpa [hp.2.1.2] using h hp.2.1.1
    · obtain ⟨hc, rfl⟩ : isOperator c = true ∧ escaped = false := by simpa using h
      rw [partsBehind_active hc]
      rcases p.eq_push_or_cutAt with rfl | ⟨d, q, rfl⟩ | ⟨d, q, rfl⟩
      · simp [Parts.AreBehind, Parts.text, Parts.cutAt]
      · rw [areBehind_push]
        exact iff_of_false (fun hp ↦ h hp.2.1) Parts.push_ne_cutAt
      · rw [areBehind_cutAt, Parts.cutAt_inj, ih]
        simp [hc, ne_backslash_of_isOperator hc]

theorem areOf_iff {p : Parts} : p.AreOf cs ↔ p = partsOf cs :=
  areOf_iff_areBehind.trans areBehind_iff

end cutting

/-! ## Tokens -/

/-- The word of an operator. -/
def signWord (c : Char) : Word := ((operatorKind? c).getD .term, [c])

/-- The word of a part, if it is not empty. -/
def termWords (part : List Char) : List Word := if part = [] then [] else [(.term, strip part)]

/-- The words of parts and the operators between them. -/
def Parts.words (p : Parts) : List Word :=
  termWords p.first ++ p.rest.flatMap fun found ↦ signWord found.1 :: termWords found.2

section tokens

variable {start offset : Nat} {escaped : Bool} {c : Char} {gathered cs : List Char}

theorem map_word_flush : (flush start gathered).map Token.word = termWords gathered.reverse := by
  rw [flush, termWords]
  by_cases h : gathered = []
  · simp [h]
  · simp [h, Token.word, unescape_eq_strip]

theorem cut_active {kind : TokenKind} (h : operatorKind? c = some kind) :
    cut start offset false gathered (c :: cs) =
      flush start gathered ++ ⟨kind, c.toString, offset⟩ ::
        cut (offset + c.utf8Size) (offset + c.utf8Size) (c = '\\') [] cs := by
  simp only [cut, h]

theorem cut_inactive (h : isOperator c = true → escaped = true) :
    cut start offset escaped gathered (c :: cs) =
      cut (if gathered.isEmpty then offset else start) (offset + c.utf8Size) (c = '\\')
        (c :: gathered) cs := by
  rw [← isSome_operatorKind?] at h
  cases hkind : operatorKind? c with
  | none => simp only [cut, hkind]
  | some kind =>
    obtain rfl : escaped = true := h (by rw [hkind]; rfl)
    simp only [cut, hkind]

/-- **The tokens of a text are its parts and the operators between them.**  What was gathered of a part
in front of the text belongs to the first of them. -/
theorem map_word_cut :
    (cut start offset escaped gathered cs).map Token.word
      = Parts.words ⟨gathered.reverse ++ (partsBehind escaped cs).first,
          (partsBehind escaped cs).rest⟩ := by
  induction cs generalizing start offset escaped gathered with
  | nil => simp [cut, map_word_flush, partsBehind, Parts.words]
  | cons c cs ih =>
    by_cases h : isOperator c = true → escaped = true
    · rw [cut_inactive h, ih, partsBehind_inactive h, List.reverse_cons, List.append_assoc]
      rfl
    · obtain ⟨hc, rfl⟩ : isOperator c = true ∧ escaped = false := by simpa using h
      obtain ⟨kind, hkind⟩ := Option.isSome_iff_exists.1 ((isSome_operatorKind? c).trans hc)
      have hne : decide (c = '\\') = false := decide_eq_false (ne_backslash_of_isOperator hc)
      rw [cut_active hkind, partsBehind_active hc]
      simp only [List.map_append, List.map_cons, map_word_flush, hne, ih]
      simp [Parts.words, Parts.cutAt, signWord, hkind, Token.word]

theorem map_word_tokenize (text : String) :
    (tokenize text).map Token.word = (partsOf text.toList).words :=
  map_word_cut

end tokens

/-! ## Specifiers -/

/-- The specifier that words spell. -/
def ofWords? : List Word → Option Specifier
  | [field] => if field.1 = .term then some ⟨String.ofList field.2, .present, none⟩ else none
  | [field, sign, value] =>
    if field.1 = .term ∧ value.1 = .term then
      (operator? sign.1).map fun op ↦ ⟨String.ofList field.2, op, some (String.ofList value.2)⟩
    else none
  | _ => none

/-- The specifier that parts spell. -/
def Parts.specifier? (p : Parts) : Option Specifier :=
  match p.rest with
  | [] => if p.first = [] then none else some ⟨String.ofList (strip p.first), .present, none⟩
  | [(c, value)] =>
    if p.first = [] ∨ value = [] then none
    else (operatorOf? c).map fun op ↦
      ⟨String.ofList (strip p.first), op, some (String.ofList (strip value))⟩
  | _ => none

section parse

variable {p : Parts} {c : Char}

theorem parse_eq_ofWords (text : String) :
    parse text = match ofWords? ((tokenize text).map Token.word) with
      | some s => .ok s
      | none => .error (.invalidSpecifier text ((tokenize text).map Token.value)) := by
  rw [parse]
  generalize tokenize text = tokens
  rcases tokens with _ | ⟨t, _ | ⟨u, _ | ⟨v, _ | ⟨w, tokens⟩⟩⟩⟩
  · rfl
  · by_cases ht : t.kind = .term
    · simp [ofWords?, Token.word, ht]
    · simp [ofWords?, Token.word, ht]
  · rfl
  · by_cases h : t.kind = .term ∧ v.kind = .term
    · cases hop : operator? u.kind with
      | none => simp [ofWords?, Token.word, h, hop]
      | some op => simp [ofWords?, Token.word, h, hop]
    · cases hop : operator? u.kind with
      | none => simp [ofWords?, Token.word, h, hop]
      | some op => simp [ofWords?, Token.word, h, hop]
  · rfl

theorem isOperator_of_mem_rest {escaped : Bool} {cs : List Char} {found : Char × List Char}
    (h : found ∈ (partsBehind escaped cs).rest) : isOperator found.1 = true := by
  induction cs generalizing escaped with
  | nil => cases h
  | cons d cs ih =>
    by_cases hd : isOperator d = true → escaped = true
    · rw [partsBehind_inactive hd] at h
      exact ih h
    · obtain ⟨hop, rfl⟩ : isOperator d = true ∧ escaped = false := by simpa using hd
      rw [partsBehind_active hop] at h
      rcases List.mem_cons.1 h with rfl | h
      · exact hop
      · exact ih h

theorem signWord_ne_term (h : isOperator c = true) : (signWord c).1 ≠ .term := by
  rcases isOperator_iff.1 h with rfl | rfl | rfl | rfl <;> decide

theorem operator?_signWord (h : isOperator c = true) : operator? (signWord c).1 = operatorOf? c := by
  rcases isOperator_iff.1 h with rfl | rfl | rfl | rfl <;> rfl

/-- Words that begin with an operator are no specifier. -/
theorem ofWords?_signWord (h : isOperator c = true) (ws : List Word) :
    ofWords? (signWord c :: ws) = none := by
  rcases ws with _ | ⟨v, _ | ⟨w, _ | ⟨x, ws⟩⟩⟩ <;> simp [ofWords?, signWord_ne_term h]

/-- Nor are words with an operator in the place of the value. -/
theorem ofWords?_signWord_third (h : isOperator c = true) (u v : Word) (ws : List Word) :
    ofWords? (u :: v :: signWord c :: ws) = none := by
  rcases ws with _ | ⟨x, ws⟩ <;> simp [ofWords?, signWord_ne_term h]

theorem ofWords?_words (h : ∀ found ∈ p.rest, isOperator found.1 = true) :
    ofWords? p.words = p.specifier? := by
  obtain ⟨first, rest⟩ := p
  rcases rest with _ | ⟨⟨c, value⟩, _ | ⟨⟨d, more⟩, rest⟩⟩
  · by_cases hf : first = []
    · simp [Parts.words, Parts.specifier?, termWords, ofWords?, hf]
    · simp [Parts.words, Parts.specifier?, termWords, ofWords?, hf]
  · have hc : isOperator c = true := h _ List.mem_cons_self
    by_cases hf : first = []
    · by_cases hv : value = []
      · simp [Parts.words, Parts.specifier?, termWords, ofWords?, hf, hv, signWord_ne_term hc]
      · simp [Parts.words, Parts.specifier?, termWords, ofWords?, hf, hv]
    · by_cases hv : value = []
      · simp [Parts.words, Parts.specifier?, termWords, ofWords?, hf, hv]
      · simp [Parts.words, Parts.specifier?, termWords, ofWords?, hf, hv, operator?_signWord hc]
  · have hc : isOperator c = true := h _ List.mem_cons_self
    have hd : isOperator d = true := h _ (List.mem_cons_of_mem _ List.mem_cons_self)
    by_cases hf : first = []
    · simp [Parts.words, Parts.specifier?, termWords, hf, ofWords?_signWord hc]
    · by_cases hv : value = []
      · simp [Parts.words, Parts.specifier?, termWords, hf, hv, ofWords?_signWord_third hd]
      · simp [Parts.words, Parts.specifier?, termWords, hf, hv, ofWords?]

theorem Parts.pieces_eq (p : Parts) : p.pieces = p.words.map fun w ↦ String.ofList w.2 := by
  have hpiece : ∀ part : List Char, piece part = (termWords part).map fun w ↦ String.ofList w.2 := by
    intro part
    rw [piece, termWords]
    split <;> rfl
  rw [pieces, words, List.map_append, List.map_flatMap, hpiece]
  simp only [List.map_cons, ← hpiece, signWord]
  rfl

/-- **What a text is read as**, from its parts. -/
theorem parse_eq (text : String) :
    parse text = match (partsOf text.toList).specifier? with
      | some s => .ok s
      | none => .error (.invalidSpecifier text (partsOf text.toList).pieces) := by
  have hvalues : (tokenize text).map Token.value = (partsOf text.toList).pieces := by
    rw [Parts.pieces_eq, ← map_word_tokenize, List.map_map]
    simp [Function.comp_def, Token.word]
  have hwords : ofWords? (partsOf text.toList).words = (partsOf text.toList).specifier? :=
    ofWords?_words fun _ h ↦ isOperator_of_mem_rest h
  rw [parse_eq_ofWords, map_word_tokenize, hvalues, hwords]

theorem parse_eq_ok_iff {text : String} {s : Specifier} :
    parse text = .ok s ↔ (partsOf text.toList).specifier? = some s := by
  rw [parse_eq]
  cases (partsOf text.toList).specifier? <;> simp

theorem Parts.specifier?_eq_some_iff {s : Specifier} : p.specifier? = some s ↔
    (∃ field, field ≠ [] ∧ p = ⟨field, []⟩ ∧ s = ⟨String.ofList (strip field), .present, none⟩) ∨
    ∃ field c value op, field ≠ [] ∧ value ≠ [] ∧ p = ⟨field, [(c, value)]⟩ ∧
      operatorOf? c = some op ∧
      s = ⟨String.ofList (strip field), op, some (String.ofList (strip value))⟩ := by
  constructor
  · intro h
    obtain ⟨first, rest⟩ := p
    rcases rest with _ | ⟨⟨c, value⟩, _ | ⟨found, rest⟩⟩
    · obtain ⟨hf, rfl⟩ : first ≠ [] ∧ _ = s := by simpa [specifier?] using h
      exact .inl ⟨first, hf, rfl, rfl⟩
    · obtain ⟨⟨hf, hv⟩, op, hop, rfl⟩ : (first ≠ [] ∧ value ≠ []) ∧
          ∃ op, operatorOf? c = some op ∧ _ = s := by simpa [specifier?] using h
      exact .inr ⟨first, c, value, op, hf, hv, rfl, hop, rfl⟩
    · cases h
  · rintro (⟨field, hf, rfl, rfl⟩ | ⟨field, c, value, op, hf, hv, rfl, hop, rfl⟩)
    · simp [specifier?, hf]
    · simp [specifier?, hf, hv, hop]

end parse

/-! ## Active operators -/

section active

variable {c : Char} {cs field value : List Char}

theorem areOf_single : Parts.AreOf ⟨field, []⟩ cs ↔ field = cs ∧ ∀ i, ¬IsActive cs i := by
  simp [Parts.AreOf, Parts.text, Parts.places, Parts.placesFrom]

theorem areOf_pair : Parts.AreOf ⟨field, [(c, value)]⟩ cs ↔
    cs = field ++ c :: value ∧ ∀ i, IsActive cs i ↔ i = field.length := by
  simp [Parts.AreOf, Parts.text, Parts.places, Parts.placesFrom, eq_comm]

/-- **Which texts are specifiers.**  A text is read as a field if it is not empty and no operator in it
is active, and as a field, an operator and a value if just one operator is active and a part of the text
stands on either side of it; of each part, the backslashes in front of operators are taken away.  There is
one way to cut a text at its active operators, and any other text is refused with what that gives: the
operators, and the parts between them that are not empty. -/
theorem parse_active (text : String) :
    (∀ s, parse text = .ok s ↔
      (text.toList ≠ [] ∧ (∀ i, ¬IsActive text.toList i) ∧
        s = ⟨String.ofList (strip text.toList), .present, none⟩) ∨
      ∃ field c value op, field ≠ [] ∧ value ≠ [] ∧ text.toList = field ++ c :: value ∧
        (∀ i, IsActive text.toList i ↔ i = field.length) ∧ sign op = c.toString ∧
        s = ⟨String.ofList (strip field), op, some (String.ofList (strip value))⟩) ∧
    ∃ p : Parts, (∀ q : Parts, q.AreOf text.toList ↔ q = p) ∧
      ((∃ s, parse text = .ok s) ∨ parse text = .error (.invalidSpecifier text p.pieces)) := by
  refine ⟨fun s ↦ ?_, partsOf text.toList, fun q ↦ areOf_iff, ?_⟩
  · rw [parse_eq_ok_iff, Parts.specifier?_eq_some_iff]
    simp only [@eq_comm _ (partsOf _), ← areOf_iff, areOf_single, areOf_pair,
      operatorOf?_eq_some_iff, and_assoc]
    refine or_congr_left ⟨?_, fun ⟨hne, hnone, hs⟩ ↦ ⟨_, hne, rfl, hnone, hs⟩⟩
    rintro ⟨field, hne, rfl, hnone, hs⟩
    exact ⟨hne, hnone, hs⟩
  · rw [parse_eq]
    cases (partsOf text.toList).specifier? with
    | some s => exact .inl ⟨s, rfl⟩
    | none => exact .inr rfl

example : parse "a\\=b==c" = .error (.invalidSpecifier "a\\=b==c" ["a=b", "=", "=", "c"]) := rfl

end active

end LogSearch.Specifier
