import LogSearch.Proofs.Kql.Tree
import LogSearch.Proofs.Kql.Words

/-!
# The words of a printed tree

The text of a tree is cut into words node by node: `Node.words` says which ones, and `words_write`
that they are the words of the text, for every tree and whatever stands behind it, as long as a
literal breaks off there.

One node does not keep its own words.  A `<` or `>` in front of a value that starts with `=` and has
no quotes is cut as `<=` or `>=` and the rest of the value (`Sticks`).

## What is here

* `literalWord`, `groupWords` — the words of a literal and of a group;
* `Sticks`, `comparandWords` — the words of a comparison;
* `Values.words`, `Node.words` — the words of a tree;
* `words_write` — they are those of its text.
-/

set_option autoImplicit false
namespace LogSearch.Kql

/-! ## Words in front of words -/

/-- The text is cut into these words, whatever stands behind it. -/
def Cuts (cs : List Char) (ws : List Word) : Prop :=
  ∀ rest, Breaks rest → words (cs ++ rest) = (words rest).map (ws ++ ·)

theorem map_append_map (as bs : List Word) (x : Except LexFault (List Word)) :
    (x.map (bs ++ ·)).map (as ++ ·) = x.map ((as ++ bs) ++ ·) := by
  rw [map_map]
  exact congrArg x.map (funext fun ws ↦ (List.append_assoc as bs ws).symm)

/-- Two texts behind each other, if a literal breaks off between them. -/
theorem Cuts.append {as bs : List Char} {us vs : List Word} (ha : Cuts as us) (hb : Cuts bs vs)
    (hbreak : ∀ rest, Breaks rest → Breaks (bs ++ rest)) : Cuts (as ++ bs) (us ++ vs) := by
  intro rest hr
  rw [List.append_assoc, ha _ (hbreak rest hr), hb rest hr, map_append_map]

/-- A sign or an operator in front of a text. -/
theorem Cuts.cons (as : List Char) {bs : List Char} {w : Word} {vs : List Word} (hb : Cuts bs vs)
    (ha : ∀ rest, words (as ++ rest) = (words rest).map (w :: ·)) :
    Cuts (as ++ bs) (w :: vs) := by
  intro rest hr
  rw [List.append_assoc, ha, hb rest hr]
  exact map_append_map [w] vs _

/-! ## Literals and groups -/

theorem cuts_nil : Cuts [] [] := by
  intro rest _
  change words rest = (words rest).map ([] ++ ·)
  cases words rest <;> rfl

theorem isPlain_iff {cs : List Char} : isPlain cs = true ↔
    cs ≠ [] ∧ isKeyword cs = false ∧ ∀ c ∈ cs, IsBare c ∧ Text.isControl c = false := by
  simp only [isPlain, IsBare, Bool.and_eq_true, Bool.not_eq_true', List.all_eq_true,
    List.isEmpty_eq_false_iff]
  grind

/-- The words of a text of characters that stand for themselves. -/
def bareWords (cs : List Char) : List Word :=
  if cs = [] then [] else [(if isKeyword cs then keywordKind cs else .term, cs)]

theorem cuts_bare {cs : List Char} (hcs : ∀ c ∈ cs, IsBare c) : Cuts cs (bareWords cs) := by
  rw [bareWords]
  split
  · next h => exact h ▸ cuts_nil
  · next hne =>
    intro rest hr
    cases hk : isKeyword cs with
    | true => exact words_keyword hk hr.endsWord
    | false => exact words_bare hne hcs hk hr

/-- The word of a literal. -/
def literalWord (text : String) : Word :=
  (if isPlain text.toList then .term else .quoted, text.toList)

theorem cuts_literal (text : String) : Cuts (writeLiteral text) [literalWord text] := by
  rw [writeLiteral, literalWord]
  split
  · next h =>
    obtain ⟨hne, hk, hcs⟩ := isPlain_iff.1 h
    exact fun rest hr ↦ words_bare hne (fun c hc ↦ (hcs c hc).1) hk hr
  · exact fun rest _ ↦ words_literalChars _ rest

/-- The word of an operator. -/
def operatorWord (operator : List Char) : Word := (keywordKind operator, operator)

theorem breaks_operator {operator : List Char} (h : isKeyword operator = true)
    (rest : List Char) : Breaks (' ' :: (operator ++ ' ' :: rest)) := by
  have hk : keywordAt? (operator ++ ' ' :: rest) = _ := keywordAt?_keyword h rfl
  have hcs := bare_of_isKeyword h
  refine .inr ⟨rfl, ?_⟩
  cases operator with
  | nil => cases h
  | cons c cs =>
    have hc := (hcs c List.mem_cons_self).1
    rw [List.cons_append] at hk ⊢
    simp [Text.dropBlank, hc, endsTerm, hk]

/-- The words of texts with an operator between them. -/
def joinedWords (operator : List Char) : List (List Word) → List Word
  | [] => []
  | [ws] => ws
  | ws :: wss => ws ++ operatorWord operator :: joinedWords operator wss

/-- The words of a group. -/
def groupWords (operator : List Char) (wss : List (List Word)) : List Word :=
  (.leftParen, ['(']) :: (joinedWords operator wss ++ [(.rightParen, [')'])])

theorem joined_cons (operator cs ds : List Char) (css : List (List Char)) :
    joined operator (cs :: ds :: css)
      = cs ++ ' ' :: (operator ++ ' ' :: joined operator (ds :: css)) := by
  simp [joined]

theorem joinedWords_cons (operator : List Char) (us vs : List Word) (wss : List (List Word)) :
    joinedWords operator (us :: vs :: wss)
      = us ++ operatorWord operator :: joinedWords operator (vs :: wss) := by
  simp [joinedWords]

theorem cuts_rightParen : Cuts [')'] [(.rightParen, [')'])] := by
  intro rest _
  exact words_rightParen rest

section groups

variable {α : Type} {write : α → List Char} {cut : α → List Word} {operator : List Char}

theorem cuts_joined (hop : isKeyword operator = true) {as : List α}
    (h : ∀ a ∈ as, Cuts (write a) (cut a)) :
    Cuts (joined operator (as.map write)) (joinedWords operator (as.map cut)) := by
  induction as with
  | nil => exact cuts_nil
  | cons a as ih =>
    have ha := h a List.mem_cons_self
    have has := ih fun b hb ↦ h b (List.mem_cons_of_mem _ hb)
    cases as with
    | nil => exact ha
    | cons b bs =>
      intro rest hr
      have hw : (a :: b :: bs).map write = write a :: write b :: bs.map write := rfl
      have hc : (a :: b :: bs).map cut = cut a :: cut b :: bs.map cut := rfl
      rw [hw, hc, joined_cons, joinedWords_cons, List.append_assoc, List.cons_append,
        List.append_assoc, List.cons_append, ha _ (breaks_operator hop _), words_blank rfl,
        words_operator hop, ← List.map_cons, has rest hr]
      exact (congrArg _ (map_append_map [operatorWord operator] _ _)).trans
        (map_append_map (cut a) _ _)

/-- **A group is cut operand by operand.** -/
theorem cuts_group (hop : isKeyword operator = true) {as : List α}
    (h : ∀ a ∈ as, Cuts (write a) (cut a)) :
    Cuts (group operator (as.map write)) (groupWords operator (as.map cut)) := by
  have hin := (cuts_joined hop h).append cuts_rightParen fun rest _ ↦ .inl rfl
  exact hin.cons ['('] words_leftParen

end groups

/-! ## Comparisons -/

/-- The comparison that an `=` behind the sign makes of it. -/
def orEqual : Comparison → Comparison
  | .lt | .lte => .lte
  | .gt | .gte => .gte

/-- Whether the sign of a comparison takes the first character of the value for its own. -/
def Sticks (op : Comparison) (value : String) : Prop :=
  (op = .lt ∨ op = .gt) ∧ isPlain value.toList = true ∧ value.toList.head? = some '='

instance (op : Comparison) (value : String) : Decidable (Sticks op value) :=
  inferInstanceAs (Decidable (_ ∧ _ ∧ _))

/-- The words of a comparison behind the name of its field. -/
def comparandWords (op : Comparison) (value : String) : List Word :=
  if Sticks op value then signWord (orEqual op) :: bareWords value.toList.tail
  else [signWord op, literalWord value]

/-- The sign and the value as they are printed, if the sign takes a character of the value. -/
theorem sign_of_sticks {op : Comparison} {value : String} (h : Sticks op value) :
    op.sign ++ writeLiteral value = (orEqual op).sign ++ value.toList.tail := by
  obtain ⟨hop, hplain, hhead⟩ := h
  obtain ⟨cs, hcs⟩ := List.head?_eq_some_iff.1 hhead
  rw [writeLiteral, if_pos hplain, hcs]
  rcases hop with rfl | rfl <;> rfl

theorem head?_writeLiteral {op : Comparison} {value : String} (h : ¬ Sticks op value)
    (hop : op = .lt ∨ op = .gt) (rest : List Char) :
    (writeLiteral value ++ rest).head? ≠ some '=' := by
  rw [writeLiteral]
  split
  · next hplain =>
    obtain ⟨c, cs, hcs⟩ := List.exists_cons_of_ne_nil (isPlain_iff.1 hplain).1
    intro hhead
    refine h ⟨hop, hplain, ?_⟩
    rw [hcs] at hhead ⊢
    exact hhead
  · simp [Json.literalChars]

theorem cuts_comparand (op : Comparison) (value : String) :
    Cuts (op.sign ++ writeLiteral value) (comparandWords op value) := by
  rw [comparandWords]
  split
  · next h =>
    have hbare : ∀ c ∈ value.toList.tail, IsBare c := fun c hc ↦
      ((isPlain_iff.1 h.2.1).2.2 c (List.mem_of_mem_tail hc)).1
    rw [sign_of_sticks h]
    refine (cuts_bare hbare).cons (orEqual op).sign fun rest ↦ words_sign fun hop ↦ ?_
    rcases h.1 with rfl | rfl <;> rcases hop with hop | hop <;> cases hop
  · next h =>
    intro rest hr
    rw [List.append_assoc, words_sign fun hop ↦ head?_writeLiteral h hop rest, cuts_literal _ _ hr]
    exact map_append_map [_] [_] _

theorem breaks_sign (op : Comparison) (rest : List Char) : Breaks (op.sign ++ rest) := by
  cases op <;> exact .inl rfl

/-! ## Trees -/

mutual

/-- The words of a value tree. -/
def Values.words : Values → List Word
  | .literal text => [literalWord text]
  | .wildcard => [(.wildcard, ['*'])]
  | .or values => groupWords ['o', 'r'] (Values.wordsList values)
  | .and values => groupWords ['a', 'n', 'd'] (Values.wordsList values)
  | .not values =>
    (.leftParen, ['(']) :: operatorWord ['n', 'o', 't'] :: (values.words ++ [(.rightParen, [')'])])

/-- The words of each of several value trees. -/
def Values.wordsList : List Values → List (List Word)
  | [] => []
  | v :: vs => v.words :: Values.wordsList vs

end

mutual

/-- The words of a tree. -/
def Node.words : Node → List Word
  | .and children => groupWords ['a', 'n', 'd'] (Node.wordsList children)
  | .or children => groupWords ['o', 'r'] (Node.wordsList children)
  | .not operand => operatorWord ['n', 'o', 't'] :: operand.words
  | .field name values => literalWord name :: (.colon, [':']) :: values.words
  | .compare name op value => literalWord name :: comparandWords op value
  | .present name => [literalWord name]
  | .nested name query =>
    literalWord name :: (.colon, [':']) :: (.leftBrace, ['{']) ::
      (query.words ++ [(.rightBrace, ['}'])])

/-- The words of each of several trees. -/
def Node.wordsList : List Node → List (List Word)
  | [] => []
  | n :: ns => n.words :: Node.wordsList ns

end

theorem Values.writeList_eq (vs : List Values) : Values.writeList vs = vs.map Values.write := by
  induction vs with
  | nil => rfl
  | cons v vs ih => rw [writeList, ih, List.map_cons]

theorem Values.wordsList_eq (vs : List Values) : Values.wordsList vs = vs.map Values.words := by
  induction vs with
  | nil => rfl
  | cons v vs ih => rw [wordsList, ih, List.map_cons]

theorem Node.writeList_eq (ns : List Node) : Node.writeList ns = ns.map Node.write := by
  induction ns with
  | nil => rfl
  | cons n ns ih => rw [writeList, ih, List.map_cons]

theorem Node.wordsList_eq (ns : List Node) : Node.wordsList ns = ns.map Node.words := by
  induction ns with
  | nil => rfl
  | cons n ns ih => rw [wordsList, ih, List.map_cons]

theorem Values.cuts_write (v : Values) : Cuts v.write v.words := by
  induction v using Values.inductionOn with
  | literal text => exact cuts_literal text
  | wildcard => exact fun rest hr ↦ words_star hr
  | or vs ih =>
    rw [write, words, writeList_eq, wordsList_eq]
    exact cuts_group rfl ih
  | and vs ih =>
    rw [write, words, writeList_eq, wordsList_eq]
    exact cuts_group rfl ih
  | not v ih =>
    have hin := ih.append cuts_rightParen fun rest _ ↦ .inl rfl
    exact (hin.cons ['n', 'o', 't', ' '] words_not).cons ['('] words_leftParen

/-- **The text of a tree is cut into its words**, whatever stands behind it. -/
theorem Node.cuts_write (n : Node) : Cuts n.write n.words := by
  induction n using Node.inductionOn with
  | and ns ih =>
    rw [write, words, writeList_eq, wordsList_eq]
    exact cuts_group rfl ih
  | or ns ih =>
    rw [write, words, writeList_eq, wordsList_eq]
    exact cuts_group rfl ih
  | not n ih => exact ih.cons ['n', 'o', 't', ' '] words_not
  | field name values =>
    have hv := (Values.cuts_write values).cons [':'] words_colon
    exact (cuts_literal name).append hv fun rest _ ↦ .inl rfl
  | compare name op value =>
    rw [write, List.append_assoc]
    refine (cuts_literal name).append (cuts_comparand op value) fun rest _ ↦ ?_
    rw [List.append_assoc]
    exact breaks_sign op _
  | present name => exact cuts_literal name
  | nested name n ih =>
    have hbrace : Cuts [' ', '}'] [(.rightBrace, ['}'])] := fun rest _ ↦
      (words_blank rfl _).trans (words_rightBrace rest)
    have hin := ih.append hbrace fun rest _ ↦ .inr ⟨rfl, rfl⟩
    have hopen := hin.cons ['{', ' '] fun rest ↦
      (words_leftBrace (' ' :: rest)).trans (by rw [words_blank rfl])
    have hcolon := hopen.cons [':'] words_colon
    rw [write, List.append_assoc, List.append_assoc]
    exact (cuts_literal name).append hcolon fun rest _ ↦ .inl rfl

theorem words_write (n : Node) : words n.write = .ok n.words := by
  have h := n.cuts_write [] trivial
  rwa [List.append_nil, words_nil, Except.map, List.append_nil] at h

end LogSearch.Kql
