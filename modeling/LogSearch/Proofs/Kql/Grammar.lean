import LogSearch.Kql.Parser

/-!
# The grammar of queries

What a query is, apart from how it is read.  A group is an `or` of `and`s of operands, each of which
may have a `not` in front:

* `Or ::= And (OR And)*`, `And ::= Not (AND Not)*`, `Not ::= [NOT] Operand`.

The same three rules hold between conditions and between the values of a field, so they are stated
once, for any relation `Operand` between tokens and what they spell.  A chain of one operand is that
operand; a longer one is a single node with all of them.

Only operands open groups, with parentheses or braces, and a group holds operands again.  The two
are given level by level: `Vals limit` and `Sub limit` are the operands in which at most `limit`
groups, parentheses and braces together, are open at any point.

## What is here

* `Separated`, `Negatable`, `Conjunction`, `Disjunction` — the three rules;
* `Value`, `Condition` — the operands, given what may stand inside a group;
* `ValueGroup`, `Vals` and `Group`, `Sub` — groups and operands of a level;
* `IsQuery` — the whole queries of a level;
* `Disjunction.inductionOn`, `Vals.inductionOn`, `IsQuery.inductionOn` — induction over a derivation, rule by rule,
  with no mention of levels.
-/

set_option autoImplicit false
namespace LogSearch.Kql

/-! ## Chains -/

section chains

variable {α : Type}

/-- One or more operands, with a token of the given kind between any two of them. -/
inductive Separated (separator : TokenKind) (Operand : List Token → α → Prop) :
    List Token → List α → Prop
  | one {ts : List Token} {a : α} (h : Operand ts a) : Separated separator Operand ts [a]
  | cons {ts us : List Token} {t : Token} {a : α} {as : List α} (h : Operand ts a)
      (ht : t.kind = separator) (hs : Separated separator Operand us as) :
      Separated separator Operand (ts ++ t :: us) (a :: as)

/-- An operand, possibly behind a `not`. -/
inductive Negatable (not : α → α) (Operand : List Token → α → Prop) : List Token → α → Prop
  | plain {ts : List Token} {a : α} (h : Operand ts a) : Negatable not Operand ts a
  | negated {ts : List Token} {t : Token} {a : α} (ht : t.kind = .not) (h : Operand ts a) :
      Negatable not Operand (t :: ts) (not a)

/-- A type of trees with the nodes that join operands. -/
class Joined (α : Type) where
  not : α → α
  and : List α → α
  or : List α → α

instance : Joined Node := ⟨.not, .and, .or⟩

instance : Joined Values := ⟨.not, .and, .or⟩

variable [Joined α]

/-- Operands joined by `and`. -/
def Conjunction (Operand : List Token → α → Prop) (ts : List Token) (a : α) : Prop :=
  ∃ operands, Separated .and (Negatable Joined.not Operand) ts operands ∧
    a = chain Joined.and operands

/-- Conjunctions joined by `or`. -/
def Disjunction (Operand : List Token → α → Prop) (ts : List Token) (a : α) : Prop :=
  ∃ operands, Separated .or (Conjunction Operand) ts operands ∧ a = chain Joined.or operands

end chains

/-! ## Operands -/

/-- A literal, with or without quotes. -/
def Token.IsText (t : Token) : Prop := t.kind = .term ∨ t.kind = .quoted

/-- The values that may stand behind the colon of a field, or in a list of values; `Group` is what
may stand between parentheses. -/
inductive Value (Group : List Token → Values → Prop) : List Token → Values → Prop
  | group {l r : Token} {ts : List Token} {v : Values} (hl : l.kind = .leftParen)
      (h : Group ts v) (hr : r.kind = .rightParen) : Value Group (l :: (ts ++ [r])) v
  | literal {t : Token} (ht : t.IsText) : Value Group [t] (.literal t.value)
  | wildcard {t : Token} (ht : t.kind = .wildcard) : Value Group [t] .wildcard

/-- The conditions that may be operands; `Group` is what may stand between parentheses or braces,
and `Vals` what may stand behind a colon. -/
inductive Condition (Group : List Token → Node → Prop) (Vals : List Token → Values → Prop) :
    List Token → Node → Prop
  | group {l r : Token} {ts : List Token} {n : Node} (hl : l.kind = .leftParen)
      (h : Group ts n) (hr : r.kind = .rightParen) : Condition Group Vals (l :: (ts ++ [r])) n
  | nested {f c l r : Token} {ts : List Token} {n : Node} (hf : f.IsText) (hc : c.kind = .colon)
      (hl : l.kind = .leftBrace) (h : Group ts n) (hr : r.kind = .rightBrace) :
      Condition Group Vals (f :: c :: l :: (ts ++ [r])) (.nested f.value n)
  | field {f c : Token} {ts : List Token} {v : Values} (hf : f.IsText) (hc : c.kind = .colon)
      (h : Vals ts v) : Condition Group Vals (f :: c :: ts) (.field f.value v)
  | compare {f c w : Token} {op : Comparison} (hf : f.IsText) (hc : c.kind = .comparison op)
      (hw : w.IsText) : Condition Group Vals [f, c, w] (.compare f.value op w.value)
  | present {f : Token} (hf : f.IsText) : Condition Group Vals [f] (.present f.value)

/-! ## Levels -/

/-- What may stand between the parentheses of a group of values, if groups may be `limit` deep from
this one on. -/
def ValueGroup : Nat → List Token → Values → Prop
  | 0 => fun _ _ ↦ False
  | limit + 1 => Disjunction (Value (ValueGroup limit))

/-- The values in which at most `limit` groups are open at any point. -/
def Vals (limit : Nat) : List Token → Values → Prop := Value (ValueGroup limit)

/-- What may stand between the delimiters of a group of conditions, if groups may be `limit` deep
from this one on. -/
def Group : Nat → List Token → Node → Prop
  | 0 => fun _ _ ↦ False
  | limit + 1 => Disjunction (Condition (Group limit) (Vals limit))

/-- The operands of a query in which at most `limit` groups are open at any point. -/
def Sub (limit : Nat) : List Token → Node → Prop := Condition (Group limit) (Vals limit)

/-- The queries in which at most `limit` groups are open at any point. -/
def IsQuery (limit : Nat) : List Token → Node → Prop := Disjunction (Sub limit)

/-! ## Induction -/

section induction

variable {α : Type}

theorem Separated.mono {separator : TokenKind} {P Q : List Token → α → Prop} {ts : List Token}
    {as : List α} (h : Separated separator P ts as) (hPQ : ∀ ts a, P ts a → Q ts a) :
    Separated separator Q ts as := by
  induction h with
  | one h => exact .one (hPQ _ _ h)
  | cons h ht _ ih => exact .cons (hPQ _ _ h) ht ih

/-- What separated operands make, one of which stands for itself. -/
theorem Separated.chain {separator : TokenKind} {P : List Token → α → Prop} {wrap : List α → α}
    {ts : List Token} {as : List α} (h : Separated separator P ts as)
    (hwrap : 2 ≤ as.length → P ts (wrap as)) : P ts (Kql.chain wrap as) := by
  cases h with
  | one h => exact h
  | cons h ht hs =>
    cases hs with
    | one hs => exact hwrap (by simp)
    | cons hs ht' hs' => exact hwrap (by simp)

variable [Joined α]

/-- **Induction over a group**: what holds of the operands and is passed on by `not`, `and` and `or`
holds of the group. -/
theorem Disjunction.inductionOn {Operand P : List Token → α → Prop}
    (operand : ∀ ts a, Operand ts a → P ts a)
    (not : ∀ t ts a, t.kind = .not → P ts a → P (t :: ts) (Joined.not a))
    (and : ∀ ts as, 2 ≤ as.length → Separated .and P ts as → P ts (Joined.and as))
    (or : ∀ ts as, 2 ≤ as.length → Separated .or P ts as → P ts (Joined.or as))
    {ts : List Token} {a : α} (h : Disjunction Operand ts a) : P ts a := by
  have negatable : ∀ ts a, Negatable Joined.not Operand ts a → P ts a := by
    intro ts a h
    cases h with
    | plain h => exact operand _ _ h
    | negated ht h => exact not _ _ _ ht (operand _ _ h)
  have conjunction : ∀ ts a, Conjunction Operand ts a → P ts a := by
    rintro ts a ⟨operands, hs, rfl⟩
    have hs' := hs.mono negatable
    exact hs'.chain fun hlen ↦ and _ _ hlen hs'
  obtain ⟨operands, hs, rfl⟩ := h
  have hs' := hs.mono conjunction
  exact hs'.chain fun hlen ↦ or _ _ hlen hs'

end induction

/-- Induction over the values of a field. -/
theorem Vals.inductionOn {P : List Token → Values → Prop}
    (group : ∀ l r ts v, l.kind = .leftParen → r.kind = .rightParen → P ts v →
      P (l :: (ts ++ [r])) v)
    (literal : ∀ t : Token, t.IsText → P [t] (.literal t.value))
    (wildcard : ∀ t : Token, t.kind = .wildcard → P [t] .wildcard)
    (not : ∀ t ts v, t.kind = .not → P ts v → P (t :: ts) (.not v))
    (and : ∀ ts vs, 2 ≤ vs.length → Separated .and P ts vs → P ts (.and vs))
    (or : ∀ ts vs, 2 ≤ vs.length → Separated .or P ts vs → P ts (.or vs))
    {limit : Nat} {ts : List Token} {v : Values} (h : Vals limit ts v) : P ts v := by
  induction limit generalizing ts v with
  | zero =>
    cases h with
    | group hl h hr => exact h.elim
    | literal ht => exact literal _ ht
    | wildcard ht => exact wildcard _ ht
  | succ limit ih =>
    cases h with
    | group hl h hr =>
      exact group _ _ _ _ hl hr (Disjunction.inductionOn (fun _ _ h ↦ ih h) not and or h)
    | literal ht => exact literal _ ht
    | wildcard ht => exact wildcard _ ht

/-- **Induction over a query**, with what is known of the values of its fields. -/
theorem IsQuery.inductionOn {Q : List Token → Values → Prop} {P : List Token → Node → Prop}
    (vals : ∀ limit ts v, Vals limit ts v → Q ts v)
    (group : ∀ l r ts n, l.kind = .leftParen → r.kind = .rightParen → P ts n →
      P (l :: (ts ++ [r])) n)
    (nested : ∀ f c l r ts n, f.IsText → c.kind = .colon → l.kind = .leftBrace →
      r.kind = .rightBrace → P ts n → P (f :: c :: l :: (ts ++ [r])) (.nested f.value n))
    (field : ∀ f c ts v, f.IsText → c.kind = .colon → Q ts v →
      P (f :: c :: ts) (.field f.value v))
    (compare : ∀ f c w op, f.IsText → c.kind = .comparison op → w.IsText →
      P [f, c, w] (.compare f.value op w.value))
    (present : ∀ f : Token, f.IsText → P [f] (.present f.value))
    (not : ∀ t ts n, t.kind = .not → P ts n → P (t :: ts) (.not n))
    (and : ∀ ts ns, 2 ≤ ns.length → Separated .and P ts ns → P ts (.and ns))
    (or : ∀ ts ns, 2 ≤ ns.length → Separated .or P ts ns → P ts (.or ns))
    {limit : Nat} {ts : List Token} {tree : Node} (h : IsQuery limit ts tree) : P ts tree := by
  have condition : ∀ limit {Group : List Token → Node → Prop} ts n,
      (∀ ts n, Group ts n → P ts n) → Condition Group (Vals limit) ts n → P ts n := by
    intro limit Group ts n hgroup h
    cases h with
    | group hl h hr => exact group _ _ _ _ hl hr (hgroup _ _ h)
    | nested hf hc hl h hr => exact nested _ _ _ _ _ _ hf hc hl hr (hgroup _ _ h)
    | field hf hc h => exact field _ _ _ _ hf hc (vals _ _ _ h)
    | compare hf hc hw => exact compare _ _ _ _ hf hc hw
    | present hf => exact present _ hf
  have levels : ∀ limit ts n, Group limit ts n → P ts n := by
    intro limit
    induction limit with
    | zero => exact fun _ _ h ↦ h.elim
    | succ limit ih =>
      exact fun _ _ h ↦ Disjunction.inductionOn (fun _ _ ↦ condition limit _ _ ih) not and or h
  exact Disjunction.inductionOn (fun _ _ ↦ condition limit _ _ (levels limit)) not and or h

end LogSearch.Kql
