import LogSearch.Proofs.Specifier.Reading

/-!
# Specifiers written as texts

With a backslash in front of each of its operators, any text that is not empty can be the value of a
specifier, and any that does not end in a backslash its field (`parse_escape`).  The second condition
takes nothing away: behind a backslash no operator is active, so no field that was read in front of one
ends in a backslash (`readable_of_parse`).

A specifier is printed without backslashes.  Its text is read as the same specifier just if there is no
operator in its field and its value (`parse_print_iff`): one that is active would cut the text once more,
and one that is not would take the backslash in front of it along.

## What is here

* `endsEscaped`, `partsBehind_append` — the parts of two texts with an operator between them;
* `escape`, `spell` — texts and specifiers with backslashes;
* `Readable`, `readable_of_parse`, `parse_spell` — the specifiers that texts spell;
* `parse_escape` — what was escaped reads back;
* `isPlain_iff`, `parse_print_iff` — when a printed specifier does.
-/

set_option autoImplicit false
namespace LogSearch.Specifier

/-! ## Texts around an operator -/

/-- Whether a text, itself behind a backslash if `escaped`, has a backslash right in front of its
end. -/
def endsEscaped : Bool → List Char → Bool
  | escaped, [] => escaped
  | _, c :: cs => endsEscaped (c = '\\') cs

section parts

variable {escaped : Bool} {c : Char} {cs before behind : List Char}

theorem endsEscaped_eq (escaped : Bool) (cs : List Char) :
    endsEscaped escaped cs = cs.getLast?.elim escaped (· = '\\') := by
  induction cs generalizing escaped with
  | nil => rfl
  | cons c cs ih =>
    rw [endsEscaped, ih, List.getLast?_cons]
    cases cs.getLast? <;> rfl

theorem endsEscaped_eq_false_iff : endsEscaped false cs = false ↔ cs.getLast? ≠ some '\\' := by
  rw [endsEscaped_eq]
  cases cs.getLast? <;> simp

theorem partsBehind_append (hc : isOperator c = true) (h : endsEscaped escaped before = false) :
    partsBehind escaped (before ++ c :: behind)
      = ⟨(partsBehind escaped before).first,
          (partsBehind escaped before).rest
            ++ (c, (partsOf behind).first) :: (partsOf behind).rest⟩ := by
  induction before generalizing escaped with
  | nil =>
    obtain rfl : escaped = false := h
    exact partsBehind_active hc
  | cons b before ih =>
    rw [endsEscaped] at h
    by_cases hb : isOperator b = true → escaped = true
    · rw [List.cons_append, partsBehind_inactive hb, ih h, partsBehind_inactive hb]
      rfl
    · obtain ⟨hop, rfl⟩ : isOperator b = true ∧ escaped = false := by simpa using hb
      rw [decide_eq_false (ne_backslash_of_isOperator hop)] at h
      rw [List.cons_append, partsBehind_active hop, ih h, partsBehind_active hop]
      rfl

theorem text_partsOf (cs : List Char) : (partsOf cs).text = cs := (areOf_iff.2 rfl).1

theorem first_partsOf (h : (partsOf cs).rest = []) : (partsOf cs).first = cs := by
  have htext := text_partsOf cs
  rwa [Parts.text, h, List.flatMap_nil, List.append_nil] at htext

/-- A text with no active operator is a single part. -/
theorem partsOf_eq_single_iff : partsOf cs = ⟨before, []⟩ ↔ before = cs ∧ (partsOf cs).rest = [] := by
  constructor
  · intro h
    have hrest : (partsOf cs).rest = [] := by rw [h]
    exact ⟨by rw [← first_partsOf hrest, h], hrest⟩
  · rintro ⟨rfl, h⟩
    calc partsOf before = ⟨(partsOf before).first, (partsOf before).rest⟩ := rfl
      _ = ⟨before, []⟩ := by rw [first_partsOf h, h]

/-- Only a backslash with something behind it is taken away. -/
theorem getLast?_strip (cs : List Char) : (strip cs).getLast? = cs.getLast? := by
  induction cs with
  | nil => rfl
  | cons c cs ih =>
    rw [strip, List.getLast?_cons]
    split
    · next h =>
      rw [ih]
      cases cs with
      | nil => simp at h
      | cons d cs => simp [List.getLast?_cons]
    · rw [List.getLast?_cons, ih]

theorem strip_ne_nil (h : cs ≠ []) : strip cs ≠ [] := by
  rw [← List.getLast?_isSome, getLast?_strip, List.getLast?_isSome]
  exact h

theorem length_strip_le (cs : List Char) : (strip cs).length ≤ cs.length := by
  induction cs with
  | nil => exact Nat.le_refl 0
  | cons c cs ih =>
    rw [strip]
    split
    · exact Nat.le_succ_of_le ih
    · exact Nat.succ_le_succ ih

end parts

/-! ## Escaping -/

/-- A character in a text with backslashes. -/
def escapeChar (c : Char) : List Char := if isOperator c then ['\\', c] else [c]

/-- The text with a backslash in front of each operator. -/
def escape (text : String) : String := String.ofList (text.toList.flatMap escapeChar)

/-- A text that spells the specifier. -/
def spell (s : Specifier) : String :=
  match s.operator with
  | .present => escape s.field
  | operator => escape s.field ++ sign operator ++ escape (s.value.getD "")

section escaping

variable {c : Char} {cs : List Char}

theorem escapeChar_operator (h : isOperator c = true) : escapeChar c = ['\\', c] := if_pos h

theorem escapeChar_other (h : ¬isOperator c = true) : escapeChar c = [c] := if_neg h

/-- No operator in an escaped text is active. -/
theorem partsBehind_escape (escaped : Bool) (cs : List Char) :
    partsBehind escaped (cs.flatMap escapeChar) = ⟨cs.flatMap escapeChar, []⟩ := by
  induction cs generalizing escaped with
  | nil => rfl
  | cons c cs ih =>
    rw [List.flatMap_cons]
    by_cases h : isOperator c = true
    · rw [escapeChar_operator h, List.cons_append, partsBehind_inactive (by simp [isOperator]),
        List.cons_append, partsBehind_inactive (by simp), List.nil_append, ih]
      rfl
    · rw [escapeChar_other h, List.cons_append, partsBehind_inactive (fun hc ↦ absurd hc h),
        List.nil_append, ih]
      rfl

theorem endsEscaped_escape (escaped : Bool) (cs : List Char) :
    endsEscaped escaped (cs.flatMap escapeChar) = endsEscaped escaped cs := by
  induction cs generalizing escaped with
  | nil => rfl
  | cons c cs ih =>
    rw [List.flatMap_cons]
    by_cases h : isOperator c = true
    · rw [escapeChar_operator h]
      exact ih _
    · rw [escapeChar_other h]
      exact ih _

theorem head?_escape (cs : List Char) : (cs.flatMap escapeChar).head?.any isOperator = false := by
  cases cs with
  | nil => rfl
  | cons c cs =>
    rw [List.flatMap_cons]
    by_cases h : isOperator c = true
    · rw [escapeChar_operator h]
      rfl
    · rw [escapeChar_other h]
      simpa using h

/-- **What was escaped loses just the backslashes that it got.** -/
theorem strip_escape (cs : List Char) : strip (cs.flatMap escapeChar) = cs := by
  induction cs with
  | nil => rfl
  | cons c cs ih =>
    rw [List.flatMap_cons]
    by_cases h : isOperator c = true
    · rw [escapeChar_operator h, List.cons_append, List.cons_append, List.nil_append, strip,
        if_pos (by simpa using h), strip, if_neg, ih]
      simp [ne_backslash_of_isOperator h]
    · rw [escapeChar_other h, List.cons_append, List.nil_append, strip, if_neg, ih]
      simp [head?_escape cs]

variable {text : String}

theorem partsOf_escape (text : String) :
    partsOf (escape text).toList = ⟨(escape text).toList, []⟩ := by
  rw [escape, String.toList_ofList]
  exact partsBehind_escape false _

theorem ofList_strip_escape (text : String) : String.ofList (strip (escape text).toList) = text := by
  rw [escape, String.toList_ofList, strip_escape, String.ofList_toList]

theorem escape_ne_nil (h : text ≠ "") : (escape text).toList ≠ [] := by
  intro hnil
  apply h
  rw [← ofList_strip_escape text, hnil]
  rfl

end escaping

/-! ## Specifiers with backslashes -/

/-- The specifiers that texts spell. -/
inductive Readable : Specifier → Prop
  | field {field : String} (hfield : field ≠ "") : Readable ⟨field, .present, none⟩
  | condition {field value : String} {op : SpecifierOperator} (hop : op ≠ .present)
    (hfield : field ≠ "") (hend : field.toList.getLast? ≠ some '\\') (hvalue : value ≠ "") :
    Readable ⟨field, op, some value⟩

section readable

variable {c : Char} {op : SpecifierOperator} {field value text : String} {s : Specifier}

theorem isOperator_of_operatorOf? (h : operatorOf? c = some op) : isOperator c = true := by
  rw [← isSome_operatorKind?]
  exact Option.isSome_of_mem (Option.bind_eq_some_iff.1 h).choose_spec.1

theorem ne_present_of_operatorOf? (h : operatorOf? c = some op) : op ≠ .present := by
  rcases isOperator_iff.1 (isOperator_of_operatorOf? h) with rfl | rfl | rfl | rfl <;>
    cases h <;> decide

theorem exists_operatorOf? (h : op ≠ .present) : ∃ c, operatorOf? c = some op :=
  match op, h with
  | .equals, _ => ⟨'=', rfl⟩
  | .lessThan, _ => ⟨'<', rfl⟩
  | .greaterThan, _ => ⟨'>', rfl⟩
  | .matches, _ => ⟨'~', rfl⟩

/-- The parts of a field, an operator and a value that are written one behind the other. -/
theorem partsOf_condition (hop : operatorOf? c = some op)
    (hend : endsEscaped false field.toList = false) :
    partsOf (field ++ sign op ++ value).toList
      = ⟨(partsOf field.toList).first,
          (partsOf field.toList).rest
            ++ (c, (partsOf value.toList).first) :: (partsOf value.toList).rest⟩ := by
  have hsign : (sign op).toList = [c] := by
    rw [operatorOf?_eq_some_iff.1 hop]
    exact String.toList_singleton c
  rw [String.toList_append, String.toList_append, hsign, List.append_assoc]
  exact partsBehind_append (isOperator_of_operatorOf? hop) hend

theorem spell_condition (h : op ≠ .present) :
    spell ⟨field, op, some value⟩ = escape field ++ sign op ++ escape value := by
  rw [spell]
  split
  · contradiction
  · rfl

theorem print_condition (h : op ≠ .present) :
    print ⟨field, op, some value⟩ = field ++ sign op ++ value := by
  rw [print]
  split
  · contradiction
  · rfl

theorem readable_of_parse (h : parse text = .ok s) : s.Readable := by
  rw [parse_eq_ok_iff, Parts.specifier?_eq_some_iff] at h
  rcases h with ⟨field, hfield, -, rfl⟩ | ⟨field, c, value, op, hfield, hvalue, hp, hop, rfl⟩
  · exact .field (by simpa using strip_ne_nil hfield)
  · -- the operator behind the field is active
    obtain ⟨htext, hactive⟩ := areOf_pair.1 (areOf_iff.2 hp.symm)
    have hpos := List.length_pos_iff.2 hfield
    have hend := ((hactive field.length).2 rfl).2 (field.length - 1) (by omega)
    rw [htext, List.getElem?_append_left (by omega), ← List.getLast?_eq_getElem?] at hend
    refine .condition (ne_present_of_operatorOf? hop) (by simpa using strip_ne_nil hfield) ?_
      (by simpa using strip_ne_nil hvalue)
    rwa [String.toList_ofList, getLast?_strip]

/-- **Every readable specifier is read from its text with backslashes.** -/
theorem parse_spell (h : s.Readable) : parse s.spell = .ok s := by
  rw [parse_eq_ok_iff, Parts.specifier?_eq_some_iff]
  cases h with
  | @field field hfield =>
    exact .inl ⟨_, escape_ne_nil hfield, partsOf_escape field, by rw [ofList_strip_escape]⟩
  | @condition field value op hop hfield hend hvalue =>
    obtain ⟨c, hc⟩ := exists_operatorOf? hop
    have hend' : endsEscaped false (escape field).toList = false := by
      rw [escape, String.toList_ofList, endsEscaped_escape]
      exact endsEscaped_eq_false_iff.2 hend
    refine .inr ⟨_, c, _, op, escape_ne_nil hfield, escape_ne_nil hvalue, ?_, hc, ?_⟩
    · rw [spell_condition hop, partsOf_condition hc hend', partsOf_escape, partsOf_escape]
      rfl
    · rw [ofList_strip_escape, ofList_strip_escape]

/-- **Escaped texts are read back.**  Any text that is not empty is a field once it is escaped; in front
of an operator and another such text it is one too, unless it ends in a backslash.  And every specifier
that was read is read again from its text with backslashes. -/
theorem parse_escape :
    (∀ field : String, field ≠ "" → parse (escape field) = .ok ⟨field, .present, none⟩) ∧
    (∀ (field value : String) (op : SpecifierOperator), field ≠ "" → value ≠ "" →
      field.toList.getLast? ≠ some '\\' → op ≠ .present →
      parse (escape field ++ sign op ++ escape value) = .ok ⟨field, op, some value⟩) ∧
    ∀ (text : String) (s : Specifier), parse text = .ok s → parse s.spell = .ok s := by
  refine ⟨?_, ?_, ?_⟩
  · intro field hfield
    show parse (spell ⟨field, .present, none⟩) = .ok ⟨field, .present, none⟩
    exact parse_spell (.field hfield)
  · intro field value op hfield hvalue hend hop
    rw [← spell_condition hop]
    exact parse_spell (.condition hop hfield hend hvalue)
  · intro text s h
    exact parse_spell (readable_of_parse h)

theorem parse_escape_backslashes :
    escape "a\\=b" = "a\\\\=b" ∧
      parse (escape "a\\=b" ++ sign .matches ++ escape "=\\")
        = .ok ⟨"a\\=b", .matches, some "=\\"⟩ ∧
      parse (escape "=\\") = .ok ⟨"=\\", .present, none⟩ ∧
      parse (spell ⟨"a=b", .equals, some "c"⟩) = .ok ⟨"a=b", .equals, some "c"⟩ := by
  have hread : parse "a\\=b=c" = .ok ⟨"a=b", .equals, some "c"⟩ := rfl
  refine ⟨rfl, ?_, parse_escape.1 "=\\" (by decide), parse_escape.2.2 _ _ hread⟩
  exact parse_escape.2.1 "a\\=b" "=\\" .matches (by decide) (by decide) (by decide) (by decide)

end readable

/-! ## Printed specifiers -/

/-- A text without operators. -/
def IsPlain (cs : List Char) : Prop := ∀ c ∈ cs, isOperator c = false

instance (cs : List Char) : Decidable (IsPlain cs) :=
  decidable_of_iff (cs.all fun c ↦ !isOperator c) (by simp [IsPlain])

section printed

variable {c : Char} {cs : List Char} {text : String} {s : Specifier}

theorem IsPlain.head (h : IsPlain cs) : cs.head?.any isOperator = false := by
  cases cs with
  | nil => rfl
  | cons c cs => exact h c List.mem_cons_self

/-- **A text has no operator** just if no operator in it is active and it loses no backslash.  Behind a
backslash, an operator at its start would go unnoticed. -/
theorem isPlain_iff_behind {escaped : Bool}
    (h : escaped = true → cs.head?.any isOperator = false) :
    (partsBehind escaped cs).rest = [] ∧ strip cs = cs ↔ IsPlain cs := by
  induction cs generalizing escaped with
  | nil => simp [partsBehind, strip, IsPlain]
  | cons c cs ih =>
    by_cases hc : isOperator c = true
    · refine iff_of_false ?_ (fun hplain ↦ ?_)
      · rintro ⟨hrest, -⟩
        obtain rfl : escaped = false := by simpa [hc] using h
        rw [partsBehind_active hc] at hrest
        cases hrest
      · rw [hplain c List.mem_cons_self] at hc
        cases hc
    · have hstrip : strip (c :: cs) = c :: cs ↔
          (decide (c = '\\') = true → cs.head?.any isOperator = false) ∧ strip cs = cs := by
        rw [strip]
        split
        · next hcut =>
          obtain ⟨hback, hhead⟩ : c = '\\' ∧ cs.head?.any isOperator = true := by simpa using hcut
          refine iff_of_false (fun hlong ↦ ?_) (fun hkept ↦ ?_)
          · have hle := length_strip_le cs
            rw [hlong, List.length_cons] at hle
            omega
          · rw [hkept.1 (decide_eq_true hback)] at hhead
            cases hhead
        · next hkept =>
          rw [List.cons_inj_right, and_iff_right]
          simpa using hkept
      rw [partsBehind_inactive (fun h ↦ absurd h hc), hstrip]
      constructor
      · rintro ⟨hrest, hhead, hstrip⟩
        exact List.forall_mem_cons.2 ⟨by simpa using hc, (ih hhead).1 ⟨hrest, hstrip⟩⟩
      · intro hplain
        have htail : IsPlain cs := fun d hd ↦ hplain d (List.mem_cons_of_mem _ hd)
        obtain ⟨hrest, hstrip⟩ := (ih fun _ ↦ htail.head).2 htail
        exact ⟨hrest, fun _ ↦ htail.head, hstrip⟩

theorem isPlain_iff : (partsOf text.toList).rest = [] ∧ String.ofList (strip text.toList) = text ↔
    IsPlain text.toList := by
  rw [← String.toList_inj, String.toList_ofList]
  exact isPlain_iff_behind (by simp)

/-- **When a printed specifier is read back**: just if there is no operator in its field and none in its
value.  Otherwise its text is refused, or read as another specifier. -/
theorem parse_print_iff (h : parse text = .ok s) :
    parse s.print = .ok s ↔
      IsPlain s.field.toList ∧ ∀ value ∈ s.value, IsPlain value.toList := by
  cases readable_of_parse h with
  | @field field hfield =>
    rw [show print ⟨field, .present, none⟩ = field from rfl, parse_eq_ok_iff,
      Parts.specifier?_eq_some_iff]
    constructor
    · rintro (⟨first, -, hp, hs⟩ | ⟨_, _, _, _, -, -, -, -, hs⟩)
      · obtain ⟨rfl, hrest⟩ := partsOf_eq_single_iff.1 hp
        simp only [mk.injEq, and_true] at hs
        exact ⟨isPlain_iff.1 ⟨hrest, hs.symm⟩, by simp⟩
      · cases hs
    · rintro ⟨hplain, -⟩
      obtain ⟨hrest, hstrip⟩ := isPlain_iff.2 hplain
      refine .inl ⟨field.toList, by simpa using hfield, partsOf_eq_single_iff.2 ⟨rfl, hrest⟩, ?_⟩
      rw [hstrip]
  | @condition field value op hop hfield hend hvalue =>
    obtain ⟨c, hc⟩ := exists_operatorOf? hop
    rw [print_condition hop, parse_eq_ok_iff, Parts.specifier?_eq_some_iff,
      partsOf_condition hc (endsEscaped_eq_false_iff.2 hend)]
    constructor
    · rintro (⟨_, -, -, hs⟩ | ⟨first, d, second, op', -, -, hp, hop', hs⟩)
      · cases hs
      · -- there is no other active operator, so the parts are the field and the value
        obtain ⟨rfl, hrest, ⟨-, rfl⟩, hrest'⟩ : (partsOf field.toList).first = first ∧
            (partsOf field.toList).rest = [] ∧ (c = d ∧ (partsOf value.toList).first = second) ∧
            (partsOf value.toList).rest = [] := by
          simpa [List.append_eq_singleton_iff] using hp
        rw [first_partsOf hrest, first_partsOf hrest'] at hs
        simp only [mk.injEq, Option.some.injEq] at hs
        refine ⟨isPlain_iff.1 ⟨hrest, hs.1.symm⟩, fun v hv ↦ ?_⟩
        obtain rfl : value = v := Option.some.inj hv
        exact isPlain_iff.1 ⟨hrest', hs.2.2.symm⟩
    · rintro ⟨hplain, hplain'⟩
      obtain ⟨hrest, hstrip⟩ := isPlain_iff.2 hplain
      obtain ⟨hrest', hstrip'⟩ := isPlain_iff.2 (hplain' value rfl)
      refine .inr ⟨field.toList, c, value.toList, op, by simpa using hfield, by simpa using hvalue,
        ?_, hc, ?_⟩
      · rw [partsOf_eq_single_iff.2 ⟨rfl, hrest⟩, partsOf_eq_single_iff.2 ⟨rfl, hrest'⟩]
        rfl
      · rw [hstrip, hstrip']

theorem parse_print_escaped :
    (parse "a\\=b~c" = .ok ⟨"a=b", .matches, some "c"⟩ ∧
      parse (print ⟨"a=b", .matches, some "c"⟩) ≠ .ok ⟨"a=b", .matches, some "c"⟩) ∧
    parse "a\\b~c d" = .ok ⟨"a\\b", .matches, some "c d"⟩ ∧
      parse (print ⟨"a\\b", .matches, some "c d"⟩) = .ok ⟨"a\\b", .matches, some "c d"⟩ := by
  have hescaped : parse "a\\=b~c" = .ok ⟨"a=b", .matches, some "c"⟩ := rfl
  have hplain : parse "a\\b~c d" = .ok ⟨"a\\b", .matches, some "c d"⟩ := rfl
  refine ⟨⟨hescaped, fun hprinted ↦ ?_⟩, hplain, (parse_print_iff hplain).2 ⟨by decide, ?_⟩⟩
  · cases ((parse_print_iff hescaped).1 hprinted).1 '=' (by decide)
  · rintro value ⟨⟩
    decide

end printed

end LogSearch.Specifier
