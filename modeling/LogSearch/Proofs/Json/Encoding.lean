import LogSearch.Json.Literal
import LogSearch.Proofs.Text.Utf8

/-!
# What string literals stand for

How the characters of a text may be written in a string literal: as they are, with a letter behind a
backslash, or with the hexadecimal digits of one or two 16-bit units.  Half of a surrogate pair is no
character, so it stands in a literal only next to the other half.  Nothing is said here about how
literals are read; that the reader takes just these, and each for what it stands for, is
`readString_eq_ok_iff`.

## What is here

* `IsHexValue`, `IsUnit` — hexadecimal digits and what they amount to;
* `Encodes`, `EncodesText` — a character and a text as they may be written between quotes;
* `readString_eq_ok_iff`, `decodeLiteral_eq_ok_iff` — what the reader takes.
-/

set_option autoImplicit false
namespace LogSearch.Json

/-! ## Digits -/

/-- The hexadecimal digit, of either case, has the value. -/
def IsHexValue (c : Char) (n : Nat) : Prop :=
  "0123456789abcdef".toList[n]? = some c ∨ "0123456789ABCDEF".toList[n]? = some c

/-- The four hexadecimal digits of a 16-bit unit. -/
inductive IsUnit : List Char → Nat → Prop
  | mk {a b c d : Char} {p q r s : Nat} (ha : IsHexValue a p) (hb : IsHexValue b q)
    (hc : IsHexValue c r) (hd : IsHexValue d s) :
    IsUnit [a, b, c, d] (((p * 16 + q) * 16 + r) * 16 + s)

theorem isHexValue_of_hexValue? {c : Char} {n : Nat} (h : Text.hexValue? c = some n) :
    IsHexValue c n := by
  have hall : ∀ m < 103, ∀ n ∈ Text.hexValue? (Char.ofNat m),
      "0123456789abcdef".toList[n]? = some (Char.ofNat m) ∨
        "0123456789ABCDEF".toList[n]? = some (Char.ofNat m) := by
    decide
  have hlt : c.toNat < 103 := by
    unfold Text.hexValue? at h
    grind
  rw [← Char.ofNat_toNat c] at h ⊢
  exact hall c.toNat hlt n h

theorem hexValue?_eq_some_iff {c : Char} {n : Nat} :
    Text.hexValue? c = some n ↔ IsHexValue c n := by
  refine ⟨isHexValue_of_hexValue?, ?_⟩
  have hlower : ∀ m < 16, "0123456789abcdef".toList[m]?.bind Text.hexValue? = some m := by decide
  have hupper : ∀ m < 16, "0123456789ABCDEF".toList[m]?.bind Text.hexValue? = some m := by decide
  rintro (h | h)
  · have hvalue := hlower n (List.getElem?_eq_some_iff.1 h).1
    rwa [h, Option.bind_some] at hvalue
  · have hvalue := hupper n (List.getElem?_eq_some_iff.1 h).1
    rwa [h, Option.bind_some] at hvalue

theorem IsHexValue.lt {c : Char} {n : Nat} (h : IsHexValue c n) : n < 16 := by
  rcases h with h | h <;> exact (List.getElem?_eq_some_iff.1 h).1

/-- A hexadecimal digit is neither a quote nor a backslash. -/
theorem IsHexValue.ne {c : Char} {n : Nat} (h : IsHexValue c n) : c ≠ '"' ∧ c ≠ '\\' := by
  rw [← hexValue?_eq_some_iff] at h
  constructor <;> rintro rfl <;> cases h

theorem IsUnit.lt {digits : List Char} {n : Nat} (h : IsUnit digits n) : n < 0x10000 := by
  obtain ⟨ha, hb, hc, hd⟩ := h
  have := ha.lt
  have := hb.lt
  have := hc.lt
  have := hd.lt
  omega

theorem IsUnit.forall_mem_ne {digits : List Char} {n : Nat} (h : IsUnit digits n) :
    ∀ c ∈ digits, c ≠ '"' ∧ c ≠ '\\' := by
  obtain ⟨ha, hb, hc, hd⟩ := h
  simp [ha.ne, hb.ne, hc.ne, hd.ne]

/-! ## Characters and texts -/

/-- The letters that stand for a character behind a backslash. -/
def letters : List (Char × Char) :=
  [('"', '"'), ('\\', '\\'), ('/', '/'), ('b', '\x08'), ('f', '\x0c'), ('n', '\n'), ('r', '\r'),
    ('t', '\t')]

/-- A character as it may be written between quotes. -/
inductive Encodes : List Char → Char → Prop
  /-- Any character but a control character, a quote and a backslash stands for itself. -/
  | plain {c : Char} (hc : 0x20 ≤ c.toNat) (hquote : c ≠ '"') (hbackslash : c ≠ '\\') :
    Encodes [c] c
  | letter {l c : Char} (h : (l, c) ∈ letters) : Encodes ['\\', l] c
  | unit {digits : List Char} {c : Char} (h : IsUnit digits c.toNat) :
    Encodes ('\\' :: 'u' :: digits) c
  /-- The halves of a surrogate pair stand for a character outside the first plane. -/
  | pair {digits digits' : List Char} {high low : Nat} {c : Char} (h : IsUnit digits high)
    (h' : IsUnit digits' low) (hhigh : 0xD800 ≤ high ∧ high ≤ 0xDBFF)
    (hlow : 0xDC00 ≤ low ∧ low ≤ 0xDFFF)
    (hc : c.toNat = 0x10000 + (high - 0xD800) * 0x400 + (low - 0xDC00)) :
    Encodes ('\\' :: 'u' :: (digits ++ '\\' :: 'u' :: digits')) c

/-- A text as it may be written between quotes. -/
inductive EncodesText : List Char → List Char → Prop
  | nil : EncodesText [] []
  | cons {cs ds : List Char} {c : Char} {value : List Char} (h : Encodes cs c)
    (hs : EncodesText ds value) : EncodesText (cs ++ ds) (c :: value)

/-! ## The reader -/

section reader

variable {cs rest value : List Char} {c : Char} {n : Nat}

theorem readHex_eq_ok_iff :
    readHex cs = .ok (n, rest) ↔ ∃ digits, IsUnit digits n ∧ cs = digits ++ rest := by
  constructor
  · intro h
    unfold readHex stop at h
    split at h
    · split at h
      · next hp hq hr hs =>
        cases h
        exact ⟨_, .mk (isHexValue_of_hexValue? hp) (isHexValue_of_hexValue? hq)
          (isHexValue_of_hexValue? hr) (isHexValue_of_hexValue? hs), rfl⟩
      · cases h
    · split at h <;> cases h
  · rintro ⟨digits, hunit, rfl⟩
    obtain ⟨ha, hb, hc, hd⟩ := hunit
    simp only [List.cons_append, List.nil_append, readHex, hexValue?_eq_some_iff.2 ha,
      hexValue?_eq_some_iff.2 hb, hexValue?_eq_some_iff.2 hc, hexValue?_eq_some_iff.2 hd]

theorem toNat_ofNat_of_lt (hn : n < 0x110000) (h : n < 0xD800 ∨ 0xDFFF < n) :
    (Char.ofNat n).toNat = n := by
  have hvalid : n.isValidChar := by
    rw [Nat.isValidChar]
    omega
  exact Text.Utf8.toNat_ofNat_of_isValidChar hvalid

/-- No character is half of a surrogate pair. -/
theorem toNat_lt_or_lt (c : Char) : c.toNat < 0xD800 ∨ 0xDFFF < c.toNat := by
  have hvalid : c.toNat.isValidChar := c.valid
  rw [Nat.isValidChar] at hvalid
  omega

theorem readUnicode_unit {digits : List Char} (h : IsUnit digits c.toNat) (rest : List Char) :
    readUnicode (digits ++ rest) = .ok (c, rest) := by
  have hread : readHex (digits ++ rest) = .ok (c.toNat, rest) := readHex_eq_ok_iff.2 ⟨digits, h, rfl⟩
  have hlow : ¬ (0xDC00 ≤ c.toNat ∧ c.toNat ≤ 0xDFFF) := by
    have := toNat_lt_or_lt c
    omega
  have hplain : c.toNat < 0xD800 ∨ 0xDBFF < c.toNat := by
    have := toNat_lt_or_lt c
    omega
  rw [readUnicode, hread]
  simp [bind, Except.bind, pure, Except.pure, hlow, hplain, Char.ofNat_toNat]

theorem readUnicode_pair {digits digits' : List Char} {high low : Nat} (h : IsUnit digits high)
    (h' : IsUnit digits' low) (hhigh : 0xD800 ≤ high ∧ high ≤ 0xDBFF)
    (hlow : 0xDC00 ≤ low ∧ low ≤ 0xDFFF)
    (hc : c.toNat = 0x10000 + (high - 0xD800) * 0x400 + (low - 0xDC00)) (rest : List Char) :
    readUnicode (digits ++ '\\' :: 'u' :: (digits' ++ rest)) = .ok (c, rest) := by
  have hread : readHex (digits ++ '\\' :: 'u' :: (digits' ++ rest))
      = .ok (high, '\\' :: 'u' :: (digits' ++ rest)) := readHex_eq_ok_iff.2 ⟨digits, h, rfl⟩
  have hread' : readHex (digits' ++ rest) = .ok (low, rest) := readHex_eq_ok_iff.2 ⟨digits', h', rfl⟩
  have hpaired : pairedChar high low = c := by rw [pairedChar, ← hc, Char.ofNat_toNat]
  have h1 : ¬ (0xDC00 ≤ high ∧ high ≤ 0xDFFF) := by omega
  have h2 : ¬ (high < 0xD800 ∨ 0xDBFF < high) := by omega
  have h3 : ¬ (low < 0xDC00 ∨ 0xDFFF < low) := by omega
  rw [readUnicode, hread]
  simp [bind, Except.bind, pure, Except.pure, h1, h2, h3, hread', hpaired]

/-- What is read as an escape is one. -/
theorem encodes_of_readUnicode (h : readUnicode cs = .ok (c, rest)) :
    ∃ tail, Encodes ('\\' :: 'u' :: tail) c ∧ cs = tail ++ rest := by
  rw [readUnicode] at h
  cases hread : readHex cs with
  | error stop => simp [hread, bind, Except.bind] at h
  | ok found =>
    obtain ⟨high, behind⟩ := found
    obtain ⟨digits, hunit, rfl⟩ := readHex_eq_ok_iff.1 hread
    simp only [hread, bind, Except.bind, pure, Except.pure, stop, stopAtNext] at h
    split at h
    · cases h
    · next hlow =>
      split at h
      · next hplain =>
        cases h
        have hlt := hunit.lt
        have hnat : (Char.ofNat high).toNat = high := by
          refine toNat_ofNat_of_lt (by omega) ?_
          simp only [Bool.and_eq_true, Bool.or_eq_true, decide_eq_true_eq] at hlow hplain
          omega
        exact ⟨digits, .unit (hnat.symm ▸ hunit), rfl⟩
      · next hplain =>
        split at h
        case h_3 behind =>
          cases hread' : readHex behind with
          | error stop => simp [hread'] at h
          | ok found =>
            obtain ⟨low, rest'⟩ := found
            obtain ⟨digits', hunit', rfl⟩ := readHex_eq_ok_iff.1 hread'
            simp only [hread'] at h
            split at h
            · cases h
            · next hpair =>
              simp only [Except.ok.injEq, Prod.mk.injEq] at h
              obtain ⟨rfl, rfl⟩ := h
              simp only [Bool.and_eq_true, Bool.or_eq_true, decide_eq_true_eq] at hlow hplain hpair
              refine ⟨digits ++ '\\' :: 'u' :: digits', ?_, by simp⟩
              refine .pair hunit hunit' (by omega) (by omega) ?_
              exact toNat_ofNat_of_lt (by omega) (by omega)
        all_goals cases h

theorem encodes_of_readEscape (h : readEscape cs = .ok (c, rest)) :
    ∃ tail, Encodes ('\\' :: tail) c ∧ cs = tail ++ rest := by
  have hletter {l c : Char} (h : (l, c) ∈ letters) :
      ∃ tail, Encodes ('\\' :: tail) c ∧ l :: rest = tail ++ rest := ⟨[l], .letter h, rfl⟩
  unfold readEscape stop stopAtNext at h
  split at h
  case h_10 =>
    obtain ⟨tail, htail, rfl⟩ := encodes_of_readUnicode h
    exact ⟨'u' :: tail, htail, rfl⟩
  case h_1 | h_11 => cases h
  all_goals
    cases h
    exact hletter (by simp [letters])

/-- **A character is read however it may be written.** -/
theorem Encodes.readString_append (h : Encodes cs c) (rest : List Char) :
    readString (cs ++ rest) = (readString rest).map fun found ↦ (c :: found.1, found.2) := by
  have hescape (tail : List Char) (hread : readEscape (tail ++ rest) = .ok (c, rest)) :
      readString ('\\' :: (tail ++ rest))
        = (readString rest).map fun found ↦ (c :: found.1, found.2) := by
    rw [readString]
    split
    · next hread' => cases hread.symm.trans hread'
    · next hread' =>
      cases hread.symm.trans hread'
      rfl
  cases h with
  | plain hc hquote hbackslash =>
    rw [List.singleton_append, readString]
    · rw [if_neg (by omega)]
    · exact hquote
    · exact hbackslash
  | @letter l c h =>
    refine hescape [l] ?_
    simp only [letters, List.mem_cons, Prod.mk.injEq, List.not_mem_nil, or_false] at h
    rcases h with h | h | h | h | h | h | h | h
    all_goals
      obtain ⟨rfl, rfl⟩ := h
      rfl
  | @unit digits c h => exact hescape ('u' :: digits) (readUnicode_unit h rest)
  | @pair digits digits' high low c h h' hhigh hlow hc =>
    refine hescape ('u' :: (digits ++ '\\' :: 'u' :: digits')) ?_
    rw [List.cons_append, List.append_assoc]
    exact readUnicode_pair h h' hhigh hlow hc rest

/-- **The reader takes just the texts that may stand between quotes**, each for what it stands for. -/
theorem readString_eq_ok_iff :
    readString cs = .ok (value, rest) ↔
      ∃ body, EncodesText body value ∧ cs = body ++ '"' :: rest := by
  constructor
  · intro h
    fun_induction readString cs generalizing value with
    | case1 => cases h
    | case2 =>
      cases h
      exact ⟨[], .nil, rfl⟩
    | case3 => cases h
    | case4 cs c behind hread ih =>
      cases hrest : readString behind with
      | error stop => simp [hrest, Except.map] at h
      | ok found =>
        simp only [hrest, Except.map, Except.ok.injEq, Prod.mk.injEq] at h
        obtain ⟨rfl, rfl⟩ := h
        obtain ⟨tail, htail, rfl⟩ := encodes_of_readEscape hread
        obtain ⟨body, hbody, rfl⟩ := ih hrest
        exact ⟨_, .cons htail hbody, by simp⟩
    | case5 => cases h
    | case6 c cs hquote hbackslash hc ih =>
      cases hrest : readString cs with
      | error stop => simp [hrest, Except.map] at h
      | ok found =>
        simp only [hrest, Except.map, Except.ok.injEq, Prod.mk.injEq] at h
        obtain ⟨rfl, rfl⟩ := h
        obtain ⟨body, hbody, rfl⟩ := ih hrest
        exact ⟨_, .cons (.plain (Nat.le_of_not_lt hc) hquote hbackslash) hbody, rfl⟩
  · rintro ⟨body, hbody, rfl⟩
    induction hbody with
    | nil => rw [List.nil_append, readString]
    | cons h _ ih =>
      rw [List.append_assoc, h.readString_append, ih]
      rfl

/-- A literal is a text that may stand between quotes, between quotes. -/
theorem decodeLiteral_eq_ok_iff :
    decodeLiteral cs = .ok value ↔ ∃ body, EncodesText body value ∧ cs = '"' :: (body ++ ['"']) := by
  unfold decodeLiteral
  constructor
  · intro h
    split at h
    · next rest =>
      split at h
      · next hread =>
        cases h
        obtain ⟨body, hbody, rfl⟩ := readString_eq_ok_iff.1 hread
        exact ⟨body, hbody, rfl⟩
      · cases h
      · cases h
    · cases h
  · rintro ⟨body, hbody, rfl⟩
    have hread : readString (body ++ ['"']) = .ok (value, []) :=
      readString_eq_ok_iff.2 ⟨body, hbody, rfl⟩
    simp only [hread]
    rfl

end reader

end LogSearch.Json
