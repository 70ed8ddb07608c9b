import LogSearch.Text.Utf8
import Mathlib.Tactic.Common

/-!
# Bytes and texts

Every text has one sequence of bytes, and bytes that are no text's are not read: what is read from bytes is
a text with just these bytes (`decode_eq_ok_iff`).  So bytes are read back from what they were written as,
and different texts have different bytes.

A character is one to four bytes, of which all but the first are marked as continuing it.  How many they
are goes by the size of its number; the longer forms of small numbers, the surrogates and what is above the
last character are left out by what is asked of the second byte (`Spells`).

## What is here

* `Spells` — the bytes of one character, by its number; `spells_encodeChar`, `Spells.encodeChar` — they are
  those it is written as;
* `Spells.step_append`, `spells_of_step` — they are those it is read from;
* `decode_eq_ok_iff`, `encode_injective` — whole texts.
-/

set_option autoImplicit false
namespace LogSearch.Text.Utf8

/-! ## Numbers and bytes -/

theorem toNat_ofNat_of_isValidChar {n : Nat} (h : n.isValidChar) : (Char.ofNat n).toNat = n := by
  rw [Char.ofNat, dif_pos h]
  rfl

theorem eq_ofNat {b : UInt8} {n : Nat} (h : b.toNat = n) : b = .ofNat n := by
  rw [← h, UInt8.ofNat_toNat]

theorem inRange_iff (least greatest b : UInt8) : (least ≤ b && b ≤ greatest) = true ↔
    least.toNat ≤ b.toNat ∧ b.toNat ≤ greatest.toNat := by
  simp [UInt8.le_iff_toNat_le]

theorem not_inRange (least greatest : UInt8) {b : UInt8} (h : greatest.toNat < b.toNat) :
    ¬ (least ≤ b && b ≤ greatest) = true :=
  fun hrange ↦ Nat.not_le_of_lt h ((inRange_iff _ _ _).1 hrange).2

theorem not_lt_of_toNat_le (least : UInt8) {b : UInt8} (h : least.toNat ≤ b.toNat) : ¬ b < least :=
  fun hlt ↦ Nat.not_le_of_lt (UInt8.lt_iff_toNat_lt.1 hlt) h

theorem isTail_iff {b : UInt8} : isTail b = true ↔ 0x80 ≤ b.toNat ∧ b.toNat ≤ 0xBF :=
  inRange_iff 0x80 0xBF b

theorem isSecond_iff {a b : UInt8} : isSecond a b = true ↔
    isTail b ∧ (a.toNat = 0xE0 → 0xA0 ≤ b.toNat) ∧ (a.toNat = 0xED → b.toNat ≤ 0x9F) ∧
      (a.toNat = 0xF0 → 0x90 ≤ b.toNat) ∧ (a.toNat = 0xF4 → b.toNat ≤ 0x8F) := by
  simp only [isSecond, beq_iff_eq, ← UInt8.toNat_inj, UInt8.toNat_ofNat, Nat.reducePow,
    Nat.reduceMod]
  split_ifs <;> simp [isTail, UInt8.le_iff_toNat_le] <;> omega

/-! ## One character -/

/-- The bytes of the character with a number.  Each form is for numbers that the shorter ones have no
room for. -/
inductive Spells : List UInt8 → Nat → Prop
  | one {n : Nat} (hn : n < 0x80) : Spells [.ofNat n] n
  | two {x y : Nat} (hx : x < 0x20) (hy : y < 0x40) (hlong : 2 ≤ x) :
    Spells [.ofNat (x + 0xC0), .ofNat (y + 0x80)] (x * 64 + y)
  | three {x y z : Nat} (hx : x < 0x10) (hy : y < 0x40) (hz : z < 0x40) (hlong : x = 0 → 0x20 ≤ y)
    (hsurrogate : x = 0xD → y < 0x20) :
    Spells [.ofNat (x + 0xE0), .ofNat (y + 0x80), .ofNat (z + 0x80)] (x * 4096 + y * 64 + z)
  | four {x y z w : Nat} (hx : x < 5) (hy : y < 0x40) (hz : z < 0x40) (hw : w < 0x40)
    (hlong : x = 0 → 0x10 ≤ y) (hlast : x = 4 → y < 0x10) :
    Spells [.ofNat (x + 0xF0), .ofNat (y + 0x80), .ofNat (z + 0x80), .ofNat (w + 0x80)]
      (x * 262144 + y * 4096 + z * 64 + w)

section spells

variable {bytes : List UInt8} {n : Nat}

theorem Spells.isValidChar (h : Spells bytes n) : n.isValidChar := by
  rw [Nat.isValidChar]
  cases h <;> omega

theorem Spells.encodeChar (h : Spells bytes n) : String.utf8EncodeChar (Char.ofNat n) = bytes := by
  have hval : (Char.ofNat n).val.toNat = n := toNat_ofNat_of_isValidChar h.isValidChar
  rw [String.utf8EncodeChar, hval]
  clear hval
  cases h with
  | one hn => exact if_pos (Nat.le_of_lt_succ hn)
  | @two x y hx hy hlong =>
    rw [if_neg (by omega), if_pos (by omega)]
    rw [show (x * 64 + y) / 64 % 32 = x by omega, show (x * 64 + y) % 64 = y by omega]
  | @three x y z hx hy hz hlong =>
    rw [if_neg (by omega), if_neg (by omega), if_pos (by omega)]
    rw [show (x * 4096 + y * 64 + z) / 4096 % 16 = x by omega,
      show (x * 4096 + y * 64 + z) / 64 % 64 = y by omega,
      show (x * 4096 + y * 64 + z) % 64 = z by omega]
  | @four x y z w hx hy hz hw hlong =>
    rw [if_neg (by omega), if_neg (by omega), if_neg (by omega)]
    rw [show (x * 262144 + y * 4096 + z * 64 + w) / 262144 % 8 = x by omega,
      show (x * 262144 + y * 4096 + z * 64 + w) / 4096 % 64 = y by omega,
      show (x * 262144 + y * 4096 + z * 64 + w) / 64 % 64 = z by omega,
      show (x * 262144 + y * 4096 + z * 64 + w) % 64 = w by omega]

theorem spells_encodeChar (c : Char) : Spells (String.utf8EncodeChar c) c.toNat := by
  have hvalid : c.toNat.isValidChar := c.valid
  have hval : c.val.toNat = c.toNat := rfl
  rw [Nat.isValidChar] at hvalid
  rw [String.utf8EncodeChar, hval]
  generalize c.toNat = n at hvalid
  show Spells (if n ≤ 0x7F then _ else if n ≤ 0x7FF then _ else if n ≤ 0xFFFF then _ else _) n
  split_ifs with h₁ h₂ h₃
  · exact .one (Nat.lt_succ_of_le h₁)
  · have h : Spells _ (n / 64 % 32 * 64 + n % 64) := .two (by omega) (by omega) (by omega)
    rwa [show n / 64 % 32 * 64 + n % 64 = n by omega] at h
  · have h : Spells _ (n / 4096 % 16 * 4096 + n / 64 % 64 * 64 + n % 64) :=
      .three (by omega) (by omega) (by omega) (by omega) (by omega)
    rwa [show n / 4096 % 16 * 4096 + n / 64 % 64 * 64 + n % 64 = n by omega] at h
  · have h : Spells _
        (n / 262144 % 8 * 262144 + n / 4096 % 64 * 4096 + n / 64 % 64 * 64 + n % 64) :=
      .four (by omega) (by omega) (by omega) (by omega) (by omega) (by omega)
    rwa [show n / 262144 % 8 * 262144 + n / 4096 % 64 * 4096 + n / 64 % 64 * 64 + n % 64 = n by
      omega] at h

end spells

/-! ## Reading one character -/

section step

variable {a b c d : UInt8} (rest : List UInt8)

theorem step_one (ha : a.toNat < 0x80) : step a rest = .char (Char.ofNat a.toNat) 1 rest :=
  if_pos (UInt8.lt_iff_toNat_lt.2 ha)

theorem step_two (ha : 0xC2 ≤ a.toNat ∧ a.toNat ≤ 0xDF) (hb : isTail b) :
    step a (b :: rest) = .char (Char.ofNat (a.toNat % 32 * 64 + low b)) 2 rest := by
  rw [step.eq_def, if_neg (not_lt_of_toNat_le 0x80 (show 0x80 ≤ a.toNat by omega)),
    if_pos ((inRange_iff 0xC2 0xDF a).2 ha)]
  exact if_pos hb

theorem step_three (ha : 0xE0 ≤ a.toNat ∧ a.toNat ≤ 0xEF) (hb : isSecond a b) (hc : isTail c) :
    step a (b :: c :: rest)
      = .char (Char.ofNat (a.toNat % 16 * 4096 + low b * 64 + low c)) 3 rest := by
  rw [step.eq_def, if_neg (not_lt_of_toNat_le 0x80 (show 0x80 ≤ a.toNat by omega)),
    if_neg (not_inRange 0xC2 0xDF (show 0xDF < a.toNat by omega)),
    if_pos ((inRange_iff 0xE0 0xEF a).2 ha)]
  simp [hb, hc]

theorem step_four (ha : 0xF0 ≤ a.toNat ∧ a.toNat ≤ 0xF4) (hb : isSecond a b) (hc : isTail c)
    (hd : isTail d) :
    step a (b :: c :: d :: rest)
      = .char (Char.ofNat (a.toNat % 8 * 262144 + low b * 4096 + low c * 64 + low d)) 4 rest := by
  rw [step.eq_def, if_neg (not_lt_of_toNat_le 0x80 (show 0x80 ≤ a.toNat by omega)),
    if_neg (not_inRange 0xC2 0xDF (show 0xDF < a.toNat by omega)),
    if_neg (not_inRange 0xE0 0xEF (show 0xEF < a.toNat by omega)),
    if_pos ((inRange_iff 0xF0 0xF4 a).2 ha)]
  simp [hb, hc, hd]

end step

/-- The bytes of a character are read as it, whatever follows them. -/
theorem Spells.step_append {bytes : List UInt8} {n : Nat} (h : Spells bytes n) (rest : List UInt8) :
    ∃ a tail, bytes = a :: tail ∧
      step a (tail ++ rest) = .char (Char.ofNat n) bytes.length rest := by
  cases h with
  | @one n hn =>
    have ha : (UInt8.ofNat n).toNat = n :=
      UInt8.toNat_ofNat_of_lt (show _ < 256 by omega)
    refine ⟨_, _, rfl, ?_⟩
    conv_rhs => rw [← ha]
    exact step_one _ (ha.symm ▸ hn)
  | @two x y hx hy hlong =>
    have ha : (UInt8.ofNat (x + 0xC0)).toNat = x + 0xC0 :=
      UInt8.toNat_ofNat_of_lt (show _ < 256 by omega)
    have hb : (UInt8.ofNat (y + 0x80)).toNat = y + 0x80 :=
      UInt8.toNat_ofNat_of_lt (show _ < 256 by omega)
    have hn : (UInt8.ofNat (x + 0xC0)).toNat % 32 * 64 + low (.ofNat (y + 0x80)) = x * 64 + y := by
      rw [low]
      omega
    exact ⟨_, _, rfl, hn ▸ step_two rest (by omega) (isTail_iff.2 (by omega))⟩
  | @three x y z hx hy hz hlong hsurrogate =>
    have ha : (UInt8.ofNat (x + 0xE0)).toNat = x + 0xE0 :=
      UInt8.toNat_ofNat_of_lt (show _ < 256 by omega)
    have hb : (UInt8.ofNat (y + 0x80)).toNat = y + 0x80 :=
      UInt8.toNat_ofNat_of_lt (show _ < 256 by omega)
    have hc : (UInt8.ofNat (z + 0x80)).toNat = z + 0x80 :=
      UInt8.toNat_ofNat_of_lt (show _ < 256 by omega)
    have hn : (UInt8.ofNat (x + 0xE0)).toNat % 16 * 4096 + low (.ofNat (y + 0x80)) * 64
        + low (.ofNat (z + 0x80)) = x * 4096 + y * 64 + z := by
      simp only [low]
      omega
    refine ⟨_, _, rfl, hn ▸ step_three rest (by omega) (isSecond_iff.2 ?_) (isTail_iff.2 (by omega))⟩
    rw [isTail_iff]
    omega
  | @four x y z w hx hy hz hw hlong hlast =>
    have ha : (UInt8.ofNat (x + 0xF0)).toNat = x + 0xF0 :=
      UInt8.toNat_ofNat_of_lt (show _ < 256 by omega)
    have hb : (UInt8.ofNat (y + 0x80)).toNat = y + 0x80 :=
      UInt8.toNat_ofNat_of_lt (show _ < 256 by omega)
    have hc : (UInt8.ofNat (z + 0x80)).toNat = z + 0x80 :=
      UInt8.toNat_ofNat_of_lt (show _ < 256 by omega)
    have hd : (UInt8.ofNat (w + 0x80)).toNat = w + 0x80 :=
      UInt8.toNat_ofNat_of_lt (show _ < 256 by omega)
    have hn : (UInt8.ofNat (x + 0xF0)).toNat % 8 * 262144 + low (.ofNat (y + 0x80)) * 4096
        + low (.ofNat (z + 0x80)) * 64 + low (.ofNat (w + 0x80))
        = x * 262144 + y * 4096 + z * 64 + w := by
      simp only [low]
      omega
    refine ⟨_, _, rfl, hn ▸ step_four rest (by omega) (isSecond_iff.2 ?_) (isTail_iff.2 (by omega))
      (isTail_iff.2 (by omega))⟩
    rw [isTail_iff]
    omega

/-- A byte that continues a character is its low bits above the mark. -/
theorem eq_ofNat_low {b : UInt8} (hb : isTail b) : b = .ofNat (low b + 0x80) := by
  rw [isTail_iff] at hb
  refine eq_ofNat ?_
  rw [low]
  omega

theorem low_lt (b : UInt8) : low b < 0x40 := Nat.mod_lt _ (by decide)

/-- What is read as a character are its bytes. -/
theorem spells_of_step {a : UInt8} {rest rest' : List UInt8} {c : Char} {k : Nat}
    (h : step a rest = .char c k rest') :
    ∃ bytes n, Spells bytes n ∧ c = Char.ofNat n ∧ a :: rest = bytes ++ rest' := by
  revert h
  fun_cases step a rest <;> intro h <;> cases h
  case case1 ha =>
    have hspells : Spells [.ofNat a.toNat] a.toNat := .one (UInt8.lt_iff_toNat_lt.1 ha)
    exact ⟨_, _, UInt8.ofNat_toNat ▸ hspells, rfl, rfl⟩
  case case3 hrange b hb =>
    have ha : 0xC2 ≤ a.toNat ∧ a.toNat ≤ 0xDF := (inRange_iff 0xC2 0xDF a).1 hrange
    have hspells : Spells [.ofNat (a.toNat % 32 + 0xC0), .ofNat (low b + 0x80)] _ :=
      .two (Nat.mod_lt _ (by decide)) (low_lt b) (by omega)
    rw [← eq_ofNat_low hb, ← eq_ofNat (b := a) (by omega)] at hspells
    exact ⟨_, _, hspells, rfl, rfl⟩
  case case8 hrange b hb c hc =>
    have ha : 0xE0 ≤ a.toNat ∧ a.toNat ≤ 0xEF := (inRange_iff 0xE0 0xEF a).1 hrange
    rw [Bool.not_eq_true', Bool.not_eq_false, isSecond_iff] at hb
    obtain ⟨hb, hlong, hsurrogate, -, -⟩ := hb
    have hrange := isTail_iff.1 hb
    have hspells : Spells
        [.ofNat (a.toNat % 16 + 0xE0), .ofNat (low b + 0x80), .ofNat (low c + 0x80)] _ :=
      .three (Nat.mod_lt _ (by decide)) (low_lt b) (low_lt c) (by rw [low]; omega) (by rw [low]; omega)
    rw [← eq_ofNat_low hb, ← eq_ofNat_low hc, ← eq_ofNat (b := a) (by omega)] at hspells
    exact ⟨_, _, hspells, rfl, rfl⟩
  case case15 hrange b hb c hc d hd =>
    have ha : 0xF0 ≤ a.toNat ∧ a.toNat ≤ 0xF4 := (inRange_iff 0xF0 0xF4 a).1 hrange
    rw [Bool.not_eq_true', Bool.not_eq_false, isSecond_iff] at hb
    obtain ⟨hb, -, -, hlong, hlast⟩ := hb
    rw [Bool.not_eq_true', Bool.not_eq_false] at hc
    have hrange := isTail_iff.1 hb
    have hspells : Spells [.ofNat (a.toNat % 8 + 0xF0), .ofNat (low b + 0x80),
        .ofNat (low c + 0x80), .ofNat (low d + 0x80)] _ :=
      .four (by omega) (low_lt b) (low_lt c) (low_lt d) (by rw [low]; omega) (by rw [low]; omega)
    rw [← eq_ofNat_low hb, ← eq_ofNat_low hc, ← eq_ofNat_low hd,
      ← eq_ofNat (b := a) (by omega)] at hspells
    exact ⟨_, _, hspells, rfl, rfl⟩

/-! ## Whole texts -/

@[simp] theorem encode_nil : encode [] = [] := rfl

@[simp] theorem encode_cons (c : Char) (cs : List Char) :
    encode (c :: cs) = String.utf8EncodeChar c ++ encode cs := List.flatMap_cons

/-- A byte of ASCII is the character with its number. -/
theorem encodeChar_ofNat {b : UInt8} (h : b.toNat < 0x80) :
    String.utf8EncodeChar (Char.ofNat b.toNat) = [b] := by
  have hspells := (Spells.one h).encodeChar
  rwa [UInt8.ofNat_toNat] at hspells

theorem encode_map_ofNat {bs : List UInt8} (h : ∀ b ∈ bs, b.toNat < 0x80) :
    encode (bs.map fun b ↦ Char.ofNat b.toNat) = bs := by
  induction bs with
  | nil => rfl
  | cons b bs ih =>
    obtain ⟨hb, hbs⟩ := List.forall_mem_cons.1 h
    rw [List.map_cons, encode_cons, encodeChar_ofNat hb, ih hbs, List.singleton_append]

theorem decodeFrom_encode (index : Nat) (cs : List Char) : decodeFrom index (encode cs) = .ok cs := by
  induction cs generalizing index with
  | nil => rw [encode_nil, decodeFrom]
  | cons c cs ih =>
    obtain ⟨a, tail, hbytes, hstep⟩ := (spells_encodeChar c).step_append (encode cs)
    rw [Char.ofNat_toNat] at hstep
    rw [encode_cons, hbytes, List.cons_append, decodeFrom]
    split
    · next hchar =>
      rw [hstep] at hchar
      cases hchar
      rw [ih, Except.map]
    · next hinvalid =>
      rw [hstep] at hinvalid
      cases hinvalid
    · next hincomplete =>
      rw [hstep] at hincomplete
      cases hincomplete

theorem eq_encode_of_decodeFrom {index : Nat} {bytes : List UInt8} {cs : List Char}
    (h : decodeFrom index bytes = .ok cs) : bytes = encode cs := by
  fun_induction decodeFrom index bytes generalizing cs with
  | case1 => cases h; rfl
  | case2 index a rest c n rest' hstep ih =>
    cases hrest : decodeFrom (index + n) rest' with
    | error fault => rw [hrest] at h; cases h
    | ok cs' =>
      rw [hrest] at h
      cases h
      obtain ⟨bytes, n, hspells, rfl, hbytes⟩ := spells_of_step hstep
      rw [hbytes, encode_cons, hspells.encodeChar, ih hrest]
  | case3 => cases h
  | case4 => cases h

/-- **Bytes are read as the text that they are the bytes of**, if there is one. -/
theorem decode_eq_ok_iff {bytes : List UInt8} {cs : List Char} :
    decode bytes = .ok cs ↔ bytes = encode cs :=
  ⟨eq_encode_of_decodeFrom, fun h ↦ h ▸ decodeFrom_encode 0 cs⟩

/-- Different texts have different bytes. -/
theorem encode_injective : Function.Injective encode := fun _ _ h ↦
  Except.ok.inj ((decode_eq_ok_iff.2 rfl).symm.trans (decode_eq_ok_iff.2 h))

end LogSearch.Text.Utf8
