import LogSearch.Proofs.Text.Utf8
import LogSearch.Text.Base64

/-!
# Bytes in base64

Three bytes and four symbols are the same number in two radixes.  A last group that is not full is padded,
and what its last symbol holds too much must be zero; so bytes have one spelling, and nothing else is read
(`decode_eq_ok_iff`).

## What is here

* `value?_eq_some_iff` — symbols and their numbers;
* `encode_full`, `encode_pair`, `encode_single` — the bytes that the symbols of one group stand for;
* `decode_eq_ok_iff` — reading and spelling.
-/

set_option autoImplicit false
namespace LogSearch

/-! ## Results in sequence -/

theorem bind_eq_ok_iff {ε α β : Type} {x : Except ε α} {f : α → Except ε β} {b : β} :
    x >>= f = .ok b ↔ ∃ a, x = .ok a ∧ f a = .ok b := by
  cases x with
  | error e => simp [bind, Except.bind]
  | ok a => simp [bind, Except.bind]

theorem mapError_eq_ok_iff {ε ε' α : Type} {x : Except ε α} {f : ε → ε'} {a : α} :
    x.mapError f = .ok a ↔ x = .ok a := by
  cases x with
  | error e => simp [Except.mapError]
  | ok a => simp [Except.mapError]

namespace Text.Base64

/-! ## Symbols -/

theorem value?_symbol {n : Nat} (h : n < 64) : value? (symbol n) = some n := by
  have hall : ∀ n < 64, value? (symbol n) = some n := by decide
  exact hall n h

theorem symbol_ne_pad {n : Nat} (h : n < 64) : (symbol n == pad) = false := by
  have hall : ∀ n < 64, (symbol n == pad) = false := by decide
  exact hall n h

theorem value?_eq_some_iff {b : UInt8} {n : Nat} : value? b = some n ↔ n < 64 ∧ b = symbol n := by
  refine ⟨fun h ↦ ?_, fun ⟨hn, hb⟩ ↦ hb ▸ value?_symbol hn⟩
  have hall : ∀ m < 256, ∀ n ∈ value? (.ofNat m), n < 64 ∧ UInt8.ofNat m = symbol n := by
    decide +kernel
  have hb := hall b.toNat b.toNat_lt n
  rw [UInt8.ofNat_toNat] at hb
  exact hb h

/-! ## Groups -/

section groups

variable {a b c d : Nat} (ha : a < 64) (hb : b < 64) (hc : c < 64) (hd : d < 64)

include ha hb

theorem toNat_first : (UInt8.ofNat (a * 4 + b / 16)).toNat = a * 4 + b / 16 :=
  UInt8.toNat_ofNat_of_lt (show _ < 256 by omega)

theorem encode_single (hlast : b % 16 = 0) :
    encode [.ofNat (a * 4 + b / 16)] = [symbol a, symbol b, pad, pad] := by
  simp only [encode, toNat_first ha hb, show (a * 4 + b / 16) * 16 / 64 = a by omega,
    show (a * 4 + b / 16) * 16 % 64 = b by omega]

include hc

omit ha hb in
theorem toNat_second : (UInt8.ofNat (b % 16 * 16 + c / 4)).toNat = b % 16 * 16 + c / 4 :=
  UInt8.toNat_ofNat_of_lt (show _ < 256 by omega)

theorem encode_pair (hlast : c % 4 = 0) :
    encode [.ofNat (a * 4 + b / 16), .ofNat (b % 16 * 16 + c / 4)]
      = [symbol a, symbol b, symbol c, pad] := by
  have hn : ((a * 4 + b / 16) * 256 + (b % 16 * 16 + c / 4)) * 4 = a * 4096 + b * 64 + c := by omega
  simp only [encode, toNat_first ha hb, toNat_second hc, hn,
    show (a * 4096 + b * 64 + c) / 4096 = a by omega,
    show (a * 4096 + b * 64 + c) / 64 % 64 = b by omega,
    show (a * 4096 + b * 64 + c) % 64 = c by omega]

include hd

theorem encode_full (rest : List UInt8) :
    encode (.ofNat (a * 4 + b / 16) :: .ofNat (b % 16 * 16 + c / 4) :: .ofNat (c % 4 * 64 + d) :: rest)
      = symbol a :: symbol b :: symbol c :: symbol d :: encode rest := by
  have hthird : (UInt8.ofNat (c % 4 * 64 + d)).toNat = c % 4 * 64 + d :=
    UInt8.toNat_ofNat_of_lt (show _ < 256 by omega)
  have hn : (a * 4 + b / 16) * 65536 + (b % 16 * 16 + c / 4) * 256 + (c % 4 * 64 + d)
      = a * 262144 + b * 4096 + c * 64 + d := by omega
  simp only [encode, toNat_first ha hb, toNat_second hc, hthird, hn,
    show (a * 262144 + b * 4096 + c * 64 + d) / 262144 = a by omega,
    show (a * 262144 + b * 4096 + c * 64 + d) / 4096 % 64 = b by omega,
    show (a * 262144 + b * 4096 + c * 64 + d) / 64 % 64 = c by omega,
    show (a * 262144 + b * 4096 + c * 64 + d) % 64 = d by omega]

/-- A group of four symbols holds three bytes. -/
theorem decodeGroups_full (offset : Nat) (rest : List UInt8) :
    decodeGroups offset (symbol a :: symbol b :: symbol c :: symbol d :: rest)
      = (decodeGroups (offset + 4) rest).map fun bytes ↦
          .ofNat (a * 4 + b / 16) :: .ofNat (b % 16 * 16 + c / 4) :: .ofNat (c % 4 * 64 + d) :: bytes := by
  cases rest with
  | nil =>
    simp [decodeGroups, decodeLast, lastSymbols, value?_symbol, symbol_ne_pad, ha, hb, hc, hd,
      Except.map, bind, Except.bind, pure, Except.pure]
  | cons e rest =>
    simp only [decodeGroups, innerValue, value?_symbol ha, value?_symbol hb, value?_symbol hc,
      value?_symbol hd, bind, Except.bind, pure, Except.pure, Except.map]

omit hd in
theorem decodeGroups_pair (offset : Nat) (hlast : c % 4 = 0) :
    decodeGroups offset [symbol a, symbol b, symbol c, pad]
      = .ok [.ofNat (a * 4 + b / 16), .ofNat (b % 16 * 16 + c / 4)] := by
  simp [decodeGroups, decodeLast, lastSymbols, value?_symbol, symbol_ne_pad, ha, hb, hc, hlast,
    Except.map, bind, Except.bind, pure, Except.pure]

omit hc hd in
theorem decodeGroups_single (offset : Nat) (hlast : b % 16 = 0) :
    decodeGroups offset [symbol a, symbol b, pad, pad] = .ok [.ofNat (a * 4 + b / 16)] := by
  simp [decodeGroups, decodeLast, lastSymbols, value?_symbol, symbol_ne_pad, ha, hb, hlast,
    Except.map, bind, Except.bind, pure, Except.pure]

end groups

/-! ## Reading what was spelled -/

/-- Three bytes are four numbers below 64. -/
theorem exists_full (x y z : UInt8) : ∃ a < 64, ∃ b < 64, ∃ c < 64, ∃ d < 64,
    x = .ofNat (a * 4 + b / 16) ∧ y = .ofNat (b % 16 * 16 + c / 4) ∧ z = .ofNat (c % 4 * 64 + d) := by
  have hx := x.toNat_lt
  have hy := y.toNat_lt
  have hz := z.toNat_lt
  refine ⟨x.toNat / 4, by omega, x.toNat % 4 * 16 + y.toNat / 16, by omega,
    y.toNat % 16 * 4 + z.toNat / 64, by omega, z.toNat % 64, by omega, ?_, ?_, ?_⟩ <;>
  exact Utf8.eq_ofNat (by omega)

theorem exists_pair (x y : UInt8) : ∃ a < 64, ∃ b < 64, ∃ c < 64, c % 4 = 0 ∧
    x = .ofNat (a * 4 + b / 16) ∧ y = .ofNat (b % 16 * 16 + c / 4) := by
  have hx := x.toNat_lt
  have hy := y.toNat_lt
  refine ⟨x.toNat / 4, by omega, x.toNat % 4 * 16 + y.toNat / 16, by omega,
    y.toNat % 16 * 4, by omega, by omega, ?_, ?_⟩ <;>
  exact Utf8.eq_ofNat (by omega)

theorem exists_single (x : UInt8) : ∃ a < 64, ∃ b < 64, b % 16 = 0 ∧ x = .ofNat (a * 4 + b / 16) := by
  have hx := x.toNat_lt
  exact ⟨x.toNat / 4, by omega, x.toNat % 4 * 16, by omega, by omega, Utf8.eq_ofNat (by omega)⟩

theorem decodeGroups_encode : ∀ (offset : Nat) (bytes : List UInt8),
    decodeGroups offset (encode bytes) = .ok bytes
  | _, [] => rfl
  | offset, [x] => by
    obtain ⟨a, ha, b, hb, hlast, rfl⟩ := exists_single x
    rw [encode_single ha hb hlast, decodeGroups_single ha hb offset hlast]
  | offset, [x, y] => by
    obtain ⟨a, ha, b, hb, c, hc, hlast, rfl, rfl⟩ := exists_pair x y
    rw [encode_pair ha hb hc hlast, decodeGroups_pair ha hb hc offset hlast]
  | offset, x :: y :: z :: rest => by
    obtain ⟨a, ha, b, hb, c, hc, d, hd, rfl, rfl, rfl⟩ := exists_full x y z
    rw [encode_full ha hb hc hd, decodeGroups_full ha hb hc hd, decodeGroups_encode (offset + 4) rest,
      Except.map]

theorem length_encode : ∀ bytes : List UInt8, (encode bytes).length % 4 = 0
  | [] => rfl
  | [_] => by simp [encode]
  | [_, _] => by simp [encode]
  | _ :: _ :: _ :: rest => by
    have hrest := length_encode rest
    simp only [encode, List.length_cons]
    omega

/-! ## What can be read -/

theorem innerValue_eq_ok_iff {b : UInt8} {offset n : Nat} :
    innerValue b offset = .ok n ↔ n < 64 ∧ b = symbol n := by
  rw [← value?_eq_some_iff, innerValue]
  cases value? b <;> simp

/-- The last group is symbols with padding behind them. -/
theorem lastSymbols_eq_ok {offset place : Nat} {group : List UInt8} {found : List (UInt8 × Nat)}
    (h : lastSymbols offset place group = .ok found) :
    ∃ numbers : List Nat, (∀ n ∈ numbers, n < 64) ∧ found = numbers.map (fun n ↦ (symbol n, n)) ∧
      ∃ k, group = numbers.map symbol ++ List.replicate k pad := by
  induction group generalizing place found with
  | nil =>
    cases h
    exact ⟨[], List.forall_mem_nil _, rfl, 0, rfl⟩
  | cons b rest ih =>
    rw [lastSymbols] at h
    split at h
    · next hpad =>
      split at h
      · cases h
      · split at h
        · next hall =>
          cases h
          have hrest : rest = List.replicate rest.length pad :=
            List.eq_replicate_of_mem fun b hb ↦ beq_iff_eq.1 (List.all_eq_true.1 hall b hb)
          refine ⟨[], List.forall_mem_nil _, rfl, rest.length + 1, ?_⟩
          rw [beq_iff_eq.1 hpad, List.replicate_succ, ← hrest]
          rfl
        · cases h
    · split at h
      · cases h
      · next n hn =>
        cases hmore : lastSymbols offset (place + 1) rest with
        | error fault => rw [hmore] at h; cases h
        | ok more =>
          rw [hmore] at h
          cases h
          obtain ⟨hlt, rfl⟩ := value?_eq_some_iff.1 hn
          obtain ⟨numbers, hnumbers, rfl, k, rfl⟩ := ih hmore
          exact ⟨n :: numbers, List.forall_mem_cons.2 ⟨hlt, hnumbers⟩, rfl, k, rfl⟩

theorem eq_encode_of_decodeLast {offset : Nat} {group bytes : List UInt8} (hgroup : group.length ≤ 4)
    (h : decodeLast offset group = .ok bytes) : group = encode bytes := by
  rw [decodeLast] at h
  split at h
  · next hempty =>
    cases h
    exact List.isEmpty_iff.1 hempty
  · cases hfound : lastSymbols offset 0 group with
    | error fault => rw [hfound] at h; cases h
    | ok found =>
      obtain ⟨numbers, hnumbers, rfl, k, rfl⟩ := lastSymbols_eq_ok hfound
      rw [hfound] at h
      rcases numbers with _ | ⟨a, _ | ⟨b, _ | ⟨c, _ | ⟨d, _ | ⟨e, rest⟩⟩⟩⟩⟩
      · cases h
      · cases h
      · simp only [List.map_cons, List.map_nil, bind, Except.bind, pure, Except.pure] at h
        split at h
        · cases h
        · next hlength =>
          split at h
          · cases h
          · next hlast =>
            cases h
            obtain rfl : k = 2 := by simpa using hlength
            simp only [List.forall_mem_cons] at hnumbers
            exact (encode_single hnumbers.1 hnumbers.2.1 (by simpa using hlast)).symm
      · simp only [List.map_cons, List.map_nil, bind, Except.bind, pure, Except.pure] at h
        split at h
        · cases h
        · next hlength =>
          split at h
          · cases h
          · next hlast =>
            cases h
            obtain rfl : k = 1 := by simpa using hlength
            simp only [List.forall_mem_cons] at hnumbers
            exact (encode_pair hnumbers.1 hnumbers.2.1 hnumbers.2.2.1 (by simpa using hlast)).symm
      · cases h
        obtain rfl : k = 0 := by
          simp only [List.length_append, List.length_map, List.length_cons, List.length_nil,
            List.length_replicate] at hgroup
          omega
        simp only [List.forall_mem_cons] at hnumbers
        exact (encode_full hnumbers.1 hnumbers.2.1 hnumbers.2.2.1 hnumbers.2.2.2.1 []).symm
      · cases h

theorem eq_encode_of_decodeGroups {offset : Nat} {symbols bytes : List UInt8}
    (h : decodeGroups offset symbols = .ok bytes) : symbols = encode bytes := by
  fun_induction decodeGroups offset symbols generalizing bytes with
  | case1 offset a b c d e rest ih =>
    simp only [bind_eq_ok_iff, innerValue_eq_ok_iff] at h
    obtain ⟨a, ⟨ha, rfl⟩, b, ⟨hb, rfl⟩, c, ⟨hc, rfl⟩, d, ⟨hd, rfl⟩, tail, htail, hbytes⟩ := h
    cases hbytes
    rw [encode_full ha hb hc hd, ih htail]
  | case2 offset group hgroup =>
    refine eq_encode_of_decodeLast ?_ h
    rcases group with _ | ⟨a, _ | ⟨b, _ | ⟨c, _ | ⟨d, _ | ⟨e, rest⟩⟩⟩⟩⟩
    · simp
    · simp
    · simp
    · simp
    · simp
    · exact absurd rfl (hgroup _ _ _ _ _ _)

/-- **Bytes have one spelling, and nothing else is read.** -/
theorem decode_eq_ok_iff {symbols bytes : List UInt8} :
    decode symbols = .ok bytes ↔ symbols = encode bytes := by
  constructor
  · intro h
    unfold decode at h
    split at h
    · split at h
      · cases h
      · exact eq_encode_of_decodeGroups h
    · next hnone =>
      cases h
      exact List.getLast?_eq_none_iff.1 hnone
  · rintro rfl
    unfold decode
    split
    · next b hlast =>
      rw [length_encode, if_neg (by simp)]
      exact decodeGroups_encode 0 bytes
    · next hnone =>
      have hgroups := decodeGroups_encode 0 bytes
      rwa [List.getLast?_eq_none_iff.1 hnone] at hgroups

/-! ## Spellings as texts -/

/-- What base64 is spelled with: symbols and padding, which are all printed characters of ASCII. -/
def isSpelling (b : UInt8) : Bool := (value? b).isSome || b == pad

theorem isSpelling_symbol {n : Nat} (h : n < 64) : isSpelling (symbol n) = true := by
  rw [isSpelling, value?_symbol h]
  rfl

theorem isSpelling_of_mem_encode : ∀ {bytes : List UInt8}, ∀ b ∈ encode bytes, isSpelling b = true
  | [], _, h => absurd h List.not_mem_nil
  | [x], b, h => by
    obtain ⟨n, hn, m, hm, hlast, rfl⟩ := exists_single x
    rw [encode_single hn hm hlast] at h
    revert b
    simp [isSpelling_symbol, hn, hm, show isSpelling pad = true from rfl]
  | [x, y], b, h => by
    obtain ⟨n, hn, m, hm, l, hl, hlast, rfl, rfl⟩ := exists_pair x y
    rw [encode_pair hn hm hl hlast] at h
    revert b
    simp [isSpelling_symbol, hn, hm, hl, show isSpelling pad = true from rfl]
  | x :: y :: z :: rest, b, h => by
    obtain ⟨n, hn, m, hm, l, hl, k, hk, rfl, rfl, rfl⟩ := exists_full x y z
    have hrest := @isSpelling_of_mem_encode rest
    rw [encode_full hn hm hl hk] at h
    revert b
    simpa [isSpelling_symbol, hn, hm, hl, hk] using hrest

/-- The characters of a spelling are visible. -/
theorem isSpelling_visible {b : UInt8} (h : isSpelling b = true) : 0x20 < b.toNat ∧ b.toNat < 0x7F := by
  have hall : ∀ n < 256, isSpelling (.ofNat n) = true → 0x20 < n ∧ n < 0x7F := by decide +kernel
  exact hall b.toNat b.toNat_lt (UInt8.ofNat_toNat.symm ▸ h)

/-- The bytes of a spelled text are the symbols of its bytes. -/
theorem encode_encodeText (text : String) :
    Utf8.encode (encodeText text).toList = encode (Utf8.encode text.toList) := by
  rw [encodeText, String.toList_ofList]
  refine Utf8.encode_map_ofNat fun b hb ↦ ?_
  have := isSpelling_visible (isSpelling_of_mem_encode b hb)
  omega

/-- A text is spelled in just one way, and read back from it. -/
theorem decode_text_eq_ok_iff {spelled : List Char} {text : String} :
    decode (Utf8.encode spelled) = .ok (Utf8.encode text.toList) ↔ spelled = (encodeText text).toList := by
  rw [decode_eq_ok_iff, ← encode_encodeText]
  exact Utf8.encode_injective.eq_iff

/-- Different texts are spelled differently. -/
theorem encodeText_injective : Function.Injective encodeText := by
  intro text text' h
  have hbytes := decode_text_eq_ok_iff.2 (congrArg String.toList h)
  rw [decode_text_eq_ok_iff.2 rfl] at hbytes
  exact String.toList_inj.1 (Utf8.encode_injective (Except.ok.inj hbytes))

end Text.Base64

end LogSearch
