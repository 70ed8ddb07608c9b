/-!
# UTF-8

Texts are lists of characters; where a format counts bytes (base64, percent escapes, offsets) they
pass through UTF-8.

## What is here

* `Utf8.encode`, `Utf8.size` — the bytes of a text and how many they are;
* `Utf8.decode` — the text of a byte sequence, or the first place where none fits: either bytes
  that no character starts with, or a character that the end cuts short;
* `Utf8.decodeLossy` — as `decode`, with a replacement character in place of each fault.
-/

set_option autoImplicit false
namespace LogSearch.Text

/-- Why bytes are not a text. -/
inductive Utf8.Fault
  /-- The `length` bytes at `index` start no character. -/
  | invalid (length index : Nat)
  /-- The bytes from `index` on end inside a character. -/
  | incomplete (index : Nat)
  deriving DecidableEq, Repr

/-- The fault in words. -/
def Utf8.Fault.message : Utf8.Fault → String
  | .invalid length index => s!"invalid utf-8 sequence of {length} bytes from index {index}"
  | .incomplete index => s!"incomplete utf-8 byte sequence from index {index}"

namespace Utf8

/-- The bytes of a text. -/
def encode (cs : List Char) : List UInt8 := cs.flatMap String.utf8EncodeChar

/-- The number of bytes of a text. -/
def size (cs : List Char) : Nat := cs.foldr (fun c n => c.utf8Size + n) 0

@[simp] theorem size_nil : size [] = 0 := rfl

@[simp] theorem size_cons (c : Char) (cs : List Char) : size (c :: cs) = c.utf8Size + size cs :=
  rfl

@[simp] theorem size_append (as bs : List Char) : size (as ++ bs) = size as + size bs := by
  induction as with
  | nil => simp
  | cons a as ih => rw [List.cons_append, size_cons, size_cons, ih, Nat.add_assoc]

/-- Whether a byte continues a character. -/
def isTail (b : UInt8) : Bool := 0x80 ≤ b && b ≤ 0xBF

/-- The second bytes that may follow the first byte `a` of a character of three or four bytes: the
forms that are too long, the surrogates and all above `U+10FFFF` are left out. -/
def isSecond (a b : UInt8) : Bool :=
  if a == 0xE0 then 0xA0 ≤ b && b ≤ 0xBF
  else if a == 0xED then 0x80 ≤ b && b ≤ 0x9F
  else if a == 0xF0 then 0x90 ≤ b && b ≤ 0xBF
  else if a == 0xF4 then 0x80 ≤ b && b ≤ 0x8F
  else isTail b

/-- One step of reading bytes. -/
inductive Step
  /-- A character of `size` bytes, and the bytes after it. -/
  | char (c : Char) (size : Nat) (rest : List UInt8)
  /-- `length` bytes that start no character, and the bytes after them. -/
  | invalid (length : Nat) (rest : List UInt8)
  /-- The end comes inside a character. -/
  | incomplete

/-- The low six bits of a byte. -/
def low (b : UInt8) : Nat := b.toNat % 64

/-- Reads the character that starts with byte `a`. -/
def step (a : UInt8) (rest : List UInt8) : Step :=
  if a < 0x80 then .char (Char.ofNat a.toNat) 1 rest
  else if 0xC2 ≤ a && a ≤ 0xDF then
    match rest with
    | [] => .incomplete
    | b :: rest =>
      if isTail b then .char (Char.ofNat ((a.toNat % 32) * 64 + low b)) 2 rest
      else .invalid 1 (b :: rest)
  else if 0xE0 ≤ a && a ≤ 0xEF then
    match rest with
    | [] => .incomplete
    | b :: rest =>
      if !isSecond a b then .invalid 1 (b :: rest)
      else match rest with
        | [] => .incomplete
        | c :: rest =>
          if isTail c then .char (Char.ofNat ((a.toNat % 16) * 4096 + low b * 64 + low c)) 3 rest
          else .invalid 2 (c :: rest)
  else if 0xF0 ≤ a && a ≤ 0xF4 then
    match rest with
    | [] => .incomplete
    | b :: rest =>
      if !isSecond a b then .invalid 1 (b :: rest)
      else match rest with
        | [] => .incomplete
        | c :: rest =>
          if !isTail c then .invalid 2 (c :: rest)
          else match rest with
            | [] => .incomplete
            | d :: rest =>
              if isTail d then
                .char (Char.ofNat ((a.toNat % 8) * 262144 + low b * 4096 + low c * 64 + low d)) 4
                  rest
              else .invalid 3 (d :: rest)
  else .invalid 1 rest

theorem length_char_lt {a : UInt8} {rest rest' : List UInt8} {c : Char} {n : Nat}
    (h : step a rest = .char c n rest') : rest'.length < (a :: rest).length := by
  unfold step at h
  repeat' split at h
  all_goals simp_all <;> omega

theorem length_invalid_lt {a : UInt8} {rest rest' : List UInt8} {n : Nat}
    (h : step a rest = .invalid n rest') : rest'.length < (a :: rest).length := by
  unfold step at h
  repeat' split at h
  all_goals simp_all <;> omega

/-- The text of bytes that start at `index`, or the first fault. -/
def decodeFrom (index : Nat) : List UInt8 → Except Fault (List Char)
  | [] => .ok []
  | a :: rest =>
    match _h : step a rest with
    | .char c n rest' => (decodeFrom (index + n) rest').map (c :: ·)
    | .invalid n _ => .error (.invalid n index)
    | .incomplete => .error (.incomplete index)
  termination_by bytes => bytes.length
  decreasing_by exact length_char_lt ‹_›

/-- The text that bytes spell. -/
def decode (bytes : List UInt8) : Except Fault (List Char) := decodeFrom 0 bytes

/-- The text that bytes spell, with `U+FFFD` for each fault. -/
def decodeLossy : List UInt8 → List Char
  | [] => []
  | a :: rest =>
    match _h : step a rest with
    | .char c _ rest' => c :: decodeLossy rest'
    | .invalid _ rest' => '\uFFFD' :: decodeLossy rest'
    | .incomplete => ['\uFFFD']
  termination_by bytes => bytes.length
  decreasing_by
  · exact length_char_lt ‹_›
  · exact length_invalid_lt ‹_›

end Utf8

end LogSearch.Text
