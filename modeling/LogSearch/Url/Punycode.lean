/-!
# Punycode

A label of a name that holds characters outside ASCII is sent as a code in letters and digits: the
ASCII characters, a hyphen, and for each other character how far it is from the last one and where
it goes.  Distances are numbers with a variable number of digits in base 36, whose weights adapt to
the distances seen so far.

## What is here

* `Punycode.decode?` — the label a code stands for;
* `Punycode.encode` — the code of a label.
-/

set_option autoImplicit false
namespace LogSearch.Url.Punycode

/-- The value of a digit: letters of either case, then decimal digits. -/
def digitValue? (c : Char) : Option Nat :=
  let n := c.toNat
  if 97 ≤ n && n ≤ 122 then some (n - 97)
  else if 65 ≤ n && n ≤ 90 then some (n - 65)
  else if 48 ≤ n && n ≤ 57 then some (n - 22)
  else none

/-- The least value of a digit in the place `k` that does not end its number. -/
def threshold (k bias : Nat) : Nat :=
  if k ≤ bias then 1 else if bias + 26 ≤ k then 26 else k - bias

/-- Scales a distance down to the range biases are taken from. -/
def scaleDown (delta k : Nat) : Nat × Nat :=
  if 455 < delta then scaleDown (delta / 35) (k + 36) else (delta, k)
  termination_by delta
  decreasing_by exact Nat.div_lt_self (by omega) (by omega)

/-- The bias after a distance, when `points` characters are known. -/
def adapt (delta points : Nat) (first : Bool) : Nat :=
  let delta := if first then delta / 700 else delta / 2
  let (delta, k) := scaleDown (delta + delta / points) 0
  k + 36 * delta / (delta + 38)

/-! ## Reading -/

/-- Numbers are below this bound, and so is the weight of every digit. -/
def bound : Nat := Nat.pow 2 32

/-- Reads one number: adds its digits to `i`, the digit in place `k` with the given weight. -/
def readNumber (bias k weight i : Nat) : List Char → Option (Nat × List Char)
  | [] => none
  | c :: rest =>
    match digitValue? c with
    | none => none
    | some d =>
      let t := threshold k bias
      if bound ≤ i + d * weight then none
      else if d < t then some (i + d * weight, rest)
      else if bound ≤ weight * (36 - t) then none
      else readNumber bias (k + 36) (weight * (36 - t)) (i + d * weight) rest

theorem length_readNumber_lt {bias k weight i n : Nat} {cs rest : List Char}
    (h : readNumber bias k weight i cs = some (n, rest)) : rest.length < cs.length := by
  induction cs generalizing k weight i with
  | nil => simp [readNumber] at h
  | cons c cs ih =>
    rw [readNumber] at h
    split at h
    · cases h
    · simp only at h
      split at h
      · cases h
      · split at h
        · cases h
          simp
        · split at h
          · cases h
          · have := ih h
            simp only [List.length_cons]
            omega

/-- Inserts the characters that numbers describe, the next code point being `n` or more and the next
place `i` or further on. -/
def insertAll (bias n i : Nat) (known : List Char) (cs : List Char) : Option (List Char) :=
  match cs with
  | [] => some known
  | c :: rest =>
    match _h : readNumber bias 36 1 i (c :: rest) with
    | none => none
    | some (j, rest') =>
      let points := known.length + 1
      let code := n + j / points
      if 0x10FFFF < code || (0xD800 ≤ code && code ≤ 0xDFFF) then none
      else
        let place := j % points
        insertAll (adapt (j - i) points (i == 0)) code (place + 1)
          (known.take place ++ Char.ofNat code :: known.drop place) rest'
  termination_by cs.length
  decreasing_by exact length_readNumber_lt ‹_›

/-- The label a code stands for.  The last hyphen ends the ASCII characters, of which there must be
some. -/
def decode? (code : List Char) : Option (List Char) :=
  let backwards := code.reverse
  let tail := (backwards.takeWhile (· != '-')).reverse
  match (backwards.dropWhile (· != '-')).reverse with
  | [] => insertAll 72 128 0 [] tail
  | ['-'] => none
  | known => insertAll 72 128 0 known.dropLast tail

/-! ## Writing -/

/-- The digit with a value below 36. -/
def digit (d : Nat) : Char := Char.ofNat (if d < 26 then 97 + d else 22 + d)

theorem threshold_bounds (k bias : Nat) : 1 ≤ threshold k bias ∧ threshold k bias ≤ 26 := by
  unfold threshold
  split
  · omega
  · split <;> omega

/-- Writes one number, from the digit in place `k` on. -/
def writeNumber (bias k n : Nat) : List Char :=
  let t := threshold k bias
  if n < t then [digit n]
  else digit (t + (n - t) % (36 - t)) :: writeNumber bias (k + 36) ((n - t) / (36 - t))
  termination_by n
  decreasing_by
    have := threshold_bounds k bias
    exact Nat.lt_of_le_of_lt (Nat.div_le_self _ _) (by omega)

/-- A code that is being written. -/
structure Encoder where
  /-- The code so far. -/
  code : List Char
  bias : Nat
  /-- The distance from the last character written. -/
  delta : Nat
  /-- The number of characters written. -/
  points : Nat

/-- Passes a character of the label, writing the one with the code point `point`. -/
def Encoder.pass (known point : Nat) (e : Encoder) (c : Char) : Encoder :=
  if c.toNat < point then { e with delta := e.delta + 1 }
  else if c.toNat = point then
    { code := e.code ++ writeNumber e.bias 36 e.delta
      bias := adapt e.delta (e.points + 1) (e.points == known)
      delta := 0
      points := e.points + 1 }
  else e

/-- Writes all places of each code point; `n` is the least one that was not written. -/
def Encoder.run (label : List Char) (known : Nat) : Nat → Encoder → List Nat → Encoder
  | _, e, [] => e
  | n, e, point :: rest =>
    let e := { e with delta := e.delta + (point - n) * (e.points + 1) }
    let e := label.foldl (Encoder.pass known point) e
    Encoder.run label known (point + 1) { e with delta := e.delta + 1 } rest

/-- The code of a label. -/
def encode (label : List Char) : List Char :=
  let known := label.filter (·.toNat < 0x80)
  let others := (label.filter (0x80 ≤ ·.toNat)).map Char.toNat
  let start : Encoder :=
    ⟨if known.isEmpty then [] else known ++ ['-'], 72, 0, known.length⟩
  (Encoder.run label known.length 128 start (others.mergeSort (· ≤ ·)).eraseDups).code

end LogSearch.Url.Punycode
