import LogSearch.Json.Fault
import LogSearch.Text.Percent

/-!
# Reading string literals

A string literal holds characters other than control characters, and escapes: single letters and
`\u` with four hexadecimal digits, two of them for a character outside the first plane.

## What is here

* `readString` — the text of a literal whose opening quote has been read, and what follows it;
* `skipString` — what follows a literal that nobody wants, which may then hold unpaired surrogates;
* `decodeLiteral` — a text that is one literal and nothing else.
-/

set_option autoImplicit false
namespace LogSearch.Json

/-- A problem in front of the unread text. -/
def stop {α : Type} (cause : Cause) (unread : List Char) : Except Stop α :=
  .error ⟨cause, unread, 0⟩

/-- A problem with the next byte, which counts as read. -/
def stopAtNext {α : Type} (cause : Cause) (unread : List Char) : Except Stop α :=
  .error ⟨cause, unread, 1⟩

/-- The number that four hexadecimal digits spell; four bytes are looked at, whatever they are. -/
def readHex (cs : List Char) : Except Stop (Nat × List Char) :=
  match cs with
  | a :: b :: c :: d :: rest =>
    match Text.hexValue? a, Text.hexValue? b, Text.hexValue? c, Text.hexValue? d with
    | some a, some b, some c, some d => .ok (((a * 16 + b) * 16 + c) * 16 + d, rest)
    | _, _, _, _ => .error ⟨.invalidEscape, cs, 4⟩
  | _ => if Text.Utf8.size cs < 4 then stop .endInString [] else .error ⟨.invalidEscape, cs, 4⟩

/-- The character of a surrogate pair. -/
def pairedChar (high low : Nat) : Char :=
  Char.ofNat (0x10000 + (high - 0xD800) * 0x400 + (low - 0xDC00))

/-- The character that `\u` escapes stand for, the first `\u` read. -/
def readUnicode (cs : List Char) : Except Stop (Char × List Char) := do
  let (high, rest) ← readHex cs
  if 0xDC00 ≤ high && high ≤ 0xDFFF then stop .loneSurrogate rest
  else if high < 0xD800 || 0xDBFF < high then return (Char.ofNat high, rest)
  else
    match rest with
    | [] => stop .endInString []
    | '\\' :: [] => stop .endInString []
    | '\\' :: 'u' :: rest =>
      let (low, rest) ← readHex rest
      if low < 0xDC00 || 0xDFFF < low then stop .loneSurrogate rest
      else return (pairedChar high low, rest)
    | '\\' :: rest => stopAtNext .brokenSurrogatePair rest
    | rest => stopAtNext .brokenSurrogatePair rest

/-- The character that an escape stands for, its backslash read. -/
def readEscape (cs : List Char) : Except Stop (Char × List Char) :=
  match cs with
  | [] => stop .endInString []
  | '"' :: rest => .ok ('"', rest)
  | '\\' :: rest => .ok ('\\', rest)
  | '/' :: rest => .ok ('/', rest)
  | 'b' :: rest => .ok ('\x08', rest)
  | 'f' :: rest => .ok ('\x0c', rest)
  | 'n' :: rest => .ok ('\n', rest)
  | 'r' :: rest => .ok ('\r', rest)
  | 't' :: rest => .ok ('\t', rest)
  | 'u' :: rest => readUnicode rest
  | cs => stopAtNext .invalidEscape cs

theorem length_readHex_lt {cs rest : List Char} {n : Nat} (h : readHex cs = .ok (n, rest)) :
    rest.length < cs.length := by
  unfold readHex stop at h
  repeat' split at h
  all_goals simp_all <;> omega

theorem length_readUnicode_lt {cs rest : List Char} {c : Char}
    (h : readUnicode cs = .ok (c, rest)) : rest.length < cs.length := by
  unfold readUnicode at h
  cases h1 : readHex cs with
  | error e => simp [h1, bind, Except.bind] at h
  | ok p =>
    obtain ⟨high, mid⟩ := p
    have hlt := length_readHex_lt h1
    simp only [h1, bind, Except.bind, pure, Except.pure, stop, stopAtNext] at h
    split at h
    · cases h
    · split at h
      · simp only [Except.ok.injEq, Prod.mk.injEq] at h
        obtain ⟨-, rfl⟩ := h
        exact hlt
      · split at h
        · cases h
        · cases h
        · rename_i tail
          cases h2 : readHex tail with
          | error e => simp [h2] at h
          | ok q =>
            have hlt2 := @length_readHex_lt tail q.2 q.1 h2
            simp only [h2] at h
            split at h
            · cases h
            · simp only [Except.ok.injEq, Prod.mk.injEq] at h
              obtain ⟨-, rfl⟩ := h
              simp only [List.length_cons] at hlt
              omega
        · cases h
        · cases h

theorem length_readEscape_lt {cs rest : List Char} {c : Char}
    (h : readEscape cs = .ok (c, rest)) : rest.length < cs.length := by
  unfold readEscape stop stopAtNext at h
  split at h
  case h_10 =>
    have := length_readUnicode_lt h
    simp only [List.length_cons]
    omega
  all_goals cases h
  all_goals exact Nat.lt_succ_self _

/-- The text of a literal up to its closing quote, and what follows the quote. -/
def readString (cs : List Char) : Except Stop (List Char × List Char) :=
  match cs with
  | [] => stop .endInString []
  | '"' :: rest => .ok ([], rest)
  | '\\' :: rest =>
    match _h : readEscape rest with
    | .error e => .error e
    | .ok (c, rest') => (readString rest').map fun (text, rest) => (c :: text, rest)
  | c :: rest =>
    if c.toNat < 0x20 then stop .controlCharacter rest
    else (readString rest).map fun (text, rest) => (c :: text, rest)
  termination_by cs.length
  decreasing_by
  · have := length_readEscape_lt ‹_›
    simp only [List.length_cons]
    omega
  · simp

/-- What follows an escape that nobody wants, its backslash read. -/
def skipEscape (cs : List Char) : Except Stop (List Char) :=
  match cs with
  | [] => stop .endInString []
  | 'u' :: rest => (readHex rest).map (·.2)
  | c :: rest =>
    if c ∈ ['"', '\\', '/', 'b', 'f', 'n', 'r', 't'] then .ok rest
    else stopAtNext .invalidEscape cs

theorem length_skipEscape_lt {cs rest : List Char} (h : skipEscape cs = .ok rest) :
    rest.length < cs.length := by
  unfold skipEscape at h
  split at h
  · cases h
  · rename_i tail
    cases h1 : readHex tail with
    | error e => simp [h1, Except.map] at h
    | ok q =>
      have := @length_readHex_lt tail q.2 q.1 h1
      simp only [h1, Except.map, Except.ok.injEq] at h
      subst h
      simp only [List.length_cons]
      omega
  · split at h
    · simp_all
    · cases h

/-- What follows a literal whose opening quote has been read. -/
def skipString (cs : List Char) : Except Stop (List Char) :=
  match cs with
  | [] => stop .endInString []
  | '"' :: rest => .ok rest
  | '\\' :: rest =>
    match _h : skipEscape rest with
    | .error e => .error e
    | .ok rest' => skipString rest'
  | c :: rest => if c.toNat < 0x20 then stop .controlCharacter cs else skipString rest
  termination_by cs.length
  decreasing_by
  · have := length_skipEscape_lt ‹_›
    simp only [List.length_cons]
    omega
  · simp

/-- The text of a literal, its quotes included, behind which nothing may stand. -/
def decodeLiteral (cs : List Char) : Except Fault (List Char) :=
  let result : Except Stop (List Char) :=
    match cs with
    | '"' :: rest =>
      match readString rest with
      | .ok (text, []) => .ok text
      | .ok (_, rest) => stopAtNext .trailingCharacters rest
      | .error e => .error e
    | cs => stopAtNext .valueDue cs
  result.mapError (·.locate cs)

end LogSearch.Json
