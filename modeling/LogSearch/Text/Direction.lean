import LogSearch.Text.Mark

/-!
# Directions of writing

Some scripts are written from right to left, and the digits of numbers from left to right in all of
them.  Signs that belong to no script go with their neighbours.

## What is here

* `Direction` and `direction` — the direction a character is written in, for the characters that
  names on the network are made of.
-/

set_option autoImplicit false
namespace LogSearch.Text

/-- The direction a character is written in. -/
inductive Direction
  | leftToRight
  | rightToLeft
  /-- A digit of the kind that is used in all scripts. -/
  | europeanNumber
  /-- A digit of the kind that is used in scripts from right to left. -/
  | arabicNumber
  /-- The direction of its neighbours. -/
  | neutral
  /-- The direction of the character a mark belongs to. -/
  | ofBase
  deriving DecidableEq, Repr

/-- Letters and signs of scripts from right to left. -/
def rightToLeftLetters : CodePoints := .ofRows [
  "5BE-5F4 608 60B 60D 61B-64A 66D-6D5 6E5-6E6 6EE-6EF 6FA-7F5 7FA-8C9 FBB2-FBC2 FE73 10800-1091B",
  "10920-10B35 10B40-10D23 10D4A-10D4F 10D6F-10D8F 10E80-10ED0 10F00-10FF6 1E800-1ED3D"]

/-- Digits and their separators in scripts from right to left. -/
def arabicNumbers : CodePoints := .ofRows [
  "660-669 66B-66C 10D30-10D49 10E60-10E7E"]

/-- Digits in all scripts. -/
def europeanNumbers : CodePoints := .ofRows [
  "30-39 6F0-6F9 102E1-102FB"]

/-- Signs that go with their neighbours. -/
def neutralSigns : CodePoints := .ofRows [
  "0-2F 3A-60 7B-D7 F7 2B9-2BA 2C2-2CF 2D2-2ED 2EF-2FF 375 3F6 58A-58F 606-607 609-60A 60C 60E-60F",
  "66A 6DE 6E9 7F6-7F9 9F2-9F3 9FB AF1 BF3-BFA C78-C7E E3F F3A-F3D 1390-1399 1400 169B-169C 17DB",
  "17F0-180A 1940-1945 19DE-19FF 200C-214D 218A-2335 237B-2394 2396-26AB 26AD-27FF 2900-2BFF",
  "2CE5-2CEA 2CF9-2CFF 2E00-3004 3008-3020 3030 3037 303D-303F 30A0 30FB 31C0-31E5 4DC0-4DFF",
  "A490-A4C6 A60D-A60F A673-A67F A700-A721 A788 A828-A82B A838-A839 A874-A877 AB6A-AB6B FBC3-FE46",
  "10101 10140-1018C 10190-101A0 1091F 10B39-10B3F 10D6E 10ED1-10ED8 11052-11065 11660-1166C",
  "11FD5-11FF1 16FE2 1CC00-1CEF0 1D1E9-1D245 1D300-1D356 1E2FF 1EEF0-1F12F 1F16D-1F16F 1F1AD",
  "1F260-1FBFA"]

/-- Marks that count as letters, though they take no room. -/
def letterMarks : CodePoints := .ofRows ["CBF CC6 11A07-11A08 11C3F"]

/-- The direction a character is written in. -/
def direction (c : Char) : Direction :=
  if isNonspacing c && !letterMarks.contains c then .ofBase
  else if rightToLeftLetters.contains c then .rightToLeft
  else if arabicNumbers.contains c then .arabicNumber
  else if europeanNumbers.contains c then .europeanNumber
  else if neutralSigns.contains c then .neutral
  else .leftToRight

/-- Whether a character makes the text it stands in one that is written from right to left. -/
def turnsText (c : Char) : Bool :=
  0x590 ≤ c.toNat && (direction c == .rightToLeft || direction c == .arabicNumber)

end LogSearch.Text
