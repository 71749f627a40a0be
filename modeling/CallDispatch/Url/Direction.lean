import CallDispatch.Text.Mark

/-!
# Directions in domain names

Hebrew, Arabic and other scripts are written from right to left. A name with characters of such a
script is shown unambiguously only if each of its labels keeps to one direction: it starts with a
letter, ends with a letter or digit of the same direction, and no letter of the other direction
stands in it. Digits have two kinds, and a label from right to left has digits of one kind only.

## Main definitions

* `Direction.ofChar`: how a character takes part.
* `Direction.isOrdered`: whether a label keeps to one direction.
* `Direction.agree`: whether the labels of a name may stand together.
-/

namespace CallDispatch.Url

open Text

/-- How a character takes part in the direction of a text. -/
inductive Direction
  | leftToRight
  | rightToLeft
  | digit
  | arabicDigit
  | mark
  | neutral
deriving DecidableEq

namespace Direction

/-! ## Characters -/

/-- First and last number of every run of digits that are written as European ones. -/
def digitRanges : List (Nat × Nat) := [
  (0x6F0, 0x6F9), (0x102E1, 0x102FB)]

/-- First and last number of every run of digits and signs that are written as Arabic ones. -/
def arabicDigitRanges : List (Nat × Nat) := [
  (0x660, 0x669), (0x66B, 0x66C), (0x10D30, 0x10D39), (0x10E60, 0x10E7E)]

/-- The marks without a place of their own that are written from left to right like letters. -/
def writtenMarks : List Nat := [
  0xCBF, 0xCC6, 0x11A07, 0x11A08, 0x11C3F]

/-- First and last number of every run of characters that are written from right to left. The runs
go through marks, digits, and characters that do not stand in names. -/
def rightToLeftRanges : List (Nat × Nat) := [
  (0x5BE, 0x5F4), (0x608, 0x608), (0x60B, 0x60B), (0x60D, 0x60D), (0x61B, 0x64A), (0x66D, 0x6D5),
  (0x6E5, 0x6E6), (0x6EE, 0x7F5), (0x7FA, 0x8C9), (0xFBB2, 0xFBC2), (0xFE73, 0xFE73),
  (0x10800, 0x1091B), (0x10920, 0x10B35), (0x10B40, 0x10D4F), (0x10D6F, 0x10EC7),
  (0x10F00, 0x10FF6), (0x1E800, 0x1ED3D)]

/-- First and last number of every run of characters that have no direction. The runs go through
characters that have one by the other tables, and through those that do not stand in names. -/
def neutralRanges : List (Nat × Nat) := [
  (0xA1, 0xD7), (0xF7, 0xF7), (0x2B9, 0x2BA), (0x2C2, 0x2CF), (0x2D2, 0x2ED), (0x2EF, 0x2FF),
  (0x375, 0x375), (0x3F6, 0x3F6), (0x58A, 0x7F9), (0x9F2, 0x9F3), (0x9FB, 0x9FB), (0xAF1, 0xAF1),
  (0xBF3, 0xBFA), (0xC78, 0xC7E), (0xE3F, 0xE3F), (0xF3A, 0xF3D), (0x1390, 0x1399),
  (0x1400, 0x1400), (0x169B, 0x169C), (0x17DB, 0x17DB), (0x17F0, 0x180A), (0x1940, 0x1945),
  (0x19DE, 0x19FF), (0x200C, 0x214D), (0x218A, 0x2335), (0x237B, 0x2394), (0x2396, 0x26AB),
  (0x26AD, 0x27FF), (0x2900, 0x2BFF), (0x2CE5, 0x2CEA), (0x2CF9, 0x2CFF), (0x2E00, 0x3004),
  (0x3008, 0x3020), (0x3030, 0x3030), (0x3037, 0x3037), (0x303D, 0x303F), (0x30A0, 0x30A0),
  (0x30FB, 0x30FB), (0x31C0, 0x31E5), (0x4DC0, 0x4DFF), (0xA490, 0xA4C6), (0xA60D, 0xA60F),
  (0xA673, 0xA67F), (0xA700, 0xA721), (0xA788, 0xA788), (0xA828, 0xA82B), (0xA838, 0xA839),
  (0xA874, 0xA877), (0xAB6A, 0xAB6B), (0xFBC3, 0xFE46), (0x10101, 0x10101), (0x10140, 0x1018C),
  (0x10190, 0x101A0), (0x1091F, 0x10ED8), (0x11052, 0x11065), (0x11660, 0x1166C),
  (0x11FD5, 0x11FF1), (0x16FE2, 0x16FE2), (0x1CC00, 0x1CEF0), (0x1D1E9, 0x1D245),
  (0x1D300, 0x1D356), (0x1E2FF, 0x1E2FF), (0x1EEF0, 0x1F12F), (0x1F16D, 0x1F16F),
  (0x1F1AD, 0x1F1AD), (0x1F260, 0x1FBFA)]

/-- How a character outside ASCII takes part. -/
def ofForeign (c : Char) : Direction :=
  let isIn : List (Nat × Nat) → Bool := fun ranges =>
    ranges.any fun (first, last) => first ≤ c.toNat && c.toNat ≤ last
  if isNonspacingMark c && !writtenMarks.contains c.toNat then .mark
  else if isIn digitRanges then .digit
  else if isIn arabicDigitRanges then .arabicDigit
  else if isIn rightToLeftRanges then .rightToLeft
  else if isIn neutralRanges then .neutral
  else .leftToRight

/-- How a character takes part. -/
def ofChar (c : Char) : Direction :=
  if c.isAlpha then .leftToRight
  else if c.isDigit then .digit
  else if c.toNat < 128 then .neutral
  else ofForeign c

/-! ## Labels -/

/-- Whether the character makes a name one with two directions. -/
def isBackward (direction : Direction) : Bool :=
  direction == rightToLeft || direction == arabicDigit

/-- Whether a label keeps to the direction of its first character; the empty label does. -/
def isOrdered (label : List Direction) : Bool :=
  let last := (label.reverse.dropWhile (· == mark)).head?
  match label.head? with
  | none => true
  | some leftToRight => !(label.any isBackward) && [some leftToRight, some digit].contains last
  | some rightToLeft =>
    !label.contains leftToRight && last != some neutral &&
      !(label.contains digit && label.contains arabicDigit)
  | _ => false

/-- Whether the labels of a name may stand together: without backward characters all may. -/
def agree (labels : List (List Char)) : Bool :=
  let directions := labels.map (·.map ofChar)
  !(directions.any (·.any isBackward)) || directions.all isOrdered

end Direction

end CallDispatch.Url
