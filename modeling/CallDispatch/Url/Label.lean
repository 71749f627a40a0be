import CallDispatch.Text.Hidden
import CallDispatch.Url.Direction
import CallDispatch.Url.Joiner
import CallDispatch.Url.Punycode
import CallDispatch.Url.Replacement

/-!
# Labels of domain names

A label is a part of a domain name between points. A name is compared and sent in ASCII. For that
its characters are replaced by those that stand for them and composed, and a label with characters
outside ASCII is written as `xn--` and ASCII characters that describe it; it may be given in this
form already. What such a label stands for must need this way of writing, have only characters that
stand in domain names unchanged, start neither with a mark nor with `xn--`, be composed, and have
joiners only where they have an effect. The labels of one name must agree in their directions.

## Main definitions

* `Label.text?`: the text that a label stands for.
* `Label.asciiName?`: the ASCII form of a domain name.
-/

namespace CallDispatch.Url.Label

open Text

/-- First and last number of every run of characters with a shape that do not stand in domain names
and are not replaced by others. -/
def refusedRanges : List (Nat × Nat) := [
  (0x2024, 0x2026), (0x2488, 0x249B), (0x2FF0, 0x2FFF), (0x31EF, 0x31EF), (0x33C2, 0x33C2),
  (0x33C7, 0x33C7), (0x33D8, 0x33D8), (0xFE12, 0xFE12), (0xFE19, 0xFE19), (0xFE30, 0xFE30),
  (0xFE52, 0xFE52), (0xFFFC, 0xFFFD), (0x1F100, 0x1F100)]

/-- Whether the character has a shape and does not stand in domain names. -/
def isRefused (c : Char) : Bool :=
  refusedRanges.any fun (first, last) => first ≤ c.toNat && c.toNat ≤ last

/-- Signs that stand in names although they have no other properties yet. -/
def newcomers : List Nat := [
  0x208F, 0x20C2, 0x20C3]

/-- Whether the character stands in names unchanged. -/
def isLasting (c : Char) : Bool :=
  c.toNat < 128 || Joiner.isJoiner c || newcomers.contains c.toNat ||
    !(isShapeless c || isRefused c || Replacement.replaced c != [c])

/-- What a label written in ASCII for other characters starts with. -/
def sign : List Char :=
  ['x', 'n', '-', '-']

/-- Whether a text may be written in ASCII as a label. -/
def isForeign (text : List Char) : Bool :=
  text.any (128 ≤ ·.toNat) && !(text.head?.any isMark) && !(sign.isPrefixOf text) &&
    text.all isLasting && Joiner.haveEffect [] text && Composition.isComposed text

/-- The most characters that are read behind the sign. -/
def longest : Nat := 2000

/-- The most characters of a label that is not in ASCII. -/
def longestForeign : Nat := 1000

/-- Whether the label is in ASCII. -/
def isAscii (label : List Char) : Bool :=
  label.all (·.toNat < 128)

/-- The text that a label stands for, whose characters have been replaced: itself if it does not
start with the sign. -/
def text? (label : List Char) : Option (List Char) :=
  let written := label.drop sign.length
  if ¬ isAscii label then
    if isForeign label ∧ label.length ≤ longestForeign then some label else none
  else if ¬ sign.isPrefixOf label then some label
  else if longest < written.length then none
  else (Punycode.decode written).filter isForeign

/-- The ASCII form of a label. -/
def ascii (label : List Char) : List Char :=
  if isAscii label then label else sign ++ Punycode.encode label

/-- The name with its characters replaced and composed. -/
def normalized (name : List Char) : List Char :=
  let replaced := name.flatMap Replacement.replaced
  if isAscii replaced then replaced else Composition.composed replaced

/-- The ASCII form of a domain name, if its labels may stand together. -/
def asciiName? (name : List Char) : Option (List Char) :=
  let labels := pieces '.' (normalized name)
  if (labels.mapM text?).any Direction.agree then some (['.'].intercalate (labels.map ascii))
  else none

end CallDispatch.Url.Label
