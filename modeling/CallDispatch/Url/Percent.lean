import CallDispatch.Text.FormEncoding

/-!
# Percent-encoding in URLs

Each part of a URL has its own set of ASCII characters that may not stand for themselves in it;
control characters and everything outside ASCII are encoded in every part.
-/

namespace CallDispatch.Url

open Text

/-- The parts of a URL that differ in what is encoded. -/
inductive Part
  | plainText
  | fragment
  | path
  | userInfo
  | query
  | specialQuery
deriving DecidableEq

/-- The printable ASCII characters that are encoded in a part. -/
def Part.reserved : Part → List Char
  | .plainText => []
  | .fragment => [' ', '"', '<', '>', '\x60']
  | .path => [' ', '"', '<', '>', '\x60', '#', '?', '\x7b', '\x7d']
  | .userInfo => [' ', '"', '<', '>', '\x60', '#', '?', '\x7b', '\x7d', '/', ':', ';', '=', '@',
      '[', '\\', ']', '^', '|']
  | .query => [' ', '"', '#', '<', '>']
  | .specialQuery => [' ', '"', '#', '<', '>', '\'']

/-- Whether the character is encoded in the part. -/
def Part.encodes (part : Part) (c : Char) : Bool :=
  c.toNat < 0x20 || 0x7F ≤ c.toNat || part.reserved.contains c

/-- The characters of a part with those encoded that may not stand for themselves. -/
def encode (part : Part) (cs : List Char) : List Char :=
  cs.flatMap fun c =>
    if part.encodes c then (utf8Bytes (String.ofList [c])).flatMap percentByte else [c]

/-- Decodes `%XX` behind the bytes `seen`, which are in reverse; a percent sign without two
hexadecimal digits stands for itself. -/
def decodeFrom (seen : Bytes) : Bytes → Bytes
  | [] => seen.reverse
  | [a] => (a :: seen).reverse
  | [a, b] => (b :: a :: seen).reverse
  | a :: b :: c :: rest =>
    match (if a = 0x25 then
        hexNumber [Char.ofNat b.toNat, Char.ofNat c.toNat] else none) with
    | some value => decodeFrom (UInt8.ofNat value :: seen) rest
    | none => decodeFrom (a :: seen) (b :: c :: rest)

/-- The bytes a text stands for once every `%XX` is replaced by its byte. -/
def decode (cs : List Char) : Bytes :=
  decodeFrom [] (utf8Bytes (String.ofList cs))

end CallDispatch.Url
