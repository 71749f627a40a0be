import CallDispatch.Url.Basic
import CallDispatch.Url.Label
import CallDispatch.Url.Percent

/-!
# Hosts of URLs

The host of a URL with a special scheme is a domain name, an IPv4 address or an IPv6 address in
brackets. A name is read in its ASCII form (`Label.asciiName?`). One whose last label looks like a
number must be an IPv4 address, whose parts may be decimal, octal or hexadecimal and the last of
which fills the remaining octets. With other schemes the host is any text without delimiters.
-/

namespace CallDispatch.Url

open Text

/-- Why a text is not a URL. -/
inductive ParseError
  | relativeWithoutBase
  | emptyHost
  | invalidPort
  | invalidIpv6
  | invalidIpv4
  | invalidName
  | invalidHostCharacter
deriving DecidableEq

/-- The wording of a parse error. -/
def ParseError.message : ParseError → String
  | relativeWithoutBase => "relative URL without a base"
  | emptyHost => "empty host"
  | invalidPort => "invalid port number"
  | invalidIpv6 => "invalid IPv6 address"
  | invalidIpv4 => "invalid IPv4 address"
  | invalidName => "invalid international domain name"
  | invalidHostCharacter => "invalid domain character"

namespace Host

/-! ## Numbers in IPv4 addresses -/

/-- The digits of a number and its base: `0x` starts a hexadecimal and `0` an octal number. -/
def numberBase : List Char → Nat × List Char
  | '0' :: 'x' :: digits => (16, digits)
  | '0' :: 'X' :: digits => (16, digits)
  | '0' :: d :: digits => (8, d :: digits)
  | digits => (10, digits)

/-- The value of a digit in the given base. -/
def baseDigit (base : Nat) (c : Char) : Option Nat :=
  (hexValue c).filter (· < base)

/-- Reads one part of an IPv4 address; no digits behind `0x` are zero. -/
def ipv4Number (cs : List Char) : Option Nat :=
  if cs.isEmpty then none
  else
    let (base, digits) := numberBase cs
    digits.foldl (fun value c => value.bind fun v => (baseDigit base c).map (base * v + ·)) (some 0)

/-- The labels of a name, without the empty one behind a final point. -/
def labels (cs : List Char) : List (List Char) :=
  let all := pieces '.' cs
  if all.getLast? = some [] then all.dropLast else all

/-- Whether the last label of a name is a number. -/
def endsInNumber (cs : List Char) : Bool :=
  match (labels cs).getLast? with
  | none => false
  | some last => (last ≠ [] && last.all Char.isDigit) || (ipv4Number last).isSome

/-- Reads an IPv4 address of one to four parts: all but the last are octets, and the last fills
what is left of the 32 bits. -/
def ipv4 (cs : List Char) : Option Ipv4 := do
  let parts ← (labels cs).mapM ipv4Number
  let last ← parts.getLast?
  let octets := parts.dropLast
  if parts.length ≤ 4 ∧ octets.all (· ≤ 255) ∧ last < Nat.pow 256 (4 - octets.length) then
    let high := octets.foldl (fun value octet => 256 * value + octet) 0
    some (.ofNat (high * Nat.pow 256 (4 - octets.length) + last))
  else none

/-! ## Reading hosts -/

/-- Whether the character may not stand in the ASCII form of a name. -/
def isForbiddenInName (c : Char) : Bool :=
  c.toNat ≤ 0x20 || 0x7F ≤ c.toNat ||
    ['%', '#', '/', ':', '<', '>', '?', '@', '[', '\\', ']', '^', '|'].contains c

/-- Whether the character may not stand in the host of a URL whose scheme is not special. -/
def isForbiddenInPlain (c : Char) : Bool :=
  ['\x00', '\t', '\n', '\r', ' ', '#', '/', ':', '<', '>', '?', '@', '[', '\\', ']', '^',
    '|'].contains c

/-- Reads what stands behind an opening bracket: an IPv6 address and the closing bracket. -/
def bracketed (cs : List Char) : Except ParseError Host :=
  match cs.getLast?, Ipv6.parse cs.dropLast with
  | some ']', some ip => .ok (v6 ip)
  | _, _ => .error .invalidIpv6

/-- Reads the host of a URL with a special scheme. -/
def parseSpecial : List Char → Except ParseError Host
  | '[' :: cs => bracketed cs
  | cs =>
    match (Label.asciiName? (readUtf8Lossy (decode cs)).toList).filter
        (!·.any isForbiddenInName) with
    | none => .error .invalidName
    | some ascii =>
      if ascii.isEmpty then .error .emptyHost
      else if endsInNumber ascii then
        match ipv4 ascii with
        | some ip => .ok (v4 ip)
        | none => .error .invalidIpv4
      else .ok (name (String.ofList ascii))

/-- Reads the host of a URL with any other scheme. -/
def parsePlain : List Char → Except ParseError Host
  | '[' :: cs => bracketed cs
  | cs =>
    if cs.any isForbiddenInPlain then .error .invalidHostCharacter
    else .ok (.name (String.ofList (encode .plainText cs)))

end Host

end CallDispatch.Url
