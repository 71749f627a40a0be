import CallDispatch.Net.Ipv4
import CallDispatch.Text.Hex

/-!
# IPv6 addresses

An address is eight groups of 16 bits. Its text has the groups in hexadecimal with colons between
them, the longest run of two or more zero groups (the first of several) written `::`, and the last
two groups as an IPv4 address where the address stands for one, `::ffff:a.b.c.d`. Reading admits
`::` for any number of zero groups from one on, and an IPv4 address in place of the last two groups
of any address.
-/

namespace CallDispatch

/-- An IPv6 address, first group first. -/
structure Ipv6 where
  groups : Vector UInt16 8
deriving DecidableEq

namespace Ipv6

open Text

/-- The address with the given groups, if there are eight. -/
def ofGroups? (groups : List UInt16) : Option Ipv6 :=
  if h : groups.length = 8 then some ⟨⟨groups.toArray, by simpa using h⟩⟩ else none

/-! ## Reading -/

/-- Reads a group: one to four hexadecimal digits. -/
def group (cs : List Char) : Option UInt16 :=
  if cs ≠ [] ∧ cs.length ≤ 4 then (hexNumber cs).map UInt16.ofNat else none

/-- Reads groups from pieces of text; where `embedded`, the last piece may be an IPv4 address. -/
def groupsOf (embedded : Bool) : List (List Char) → Option (List UInt16)
  | [] => some []
  | [piece] =>
    match (if embedded then Ipv4.parse piece else none) with
    | some ip => some [ip.high, ip.low]
    | none => (group piece).map ([·])
  | piece :: rest => do return (← group piece) :: (← groupsOf embedded rest)

/-- Reads the groups between colons; no characters are no groups. -/
def side (embedded : Bool) (cs : List Char) : Option (List UInt16) :=
  if cs.isEmpty then some [] else groupsOf embedded (pieces ':' cs)

/-- What stands before and after the first `::`, behind `seen`, which is in reverse. -/
def cutGapFrom (seen : List Char) : List Char → Option (List Char × List Char)
  | [] => none
  | c :: rest =>
    if c = ':' ∧ rest.head? = some ':' then some (seen.reverse, rest.tail)
    else cutGapFrom (c :: seen) rest

/-- Reads an address. -/
def parse (cs : List Char) : Option Ipv6 :=
  match cutGapFrom [] cs with
  | none => (side true cs).bind ofGroups?
  | some (before, after) => do
    let head ← side false before
    let tail ← side true after
    let known := head.length + tail.length
    if known < 8 then ofGroups? (head ++ List.replicate (8 - known) 0 ++ tail) else none

/-! ## Writing -/

/-- The length of the run of zero groups at the front. -/
def zeroRun (groups : List UInt16) : Nat :=
  (groups.takeWhile (· == 0)).length

/-- Start and length of the longest run of zero groups, the first of several; `start` is the
position of the first group. -/
def longestRun (start : Nat) : List UInt16 → Nat × Nat
  | [] => (start, 0)
  | g :: rest =>
    let here := zeroRun (g :: rest)
    let later := longestRun (start + 1) rest
    if later.2 ≤ here then (start, here) else later

/-- Groups in hexadecimal with colons between them. -/
def groupChars (groups : List UInt16) : List Char :=
  [':'].intercalate (groups.map fun g => hexDigits g.toNat)

/-- The groups of an address with its longest run of zero groups, if longer than one, as `::`. -/
def compressed (ip : Ipv6) : List Char :=
  let groups := ip.groups.toList
  let (start, length) := longestRun 0 groups
  if 1 < length then
    groupChars (groups.take start) ++ [':', ':'] ++ groupChars (groups.drop (start + length))
  else groupChars groups

/-- The IPv4 address that the address stands for. -/
def mapped (ip : Ipv6) : Option Ipv4 :=
  match ip.groups.toList with
  | [0, 0, 0, 0, 0, 0xFFFF, high, low] => some (.ofGroups high low)
  | _ => none

/-- The characters of an address. -/
def chars (ip : Ipv6) : List Char :=
  match ip.mapped with
  | some v4 => "::ffff:".toList ++ v4.chars
  | none => ip.compressed

/-- Whether the address stands for every address of the host, `::`. -/
def isUnspecified (ip : Ipv6) : Bool :=
  ip.groups.toList == [0, 0, 0, 0, 0, 0, 0, 0]

end Ipv6

end CallDispatch
