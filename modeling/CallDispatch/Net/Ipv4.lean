import CallDispatch.Text.Pieces
import CallDispatch.Text.Decimal

/-!
# IPv4 addresses

An address is four octets, written in decimal with points between them. Reading is strict: exactly
four octets of one to three digits, and no zero in front of another digit.
-/

namespace CallDispatch

/-- An IPv4 address, first octet first. -/
structure Ipv4 where
  a : UInt8
  b : UInt8
  c : UInt8
  d : UInt8
deriving DecidableEq

namespace Ipv4

open Text

/-- Reads an octet: one to three digits without a leading zero, at most 255. -/
def octet (cs : List Char) : Option UInt8 :=
  if cs.length ≤ 3 ∧ (cs.head? = some '0' → cs.length = 1) then
    (readUpTo 255 cs).map UInt8.ofNat
  else none

/-- Reads an address. -/
def parse (cs : List Char) : Option Ipv4 :=
  match pieces '.' cs with
  | [a, b, c, d] => do return ⟨← octet a, ← octet b, ← octet c, ← octet d⟩
  | _ => none

/-- The address whose bits, most significant first, are those of `n`. -/
def ofNat (n : Nat) : Ipv4 :=
  ⟨.ofNat (n / 0x1000000), .ofNat (n / 0x10000), .ofNat (n / 0x100), .ofNat n⟩

/-- The characters of an address. -/
def chars (ip : Ipv4) : List Char :=
  decimalDigits ip.a.toNat ++ '.' :: decimalDigits ip.b.toNat ++
    '.' :: decimalDigits ip.c.toNat ++ '.' :: decimalDigits ip.d.toNat

/-- The first two octets as one group of an IPv6 address. -/
def high (ip : Ipv4) : UInt16 :=
  ip.a.toUInt16 * 256 + ip.b.toUInt16

/-- The last two octets as one group of an IPv6 address. -/
def low (ip : Ipv4) : UInt16 :=
  ip.c.toUInt16 * 256 + ip.d.toUInt16

/-- The address whose halves are the groups `high` and `low`. -/
def ofGroups (high low : UInt16) : Ipv4 :=
  ⟨(high / 256).toUInt8, high.toUInt8, (low / 256).toUInt8, low.toUInt8⟩

/-- Whether the address stands for every address of the host, `0.0.0.0`. -/
def isUnspecified (ip : Ipv4) : Bool :=
  ip == ⟨0, 0, 0, 0⟩

end Ipv4

end CallDispatch
