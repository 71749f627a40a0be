import CallDispatch.Text.Decimal

/-!
# Numbers that have a double

A number that is kept must have a finite double. Its double is computed in steps, each of which may
lose digits: the first digits that fit into 64 bits are rounded to a double, and this is multiplied
by a power of ten, which is rounded to a double too. So the largest doubles are out of reach of some
ways of writing them.

## Main definitions

* `Json.Decimal`: the digits that count and a power of ten.
* `Json.isFinite`: whether the double of a number is finite.
-/

namespace CallDispatch.Json

open Text

/-- A number without its sign: an integer of at most 64 bits, times a power of ten. -/
structure Decimal where
  significand : Nat
  exponent : Int

/-- Adds digits to a significand as long as it fits into 64 bits, and returns the digits left. -/
def addDigits (significand : Nat) : List Char → Nat × List Char
  | [] => (significand, [])
  | c :: rest =>
    let larger := 10 * significand + digitValue c
    if larger ≤ max64 then addDigits larger rest else (significand, c :: rest)

/-- The value of an exponent behind its mark. -/
def exponentValue : List Char → Int
  | '-' :: digits => -(decimalValue digits : Int)
  | '+' :: digits => decimalValue digits
  | digits => decimalValue digits

/-- The digits of a number that count, and its exponent. Digits of the integer that do not fit raise
the exponent, and those of the fraction are dropped. -/
def Decimal.ofLiteral (literal : List Char) : Decimal :=
  let (mantissa, mark) := literal.span fun c => c != 'e' && c != 'E'
  let (integer, point) := mantissa.span (· != '.')
  let fraction := point.drop 1
  let (upToPoint, whole) := addDigits 0 (integer.filter Char.isDigit)
  let (significand, dropped) := addDigits upToPoint fraction
  let places := fraction.length - dropped.length
  ⟨significand, exponentValue (mark.drop 1) + whole.length - places⟩

/-- The double nearest to an integer, without a bound on its size: 53 bits count, and a tie goes to
the even neighbour. -/
def nearestDouble (n : Nat) : Nat :=
  let unit := Nat.pow 2 (n.log2 - 52)
  let below := n / unit
  let rest := n % unit
  if unit < 2 * rest ∨ (unit = 2 * rest ∧ below % 2 = 1) then (below + 1) * unit else below * unit

/-- The largest exponent of a power of ten that has a finite double. -/
def longestPower : Nat := 308

/-- Whether the double of a number is finite. Large powers of ten are never computed. -/
def isFinite (literal : List Char) : Bool :=
  let number := Decimal.ofLiteral literal
  number.significand == 0 || number.exponent < 0 ||
    (number.exponent ≤ longestPower &&
      nearestDouble (nearestDouble number.significand *
        nearestDouble (Nat.pow 10 number.exponent.toNat)) < Nat.pow 2 1024)

end CallDispatch.Json
