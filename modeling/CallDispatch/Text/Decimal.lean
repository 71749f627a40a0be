/-!
# Decimal numbers

Reading unsigned decimal numbers: any number of digits, leading zeros included, up to a largest
value. Some of the formats also admit a plus sign in front.
-/

namespace CallDispatch.Text

/-- The value of a decimal digit. -/
def digitValue (c : Char) : Nat :=
  c.toNat - '0'.toNat

/-- The number written by decimal digits, most significant first. -/
def decimalValue (digits : List Char) : Nat :=
  digits.foldl (fun value c => 10 * value + digitValue c) 0

/-- Reads a non-empty run of decimal digits. -/
def readDecimal (cs : List Char) : Option Nat :=
  if cs ≠ [] ∧ cs.all Char.isDigit then some (decimalValue cs) else none

/-- Reads a decimal number of at most `limit`. -/
def readUpTo (limit : Nat) (cs : List Char) : Option Nat :=
  (readDecimal cs).filter (· ≤ limit)

/-- Reads a decimal number of at most `limit`, with or without a plus sign in front. -/
def readUnsigned (limit : Nat) : List Char → Option Nat
  | '+' :: digits => readUpTo limit digits
  | digits => readUpTo limit digits

/-- The decimal digits of a number, most significant first, without leading zeros. -/
def decimalDigits (n : Nat) : List Char :=
  Nat.toDigits 10 n

/-- The decimal text of a number. -/
def decimal (n : Nat) : String :=
  String.ofList (decimalDigits n)

/-- The largest number of 16, 32 and 64 bits. -/
def max16 : Nat := 0xFFFF
@[inherit_doc max16] def max32 : Nat := 0xFFFFFFFF
@[inherit_doc max16] def max64 : Nat := 0xFFFFFFFFFFFFFFFF

end CallDispatch.Text
