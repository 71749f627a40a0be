/-!
# Hexadecimal digits
-/

namespace CallDispatch.Text

/-- The value of a hexadecimal digit, in either letter case. -/
def hexValue (c : Char) : Option Nat :=
  if c.isDigit then some (c.toNat - '0'.toNat)
  else if 'a' ≤ c ∧ c ≤ 'f' then some (c.toNat - 'a'.toNat + 10)
  else if 'A' ≤ c ∧ c ≤ 'F' then some (c.toNat - 'A'.toNat + 10)
  else none

/-- The hexadecimal digits of a number in lower case, without leading zeros. -/
def hexDigits (n : Nat) : List Char :=
  Nat.toDigits 16 n

/-- The hexadecimal digits of a number in lower case, padded with zeros to at least `width`. -/
def hexPadded (width n : Nat) : List Char :=
  let digits := hexDigits n
  List.replicate (width - digits.length) '0' ++ digits

/-- The number written by hexadecimal digits, most significant first. -/
def hexNumber (cs : List Char) : Option Nat :=
  cs.foldl (fun value c => value.bind fun v => (hexValue c).map (16 * v + ·)) (some 0)

end CallDispatch.Text
