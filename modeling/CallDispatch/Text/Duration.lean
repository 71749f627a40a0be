import CallDispatch.Text.Decimal

/-!
# Durations in descriptions
-/

namespace CallDispatch.Text

/-- The digits of thousandths behind a decimal point, without zeros at the end. -/
def thousandths (n : Nat) : List Char :=
  let digits := decimalDigits n
  let padded := List.replicate (3 - digits.length) '0' ++ digits
  (padded.reverse.dropWhile (· == '0')).reverse

/-- The text of a duration in milliseconds: below a second as such, from there on in seconds with
as many decimals as it takes. -/
def duration (ms : Nat) : String :=
  if ms = 0 then "0ns"
  else if ms < 1000 then decimal ms ++ "ms"
  else
    let fraction := thousandths (ms % 1000)
    let point := if fraction.isEmpty then "" else "." ++ String.ofList fraction
    decimal (ms / 1000) ++ point ++ "s"

end CallDispatch.Text
