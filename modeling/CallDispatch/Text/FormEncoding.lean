import CallDispatch.Text.Utf8
import CallDispatch.Text.Hex

/-!
# Form encoding of query parameters

Keys and values as they are written in the query of an HTTP request: a space becomes `+`, letters,
digits and `*-._` stand for themselves, and every other byte is written `%XX`.
-/

namespace CallDispatch.Text

/-- A byte as `%XX`, in upper case. -/
def percentByte (b : UInt8) : List Char :=
  '%' :: (hexPadded 2 b.toNat).map Char.toUpper

/-- Whether the byte is an ASCII letter, a digit or one of `*-._`. -/
def isFormSafe (b : UInt8) : Bool :=
  let c := Char.ofNat b.toNat
  b < 0x80 && (c.isAlphanum || ['*', '-', '.', '_'].contains c)

/-- A byte as it is written in a form. -/
def formByte (b : UInt8) : List Char :=
  if b = 0x20 then ['+']
  else if isFormSafe b then [Char.ofNat b.toNat]
  else percentByte b

/-- A key or value as it is written in a form. -/
def formText (text : String) : String :=
  String.ofList ((utf8Bytes text).flatMap formByte)

/-- Pairs of keys and values as a query: `key=value`, joined by `&`. -/
def formQuery (pairs : List (String × String)) : String :=
  "&".intercalate (pairs.map fun (key, value) => formText key ++ "=" ++ formText value)

end CallDispatch.Text
