import CallDispatch.Text.Pieces

/-!
# Text written in ASCII

Labels of domain names are ASCII. A label with other characters is written as its ASCII characters,
a hyphen, and digits that say where the others are inserted. The other characters come in ascending
order, and so each insertion is one number: how many positions, counted over all code points and
all places in the text, lie between it and the insertion before. A number is a run of digits to
base 36 of which the first below its threshold is the last. The thresholds depend on a bias that
follows the size of the numbers seen.

## Main definitions

* `Punycode.takeNumber`, `Punycode.numberDigits`: one number in digits.
* `Punycode.decode`, `Punycode.encode`: the text that a label stands for, and back.
-/

namespace CallDispatch.Url.Punycode

open Text

/-! ## Numbers -/

/-- The value of a digit: letters come before the decimal digits. -/
def digit? (c : Char) : Option Nat :=
  if 'a' ≤ c ∧ c ≤ 'z' then some (c.toNat - 'a'.toNat)
  else if 'A' ≤ c ∧ c ≤ 'Z' then some (c.toNat - 'A'.toNat)
  else if c.isDigit then some (c.toNat - '0'.toNat + 26)
  else none

/-- The threshold at a place, which counts in steps of 36: from 1 to 26. -/
def threshold (bias place : Nat) : Nat :=
  max 1 (min 26 (place - bias))

/-- Reads a number whose next digit has the given weight, and returns what stands behind it.
Weights have 32 bits. -/
def takeNumber (bias place weight : Nat) : List Char → Option (Nat × List Char)
  | [] => none
  | c :: rest => do
    let digit ← digit? c
    let limit := threshold bias place
    if digit < limit then return (digit * weight, rest)
    else if weight * (36 - limit) < Nat.pow 2 32 then
      let (more, rest) ← takeNumber bias (place + 36) (weight * (36 - limit)) rest
      return (digit * weight + more, rest)
    else none

/-- A number takes at least one digit. -/
theorem length_lt_of_takeNumber {bias place weight : Nat} {cs : List Char} {n : Nat}
    {rest : List Char} (h : takeNumber bias place weight cs = some (n, rest)) :
    rest.length < cs.length := by
  induction cs generalizing place weight n with
  | nil => simp [takeNumber] at h
  | cons c cs ih =>
    rw [takeNumber] at h
    obtain ⟨digit, _, h⟩ := Option.bind_eq_some_iff.1 h
    dsimp only at h
    split at h
    · obtain ⟨rfl, rfl⟩ := Prod.mk.inj (Option.some.inj h)
      simp
    · split at h
      · obtain ⟨⟨more, last⟩, hmore, h⟩ := Option.bind_eq_some_iff.1 h
        obtain ⟨rfl, rfl⟩ := Prod.mk.inj (Option.some.inj h)
        exact Nat.lt_succ_of_lt (ih hmore)
      · simp at h

/-- The digit with the given value. -/
def digitChar (digit : Nat) : Char :=
  if digit < 26 then Char.ofNat ('a'.toNat + digit) else Char.ofNat ('0'.toNat + (digit - 26))

/-- The digits of a number, the first of which stands at the given place. -/
def numberDigits (bias place n : Nat) : List Char :=
  let limit := threshold bias place
  if n < limit then [digitChar n]
  else
    digitChar (limit + (n - limit) % (36 - limit)) ::
      numberDigits bias (place + 36) ((n - limit) / (36 - limit))
termination_by n
decreasing_by
  have hlimit : 1 ≤ threshold bias place := Nat.le_max_left ..
  have hless := Nat.div_le_self (n - threshold bias place) (36 - threshold bias place)
  omega

/-! ## The bias -/

/-- Divides by 35 until at most 455 is left; the second part counts the divisions in steps of 36. -/
def scaleDown (n : Nat) : Nat × Nat :=
  if 455 < n then
    let (left, place) := scaleDown (n / 35)
    (left, place + 36)
  else (n, 0)
termination_by n

/-- The bias behind a number, in a text that has grown to `length` characters by it. -/
def nextBias (isFirst : Bool) (number length : Nat) : Nat :=
  let damped := number / (if isFirst then 700 else 2)
  let (left, place) := scaleDown (damped + damped / length)
  place + 36 * left / (left + 38)

/-! ## Insertions -/

/-- Where the next insertion is counted from: a code point and a place in the text. -/
structure Cursor where
  codePoint : Nat := 128
  place : Nat := 0
  bias : Nat := 72
  isFirst : Bool := true

/-- The character that a number behind the cursor inserts into a text, and its place. -/
def Cursor.insertion (cursor : Cursor) (number : Nat) (text : List Char) : Nat × Nat :=
  let steps := cursor.place + number
  (cursor.codePoint + steps / (text.length + 1), steps % (text.length + 1))

/-- Inserts the characters that the digits describe into a text. -/
def insertAll (cursor : Cursor) (text : List Char) (digits : List Char) : Option (List Char) :=
  if digits = [] then some text
  else
    match _h : takeNumber cursor.bias 36 1 digits with
    | none => none
    | some (number, rest) =>
      let (codePoint, place) := cursor.insertion number text
      if codePoint.isValidChar then
        let bias := nextBias cursor.isFirst number (text.length + 1)
        insertAll ⟨codePoint, place + 1, bias, false⟩
          (text.insertIdx place (Char.ofNat codePoint)) rest
      else none
termination_by digits.length
decreasing_by exact length_lt_of_takeNumber _h

/-- The number behind the cursor that inserts a character at a place into a text of some length. -/
def Cursor.number (cursor : Cursor) (length codePoint place : Nat) : Nat :=
  (codePoint - cursor.codePoint) * (length + 1) + place - cursor.place

/-- The characters of a text outside ASCII in the order in which they are inserted, each with its
place among those that are there by then. -/
def insertions (text : List Char) : List (Nat × Nat) :=
  let foreign := text.zipIdx.filter (128 ≤ ·.1.toNat)
  (foreign.mergeSort fun a b => a.1.toNat ≤ b.1.toNat).map fun (c, i) =>
    (c.toNat, (text.take i).countP (·.toNat ≤ c.toNat))

/-- The digits that describe insertions into a text of some length. -/
def insertionDigits (cursor : Cursor) (length : Nat) : List (Nat × Nat) → List Char
  | [] => []
  | (codePoint, place) :: rest =>
    let number := cursor.number length codePoint place
    let next : Cursor :=
      ⟨codePoint, place + 1, nextBias cursor.isFirst number (length + 1), false⟩
    numberDigits cursor.bias 36 number ++ insertionDigits next (length + 1) rest

/-- The text that a label stands for: its ASCII characters stand in front of the last hyphen. -/
def decode (label : List Char) : Option (List Char) :=
  match cutLast '-' label with
  | some ([], _) => none
  | some (ascii, digits) => insertAll {} ascii digits
  | none => insertAll {} [] label

/-- The label that stands for a text. -/
def encode (text : List Char) : List Char :=
  let ascii := text.filter (·.toNat < 128)
  ascii ++ (if ascii.isEmpty then [] else ['-']) ++
    insertionDigits {} ascii.length (insertions text)

end CallDispatch.Url.Punycode
