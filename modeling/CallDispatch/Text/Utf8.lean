/-!
# UTF-8

Texts and bytes. `utf8Bytes` writes a text, `readUtf8` reads bytes that are well-formed UTF-8 and
refuses all others, and `readUtf8Lossy` reads any bytes, putting U+FFFD in place of every longest
run of bytes that starts a character but does not finish it.
-/

namespace CallDispatch.Text

/-- Bytes as they come from a stream. -/
abbrev Bytes := List UInt8

/-- The UTF-8 form of a text. -/
def utf8Bytes (text : String) : Bytes :=
  text.toUTF8.toList

/-- The text whose UTF-8 form is `bytes`, if there is one. -/
def readUtf8 (bytes : Bytes) : Option String :=
  String.fromUTF8? bytes.toByteArray

/-! ## Reading damaged text -/

/-- How far a character that takes several bytes has been read. -/
structure PartialChar where
  /-- The bits read so far. -/
  bits : Nat
  /-- How many bytes are still to come. -/
  due : Nat
  /-- The smallest and largest byte that may come next. -/
  least : Nat
  most : Nat

/-- What a byte says at the start of a character. -/
inductive LeadByte
  | single (c : Char)
  | several (start : PartialChar)
  | stray

/-- Classifies the first byte of a character: overlong forms, surrogates and numbers past U+10FFFF
are excluded by the range of the byte that follows. -/
def leadByte (b : Nat) : LeadByte :=
  if b < 0x80 then .single (Char.ofNat b)
  else if 0xC2 ≤ b ∧ b ≤ 0xDF then .several ⟨b - 0xC0, 1, 0x80, 0xBF⟩
  else if b = 0xE0 then .several ⟨0, 2, 0xA0, 0xBF⟩
  else if b = 0xED then .several ⟨13, 2, 0x80, 0x9F⟩
  else if 0xE1 ≤ b ∧ b ≤ 0xEF then .several ⟨b - 0xE0, 2, 0x80, 0xBF⟩
  else if b = 0xF0 then .several ⟨0, 3, 0x90, 0xBF⟩
  else if 0xF1 ≤ b ∧ b ≤ 0xF3 then .several ⟨b - 0xF0, 3, 0x80, 0xBF⟩
  else if b = 0xF4 then .several ⟨4, 3, 0x80, 0x8F⟩
  else .stray

/-- The character that stands for unreadable bytes. -/
def replacementChar : Char := Char.ofNat 0xFFFD

/-- The characters read so far, last one first, and the one being read. -/
structure LossyState where
  chars : List Char := []
  current : Option PartialChar := none

/-- Reads a byte that starts a character. -/
def LossyState.lead (chars : List Char) (b : Nat) : LossyState :=
  match leadByte b with
  | .single c => ⟨c :: chars, none⟩
  | .several start => ⟨chars, some start⟩
  | .stray => ⟨replacementChar :: chars, none⟩

/-- Reads one byte. -/
def LossyState.step (state : LossyState) (byte : UInt8) : LossyState :=
  let b := byte.toNat
  match state.current with
  | none => .lead state.chars b
  | some p =>
    if p.least ≤ b ∧ b ≤ p.most then
      let bits := p.bits * 64 + (b - 0x80)
      if p.due = 1 then ⟨Char.ofNat bits :: state.chars, none⟩
      else ⟨state.chars, some ⟨bits, p.due - 1, 0x80, 0xBF⟩⟩
    else .lead (replacementChar :: state.chars) b

/-- Ends the reading: a character cut short is unreadable. -/
def LossyState.finish (state : LossyState) : List Char :=
  match state.current with
  | none => state.chars.reverse
  | some _ => (replacementChar :: state.chars).reverse

/-- Reads bytes as UTF-8 with U+FFFD in place of what is not well-formed. -/
def readUtf8Lossy (bytes : Bytes) : String :=
  String.ofList (bytes.foldl LossyState.step {}).finish

end CallDispatch.Text
