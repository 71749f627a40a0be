import CallDispatch.Link.Error
import CallDispatch.Text.Decimal
import CallDispatch.Text.Utf8

/-!
# Framing of payloads on a stream

On the stream a payload is preceded by its length in bytes, one to five decimal digits, and a number
sign: `5#hello`. `encode` writes a payload; an `Inbox` takes the bytes of a stream as they arrive,
cut anywhere, and gives the payloads back. A length that is zero or not made of digits is an error
that stays, since the bytes it stands for are unknown; a payload that is not UTF-8 is an error for
this payload alone.
-/

namespace CallDispatch

open Text

namespace Frame

/-- The most bytes that a payload can have. -/
def maxLength : Nat := 99999

/-- The most digits that a length can have. -/
def maxDigits : Nat := 5

/-- The byte between the length and the payload. -/
def mark : UInt8 := 0x23

/-- Whether the byte is a decimal digit. -/
def isDigitByte (b : UInt8) : Bool :=
  0x30 ≤ b && b ≤ 0x39

/-- The number written by digits, most significant first. -/
def lengthOf (digits : Bytes) : Nat :=
  digits.foldl (fun n b => 10 * n + (b.toNat - 0x30)) 0

/-- The bytes of a payload on the stream. -/
def encode (payload : String) : Except LinkError Bytes :=
  let bytes := utf8Bytes payload
  if bytes.isEmpty then .error (.protocol "cannot frame an empty payload")
  else if maxLength < bytes.length then .error (.tooLarge bytes.length)
  else .ok (utf8Bytes (decimal bytes.length) ++ mark :: bytes)

/-! ## Reading a stream -/

/-- What stands at the start of a frame. -/
inductive Header
  | found (length : Nat) (rest : Bytes)
  | incomplete
  | invalid
deriving DecidableEq

/-- Reads the length in front of a payload. Without a number sign the length may still go on, unless
there are too many bytes already, or one that is not a digit. -/
def readHeader (buffer : Bytes) : Header :=
  match buffer.span (· != mark) with
  | (digits, []) =>
    if digits.length ≤ maxDigits ∧ digits.all isDigitByte then .incomplete else .invalid
  | (digits, _ :: rest) =>
    if digits.length ≤ maxDigits ∧ digits.all isDigitByte ∧ lengthOf digits ≠ 0 then
      .found (lengthOf digits) rest
    else .invalid

/-- Bytes that have arrived and are not read, and the length of the payload they start with, where
that has been read. -/
structure Inbox where
  buffer : Bytes := []
  announced : Option Nat := none
deriving DecidableEq

namespace Inbox

/-- Takes bytes from the stream. -/
def receive (inbox : Inbox) (bytes : Bytes) : Inbox :=
  { inbox with buffer := inbox.buffer ++ bytes }

/-- Reads a payload of `length` bytes from the buffer, if they have all arrived. -/
def takePayload (length : Nat) (buffer : Bytes) : Inbox × Option (Except LinkError String) :=
  let bytes := buffer.take length
  if bytes.length < length then (⟨buffer, some length⟩, none)
  else
    match readUtf8 bytes with
    | some payload => (⟨buffer.drop length, none⟩, some (.ok payload))
    | none => (⟨buffer.drop length, none⟩, some (.error (.protocol "frame is not valid utf-8")))

/-- Reads the next payload, or nothing while it is incomplete. -/
def next (inbox : Inbox) : Inbox × Option (Except LinkError String) :=
  match inbox.announced with
  | some length => takePayload length inbox.buffer
  | none =>
    match readHeader inbox.buffer with
    | .found length rest => takePayload length rest
    | .incomplete => (inbox, none)
    | .invalid => (inbox, some (.error (.protocol "invalid message length specifier")))

/-- Reads payloads until one is incomplete or an error comes; `seen` are the payloads before, last
one first. At most `fuel` payloads are read. -/
def readFrom (seen : List (Except LinkError String)) :
    Nat → Inbox → List (Except LinkError String) × Inbox
  | 0, inbox => (seen.reverse, inbox)
  | fuel + 1, inbox =>
    match inbox.next with
    | (inbox, none) => (seen.reverse, inbox)
    | (inbox, some (.error e)) => ((.error e :: seen).reverse, inbox)
    | (inbox, some (.ok payload)) => readFrom (.ok payload :: seen) fuel inbox

/-- Reads payloads until one is incomplete or an error comes. A payload takes at least one byte, so
there are no more payloads than bytes. -/
def readAll (inbox : Inbox) : List (Except LinkError String) × Inbox :=
  readFrom [] (inbox.buffer.length + 1) inbox

/-- Reads the next payload when the stream has ended: what is left of a frame is an error. -/
def nextAtEnd (inbox : Inbox) : Inbox × Option (Except LinkError String) :=
  match inbox.next with
  | (inbox, none) =>
    if inbox.buffer.isEmpty then (inbox, none)
    else (inbox, some (.error (.io "bytes remaining on stream")))
  | result => result

end Inbox

end Frame

end CallDispatch
