import CallDispatch.Frame.Basic
import CallDispatch.Frame.Codec

/-!
# The server's end of a stream

A stream between the server and an application, as the server sees it: the bytes that have arrived
and are not read, the bytes it has written and the application has not taken yet, and which sides
are closed. Writing frames the payload first, so a payload that cannot be framed is refused before
the state of the stream matters.
-/

namespace CallDispatch

open Text

/-- The server's end of a stream to an application. -/
structure Wire where
  inbox : Frame.Inbox := {}
  /-- Nothing more arrives: the application has closed its writing side or hung up. -/
  ended : Bool := false
  /-- The application has hung up: nothing can be written. -/
  gone : Bool := false
  /-- The server has closed its writing side. -/
  shut : Bool := false
  /-- The bytes written that the application has not taken. -/
  written : Bytes := []
deriving DecidableEq

/-- What a stream gives when it is read. -/
inductive Arrival
  | payload (text : String)
  | failure (error : LinkError)
  /-- Nothing until more bytes arrive. -/
  | nothing
  /-- The end of the stream. -/
  | finished
deriving DecidableEq

namespace Wire

/-- The application writes bytes, unless it has closed its writing side. -/
def arrive (wire : Wire) (bytes : Bytes) : Wire :=
  if wire.ended then wire else { wire with inbox := wire.inbox.receive bytes }

/-- The application closes its writing side. -/
def finish (wire : Wire) : Wire :=
  { wire with ended := true }

/-- The application drops the stream. -/
def hangUp (wire : Wire) : Wire :=
  { wire with ended := true, gone := true, written := [] }

/-- The server closes its writing side. -/
def close (wire : Wire) : Wire :=
  { wire with shut := true }

/-- Reads the next payload. -/
def read (wire : Wire) : Wire × Arrival :=
  let (inbox, result) := if wire.ended then wire.inbox.nextAtEnd else wire.inbox.next
  let arrival := match result with
    | some (.ok text) => .payload text
    | some (.error e) => .failure e
    | none => if wire.ended then .finished else .nothing
  ({ wire with inbox }, arrival)

/-- Writes a payload. -/
def send (wire : Wire) (payload : String) : Wire × Except LinkError Unit :=
  match Frame.encode payload with
  | .error e => (wire, .error e)
  | .ok bytes =>
    if wire.gone ∨ wire.shut then (wire, .error (.io "broken pipe"))
    else ({ wire with written := wire.written ++ bytes }, .ok ())

/-- The application takes what has been written for it: the payloads, and whether the server has
closed its writing side. -/
def take (wire : Wire) : Wire × List String × Bool :=
  let (results, _) := ({ buffer := wire.written } : Frame.Inbox).readAll
  ({ wire with written := [] }, results.filterMap Except.toOption, wire.shut)

end Wire

end CallDispatch
