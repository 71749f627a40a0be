import CallDispatch.Link.Error
import CallDispatch.Sip.Request
import CallDispatch.Text.Hex
import CallDispatch.Text.Pieces

/-!
# Frames

What an application and the server send each other. The payload of a frame is a line of fields with
bars between them, `id|kind|argument|…`, and perhaps a body behind a line break. The body may hold
anything; the fields may hold neither bars nor line breaks.
-/

namespace CallDispatch

open Text

/-- A frame: its id, its kind, its arguments and perhaps a body. -/
structure Frame where
  id : String
  kind : String
  args : List String
  body : Option String
deriving DecidableEq

/-- The id of the `n`-th message of the server, in the form of a random UUID: 36 characters, of
which the last twelve tell messages apart. -/
def messageId (n : Nat) : String :=
  "00000000-0000-4000-8000-" ++ String.ofList (hexPadded 12 (n % 0x1000000000000))

namespace Frame

/-- Reads the fields in the first line of a payload. -/
def ofFields (line : List Char) (body : Option String) : Except LinkError Frame :=
  match split '|' (String.ofList line) with
  | id :: kind :: args =>
    if id ≠ "" ∧ kind ≠ "" then .ok ⟨id, kind, args, body⟩
    else .error (.protocol ("invalid message format: " ++ String.ofList line))
  | _ => .error (.protocol ("invalid message format: " ++ String.ofList line))

/-- Reads a payload; id and kind must not be empty. -/
def parse (payload : String) : Except LinkError Frame :=
  match cutLine payload.toList with
  | none => ofFields payload.toList none
  | some (line, body) => ofFields line (some (String.ofList body))

/-- The body behind the line break that introduces it. -/
def bodyText : Option String → String
  | none => ""
  | some body => "\r\n" ++ body

/-- The payload of a frame. -/
def payload (frame : Frame) : String :=
  "|".intercalate (frame.id :: frame.kind :: frame.args) ++ bodyText frame.body

/-! ## The frames of the protocol -/

/-- The answer to the message `requestId`: `OK` or `NO`, and perhaps a reason. -/
def response (id requestId : String) (ok : Bool) (reason : Option String) : Frame :=
  ⟨id, "response", requestId :: (if ok then "OK" else "NO") :: reason.toList, none⟩

/-- The frame that hands a request to an application. -/
def sip (id : String) (request : Request) : Frame :=
  let source := request.source.elim "" SocketAddress.text
  ⟨id, "sip", [request.transactionId, source, request.protocol], some request.raw⟩

/-- The method that an application asks for with a `route` frame; empty where it names none. -/
def routeVerb (frame : Frame) : Option String :=
  if frame.kind = "route" then some (frame.args.head?.getD "") else none

/-- Whether the frame is a response that says `OK`. -/
def isOk (frame : Frame) : Bool :=
  frame.kind == "response" && frame.args[1]? == some "OK"

end Frame

end CallDispatch
