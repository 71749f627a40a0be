import CallDispatch.Link.Wire
import CallDispatch.Registry.Basic

/-!
# Reading from an application

Behind its handshake an application asks for methods with `route` frames, which are answered at
once, and sends other frames, which are passed on and not answered. The reader takes frames in order
until the stream ends, something arrives that is no frame, or an answer cannot be written.
-/

namespace CallDispatch

open Text

/-- A frame from an application, with the connection it came over. -/
structure Message where
  entry : EntryId
  frame : Frame
deriving DecidableEq

/-- Messages on their way to whoever receives them: what comes while it is full is lost. -/
structure Mailbox where
  capacity : Nat
  messages : List Message := []
deriving DecidableEq

/-- Adds a message, if there is room. -/
def Mailbox.post (mailbox : Mailbox) (message : Message) : Mailbox :=
  if mailbox.messages.length < mailbox.capacity then
    { mailbox with messages := mailbox.messages ++ [message] }
  else mailbox

/-- What the reader of a connection works on. -/
structure Intake where
  registry : Registry
  wire : Wire
  mailbox : Mailbox
  /-- The number of the next message of the server. -/
  nextMessage : Nat
deriving DecidableEq

namespace Intake

/-- Answers a request for a method. -/
def subscribe (intake : Intake) (entry : EntryId) (frame : Frame) (verb : String) :
    Intake × Except LinkError Unit :=
  let respond := Frame.response (messageId intake.nextMessage) frame.id
  let (registry, answer) :=
    if Sip.isRoutable verb then
      match intake.registry.subscribe entry verb with
      | (registry, .ok _) => (registry, respond true none)
      | (registry, .error _) => (registry, respond false (some "application is not registered"))
    else (intake.registry, respond false (some "Route request includes unsupported verb"))
  let (wire, result) := intake.wire.send answer.payload
  ({ intake with registry, wire, nextMessage := intake.nextMessage + 1 }, result)

/-- What the reader does next. -/
inductive Verdict
  | goOn
  /-- Nothing until more bytes arrive. -/
  | wait
  | stop
deriving DecidableEq

/-- Takes one frame. -/
def takeFrame (intake : Intake) (entry : EntryId) (frame : Frame) : Intake × Verdict :=
  match frame.routeVerb with
  | none => ({ intake with mailbox := intake.mailbox.post ⟨entry, frame⟩ }, .goOn)
  | some verb =>
    match intake.subscribe entry frame verb with
    | (intake, .ok ()) => (intake, .goOn)
    | (intake, .error _) => (intake, .stop)

/-- Reads once from the stream. -/
def step (intake : Intake) (entry : EntryId) : Intake × Verdict :=
  let (wire, arrival) := intake.wire.read
  let intake := { intake with wire }
  match arrival with
  | .nothing => (intake, .wait)
  | .finished | .failure _ => (intake, .stop)
  | .payload text =>
    match Frame.parse text with
    | .error _ => (intake, .stop)
    | .ok frame => intake.takeFrame entry frame

/-- Reads up to `fuel` times; the flag says whether the reader has stopped for good. -/
def runFor (entry : EntryId) : Nat → Intake → Intake × Bool
  | 0, intake => (intake, false)
  | fuel + 1, intake =>
    match intake.step entry with
    | (intake, .goOn) => runFor entry fuel intake
    | (intake, .wait) => (intake, false)
    | (intake, .stop) => (intake, true)

/-- Reads until nothing is left or the reader stops. Each frame takes at least one byte, so there
are no more frames than bytes, and one more reading finds the end. -/
def run (intake : Intake) (entry : EntryId) : Intake × Bool :=
  runFor entry (intake.wire.inbox.buffer.length + 2) intake

end Intake

end CallDispatch
