import CallDispatch.Dispatch.Calls
import CallDispatch.Link.Establish
import CallDispatch.Link.Reader

/-!
# The switchboard

A switchboard is a dispatcher together with what its requests and calls run through: the links to
the applications, the messages and events that come from them, the dispatches under way and the
calls reserved from outside. It has no clock of its own: the time at which a connection begins to
drain is an argument.

Links come in two kinds. A framed link has a stream to an application. A scripted link has none; how
it takes requests is set from outside.

## Main definitions

* `Link`, `Switchboard`: links and the state of the switchboard.
* `Switchboard.deliver`: handing a request to a link.
* `Switchboard.settle`: letting the readers of all links run until nothing is left to read.
-/

namespace CallDispatch

open Text

/-! ## Links -/

/-- How a scripted link takes requests. -/
inductive Script
  | accept
  | fail (error : LinkError)
  /-- Finds every message too large. -/
  | findTooLarge
  | hang
  /-- Removes its own connection from the registry first. -/
  | removeFirst (accepts : Bool)
  /-- Drains its own connection first. -/
  | drainFirst (accepts : Bool)
deriving DecidableEq

/-- A link whose behaviour is set from outside. -/
structure ScriptedLink where
  entry : EntryId
  script : Script
  alive : Bool
  /-- The transactions it has accepted. -/
  accepted : List String := []
deriving DecidableEq

/-- A link over a stream. -/
structure FramedLink where
  entry : EntryId
  peer : SocketAddress
  wire : Wire
  alive : Bool := true
  /-- Whether its reader still runs. -/
  reading : Bool := true
deriving DecidableEq

/-- A link to an application. -/
inductive Link
  | scripted (link : ScriptedLink)
  | framed (link : FramedLink)
deriving DecidableEq

namespace Link

/-- Whether the link reports that its peer is there. -/
def isAlive : Link → Bool
  | scripted link => link.alive
  | framed link => link.alive

/-- The connection that the link belongs to. -/
def entry : Link → EntryId
  | scripted link => link.entry
  | framed link => link.entry

/-- Closes the link from the side of the server. -/
def close : Link → Link
  | scripted link => scripted { link with alive := false, script := .fail .closed }
  | framed link => framed { link with alive := false, wire := link.wire.close }

end Link

/-- The description of a framed link. -/
def FramedLink.describe (link : FramedLink) : String :=
  "FramedAppLink(" ++ link.entry.text ++ ", " ++ link.peer.text ++ ")"

/-- Writes the frame that hands over a request, with the given id. A message that is too large is
refused and leaves the link usable; any other failure means that the peer is gone. -/
def FramedLink.deliver (link : FramedLink) (frameId : String) (request : Request) :
    FramedLink × Except LinkError Unit :=
  if ¬ link.alive then (link, .error .closed)
  else
    let payload := (Frame.sip frameId request).payload
    if Frame.maxLength < payload.utf8ByteSize then (link, .error (.tooLarge payload.utf8ByteSize))
    else
      match link.wire.send payload with
      | (wire, .ok ()) => ({ link with wire }, .ok ())
      | (wire, .error e) => ({ link with wire, alive := link.alive && !e.isPeerFailure }, .error e)

/-! ## The switchboard -/

/-- A dispatcher with its links and everything that is under way. -/
structure Switchboard where
  dispatcher : Dispatcher := {}
  /-- All links there have been, by their number. -/
  links : List Link := []
  /-- The frames passed on from applications. -/
  mailbox : Mailbox := ⟨100, []⟩
  /-- The connections whose readers have stopped. -/
  disconnected : List EntryId := []
  /-- The links whose readers have something to do, in the order in which they were woken. -/
  woken : List LinkId := []
  /-- The dispatches that wait for a link, by name. -/
  flights : List (String × Attempt) := []
  /-- The calls reserved from outside, by name. -/
  held : List (String × Reservation) := []
  /-- The number of the next message of the server. -/
  nextMessage : Nat := 1
  /-- The id of the next connection. -/
  nextEntry : EntryId := 1
deriving DecidableEq

namespace Switchboard

/-- The registry of the switchboard. -/
def registry (board : Switchboard) : Registry :=
  board.dispatcher.registry

/-- The switchboard with another registry. -/
def withRegistry (board : Switchboard) (registry : Registry) : Switchboard :=
  { board with dispatcher := { board.dispatcher with registry } }

/-- The switchboard with another state of one link. -/
def setLink (board : Switchboard) (id : LinkId) (link : Link) : Switchboard :=
  { board with links := board.links.set id link }

/-- Whether the link of a connection reports that its peer is there. -/
def isAlive (board : Switchboard) (handle : Handle) : Bool :=
  board.links[handle.link]?.any Link.isAlive

/-- Closes the link of a connection. -/
def closeLink (board : Switchboard) (id : LinkId) : Switchboard :=
  { board with links := board.links.modify id Link.close }

/-- The number and state of the framed link with the given number. -/
def framed? (board : Switchboard) (id : LinkId) : Option FramedLink :=
  match board.links[id]? with
  | some (.framed link) => some link
  | _ => none

/-- Registers a connection over a link that is added with it. If the connection is refused, so is
the link. -/
def connect (board : Switchboard) (entry : Entry) (link : Link) :
    Switchboard × Except RegistryError Handle :=
  let entry := { entry with handle := { entry.handle with link := board.links.length } }
  match board.registry.add entry with
  | (registry, .ok handle) =>
    ({ board.withRegistry registry with links := board.links ++ [link] }, .ok handle)
  | (_, .error e) => (board, .error e)

/-- Runs the handshake of a stream, and returns the entry of the connection; it is not registered
yet. -/
def establish (board : Switchboard) (settings : HandshakeSettings) (opening : Opening)
    (wire : Wire) : Switchboard × Wire × Except DialError Entry :=
  let (wire, result) :=
    opening.establish settings (messageId board.nextMessage) board.nextEntry wire
  let board := { board with nextMessage := board.nextMessage + 1 }
  match result with
  | .error e => (board, wire, .error e)
  | .ok entry => ({ board with nextEntry := board.nextEntry + 1 }, wire, .ok entry)

/-- Registers an established connection, and wakes its reader: frames may have arrived behind the
handshake. -/
def enroll (board : Switchboard) (peer : SocketAddress) (entry : Entry) (wire : Wire) :
    Switchboard × Except RegistryError Handle :=
  match board.connect entry (.framed { entry := entry.handle.id, peer, wire }) with
  | (board, .error e) => (board, .error e)
  | (board, .ok handle) =>
    ({ board with woken := board.woken ++ [handle.link] }, .ok handle)

/-! ## Handing requests over -/

/-- Lets a scripted link accept a request. -/
def accept (board : Switchboard) (id : LinkId) (link : ScriptedLink) (request : Request) :
    Switchboard :=
  board.setLink id (.scripted { link with accepted := link.accepted ++ [request.transactionId] })

/-- Lets a scripted link accept a request or find its peer gone. -/
def acceptOrFail (board : Switchboard) (id : LinkId) (link : ScriptedLink) (request : Request)
    (accepts : Bool) : Switchboard × Option (Except LinkError Unit) :=
  if accepts then (board.accept id link request, some (.ok ()))
  else (board, some (.error .closed))

/-- Hands a request to a scripted link; no answer means that the link does not answer yet. -/
def deliverScripted (board : Switchboard) (now : Nat) (id : LinkId) (link : ScriptedLink)
    (request : Request) : Switchboard × Option (Except LinkError Unit) :=
  match link.script with
  | .accept => board.acceptOrFail id link request true
  | .fail e => (board, some (.error e))
  | .findTooLarge => (board, some (.error (.tooLarge request.raw.utf8ByteSize)))
  | .hang => (board, none)
  | .removeFirst accepts =>
    let board := board.withRegistry (board.registry.remove link.entry).1
    board.acceptOrFail id link request accepts
  | .drainFirst accepts =>
    let board := board.withRegistry (board.registry.beginDrain now link.entry).1
    board.acceptOrFail id link request accepts

/-- Hands a request to a link; no answer means that the link does not answer yet. -/
def deliver (board : Switchboard) (now : Nat) (id : LinkId) (request : Request) :
    Switchboard × Option (Except LinkError Unit) :=
  match board.links[id]? with
  | none => (board, some (.error .closed))
  | some (.scripted link) => board.deliverScripted now id link request
  | some (.framed link) =>
    let (link, answer) := link.deliver (messageId board.nextMessage) request
    ({ board.setLink id (.framed link) with nextMessage := board.nextMessage + 1 }, some answer)

/-! ## Reading from applications -/

/-- Notes that the reader of a link has something to do. -/
def wake (board : Switchboard) (id : LinkId) : Switchboard :=
  if board.woken.contains id then board else { board with woken := board.woken ++ [id] }

/-- Lets the reader of a framed link run until nothing is left to read. When it stops, the link is
dead and its connection is reported as disconnected. -/
def runReader (board : Switchboard) (id : LinkId) (link : FramedLink) : Switchboard :=
  let intake : Intake := ⟨board.registry, link.wire, board.mailbox, board.nextMessage⟩
  let (intake, stopped) := intake.run link.entry
  let link := { link with
    wire := intake.wire, alive := link.alive && !stopped, reading := !stopped }
  let board := { (board.withRegistry intake.registry).setLink id (.framed link) with
    mailbox := intake.mailbox, nextMessage := intake.nextMessage }
  if stopped then { board with disconnected := board.disconnected ++ [link.entry] } else board

/-- Lets the reader of a link run, if it has one that has not stopped. -/
def read (board : Switchboard) (id : LinkId) : Switchboard :=
  match board.framed? id with
  | some link => if link.reading then board.runReader id link else board
  | none => board

/-- Lets all readers that were woken run. -/
def settle (board : Switchboard) : Switchboard :=
  board.woken.foldl read { board with woken := [] }

/-- Drains the connections reported as disconnected, in the order of the reports. -/
def drainDisconnected (board : Switchboard) (now : Nat) :
    Switchboard × List (EntryId × Except RegistryError Unit) :=
  let step := fun (state : Dispatcher × List (EntryId × Except RegistryError Unit)) id =>
    let (dispatcher, result) := state.1.peerDisconnected now id
    (dispatcher, state.2 ++ [(id, result)])
  let (dispatcher, results) := board.disconnected.foldl step (board.dispatcher, [])
  ({ board with dispatcher, disconnected := [] }, results)

/-- Takes the messages passed on from applications. -/
def takeMessages (board : Switchboard) : Switchboard × List Message :=
  ({ board with mailbox := { board.mailbox with messages := [] } }, board.mailbox.messages)

/-! ## The side of the application -/

/-- Changes the stream of a framed link from the side of the application, and wakes its reader. -/
def touch (board : Switchboard) (id : LinkId) (change : Wire → Wire) : Switchboard :=
  match board.framed? id with
  | some link => (board.setLink id (.framed { link with wire := change link.wire })).wake id
  | none => board

/-- Takes what has been written to an application: the payloads, and whether the stream has ended
behind them. -/
def takeWritten (board : Switchboard) (id : LinkId) : Switchboard × List String × Bool :=
  match board.framed? id with
  | some link =>
    let (wire, payloads, ended) := link.wire.take
    (board.setLink id (.framed { link with wire }), payloads, ended)
  | none => (board, [], true)

end Switchboard

end CallDispatch
