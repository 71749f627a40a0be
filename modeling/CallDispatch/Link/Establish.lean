import CallDispatch.Link.Handshake

/-!
# Establishing a connection

A stream becomes a connection when its handshake succeeds. Until then there is no entry: a stream
whose handshake fails, or does not come to an end in time, is dropped.
-/

namespace CallDispatch

/-- What is known about a stream before its handshake. -/
structure Opening where
  direction : Direction
  transport : Transport
  peer : SocketAddress
  /-- The uri at which the application was dialed. -/
  target : Option String := none
deriving DecidableEq

/-- The entry of a connection whose handshake gave the tags. -/
def Opening.entry (opening : Opening) (id : EntryId) (tags : TagSet) : Entry where
  handle := {
    id, tags, link := 0
    direction := opening.direction
    transport := opening.transport
    target := opening.target
    remote := some opening.peer }

/-- Runs the handshake on everything that arrives in time, and makes the entry of the connection.
The answer of the server has the id `answerId`. -/
def Opening.establish (opening : Opening) (settings : HandshakeSettings) (answerId : String)
    (id : EntryId) (wire : Wire) : Wire × Except DialError Entry :=
  match Handshake.run settings wire answerId with
  | (wire, none) => (wire, .error (.timeout opening.peer.text))
  | (wire, some (.error e)) => (wire, .error e)
  | (wire, some (.ok tags)) => (wire, .ok (opening.entry id tags))

/-- The description of a connection that is not registered yet. -/
def Entry.describePending (entry : Entry) : String :=
  "PendingConnection \x7b entry: " ++ entry.describe ++ " \x7d"

end CallDispatch
