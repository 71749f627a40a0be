import CallDispatch.Connection.Entry
import CallDispatch.Dial.Error
import CallDispatch.Link.Wire

/-!
# The handshake of a connection

The first frame of an application is `id|authenticate|secret|tags`. Only the exact secret is
accepted; the answer then is an `OK` response with the identity of the server, and the tags are
those of the comma-separated list, which may be missing. A frame of another kind or with another
secret is answered by a `NO` response and ends the connection, as does everything else.
-/

namespace CallDispatch

open Text

/-- What the handshake is run with. -/
structure HandshakeSettings where
  secret : String
  /-- How the server calls itself in its answer. -/
  identity : String
deriving DecidableEq

namespace Handshake

/-- Refuses an application with a `NO` response, whether or not that can be written. -/
def refuse (wire : Wire) (answerId : String) (frame : Frame) (answer reason : String) :
    Wire × Except DialError TagSet :=
  let no := Frame.response answerId frame.id false (some answer)
  ((wire.send no.payload).1, .error (.handshake reason))

/-- Answers the first frame of an application. -/
def answer (settings : HandshakeSettings) (wire : Wire) (answerId : String) (frame : Frame) :
    Wire × Except DialError TagSet :=
  if frame.kind ≠ "authenticate" then
    refuse wire answerId frame "authenticate first"
      ("unexpected '" ++ frame.kind ++ "' message before authenticating")
  else if frame.args.head?.getD "" ≠ settings.secret then
    refuse wire answerId frame "incorrect secret" "incorrect secret"
  else
    let ok := Frame.response answerId frame.id true (some settings.identity)
    match wire.send ok.payload with
    | (wire, .error e) => (wire, .error (.link e))
    | (wire, .ok ()) => (wire, .ok ((frame.args[1]?).elim .empty TagSet.parse))

/-- Runs the handshake on what has arrived; `none` while the first frame is incomplete. -/
def run (settings : HandshakeSettings) (wire : Wire) (answerId : String) :
    Wire × Option (Except DialError TagSet) :=
  match wire.read with
  | (wire, .nothing) => (wire, none)
  | (wire, .finished) =>
    (wire, some (.error (.handshake "connection closed before authenticating")))
  | (wire, .failure e) => (wire, some (.error (.link e)))
  | (wire, .payload text) =>
    match Frame.parse text with
    | .error e => (wire, some (.error (.link e)))
    | .ok frame =>
      let (wire, result) := answer settings wire answerId frame
      (wire, some result)

/-- Runs the handshake as chunks of bytes arrive, until its result is known. What arrives behind
the first frame is left for later. -/
def runChunks (settings : HandshakeSettings) (answerId : String) (wire : Wire) :
    List Bytes → Wire × Option (Except DialError TagSet)
  | [] => run settings wire answerId
  | chunk :: rest =>
    match run settings (wire.arrive chunk) answerId with
    | (wire, none) => runChunks settings answerId wire rest
    | (wire, some result) => (rest.foldl Wire.arrive wire, some result)

end Handshake

end CallDispatch
