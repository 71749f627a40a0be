import CallDispatch.Dial.Locks
import CallDispatch.Dial.Target
import CallDispatch.Switchboard.Basic
import CallDispatch.Text.Duration

/-!
# Dialing applications

An application that listens is dialed by the first request routed to its uri; the connection is
then found under that uri until it closes. What the network does with an attempt to connect is an
argument, so that dialing is a function of it. A stream over TLS is reached when its own handshake
is done; what arrives on a stream is all that arrives in time.
-/

namespace CallDispatch

/-- What becomes of an attempt to connect. -/
inductive Reach
  | refused
  | timedOut
  | failed (reason : String)
  /-- The other end, what arrives from it in time, and whether it closes its side then. -/
  | connected (peer : SocketAddress) (arriving : Text.Bytes) (ended : Bool)
deriving DecidableEq

/-- What dialing depends on besides the switchboard. -/
structure DialSettings where
  handshake : HandshakeSettings
  /-- Whether TLS targets can be dialed. -/
  tls : Bool
deriving DecidableEq

namespace Switchboard

/-- Runs the handshake on a stream to a dialed application, and registers the connection. -/
def greet (board : Switchboard) (settings : HandshakeSettings) (opening : Opening)
    (arriving : Text.Bytes) (ended : Bool) : Switchboard × Except DialError Handle :=
  let wire := Wire.arrive {} arriving
  let wire := if ended then wire.finish else wire
  match board.establish settings opening wire with
  | (board, _, .error e) => (board, .error e)
  | (board, wire, .ok entry) =>
    match board.enroll opening.peer entry wire with
    | (board, .ok handle) => (board, .ok handle)
    | (board, .error e) => (board, .error (.registry e))

/-- Dials a target, and registers the connection under its uri. -/
def connectTo (board : Switchboard) (settings : DialSettings) (reach : Target → Reach)
    (uri : String) (target : Target) : Switchboard × Except DialError Handle :=
  if target.transport = .tls ∧ ¬ settings.tls then
    (board, .error (.transportUnavailable target.text))
  else
    match reach target with
    | .refused => (board, .error (.connectRefused target.text))
    | .timedOut => (board, .error (.timeout target.text))
    | .failed reason => (board, .error (.io reason))
    | .connected peer arriving ended =>
      board.greet settings.handshake ⟨.outbound, target.transport, peer, some uri⟩ arriving ended

/-- Dials a uri that is not cached. -/
def dialAnew (board : Switchboard) (settings : DialSettings) (reach : Target → Reach)
    (uri : String) : Switchboard × Except DialError Handle :=
  match Target.parse uri with
  | none => (board, .error (.invalidTarget uri))
  | some target => board.connectTo settings reach uri target

/-- The connection cached under a uri, which is dialed first if there is none. -/
def dial (board : Switchboard) (settings : DialSettings) (reach : Target → Reach) (uri : String) :
    Switchboard × Except DialError Handle :=
  match board.registry.findTarget uri with
  | some handle => (board, .ok handle)
  | none => board.dialAnew settings reach uri

end Switchboard

/-- A switchboard with callers that want uris dialed. -/
structure Dialer where
  board : Switchboard
  locks : Locks
deriving DecidableEq

namespace Dialer

/-- A caller comes with a uri: the cached connection, or a place in front of the lock of the uri. -/
def come (dialer : Dialer) (caller : Nat) (uri : String) : Dialer × Option Handle :=
  match dialer.board.registry.findTarget uri with
  | some handle => (dialer, some handle)
  | none => ({ dialer with locks := dialer.locks.enter caller uri }, none)

/-- A caller gets the lock, looks once more, dials and leaves. -/
def serve (dialer : Dialer) (settings : DialSettings) (reach : Target → Reach) (caller : Nat)
    (uri : String) : Dialer × Except DialError Handle :=
  let locks := (dialer.locks.acquire caller).1
  let (board, result) := dialer.board.dial settings reach uri
  (⟨board, (locks.release caller).leave caller⟩, result)

/-- Serves callers one after another. -/
def serveAll (dialer : Dialer) (settings : DialSettings) (reach : Target → Reach) (uri : String) :
    List (Nat × Option Handle) → Dialer × List (Except DialError Handle)
  | [] => (dialer, [])
  | (_, some handle) :: rest =>
    let (dialer, results) := dialer.serveAll settings reach uri rest
    (dialer, .ok handle :: results)
  | (caller, none) :: rest =>
    let (dialer, result) := dialer.serve settings reach caller uri
    let (dialer, results) := dialer.serveAll settings reach uri rest
    (dialer, result :: results)

/-- Lets callers with the numbers below `count` come at once with one uri, and serves them all. -/
def dialMany (dialer : Dialer) (settings : DialSettings) (reach : Target → Reach) (uri : String)
    (count : Nat) : Dialer × List (Except DialError Handle) :=
  let step := fun (state : Dialer × List (Nat × Option Handle)) caller =>
    let (dialer, found) := state.1.come caller uri
    (dialer, state.2 ++ [(caller, found)])
  let (dialer, callers) := (List.range count).foldl step (dialer, [])
  dialer.serveAll settings reach uri callers

/-- The description of a dialer that connects within `timeout`. -/
def describe (dialer : Dialer) (timeout : Nat) : String :=
  "Dialer \x7b dial_timeout: " ++ Text.duration timeout ++ ", in_flight: " ++
    Text.decimal dialer.locks.size ++ " \x7d"

end Dialer

end CallDispatch
