import CallDispatch.Config.Basic
import CallDispatch.Dial.Dialer
import CallDispatch.Policy.Resolver
import CallDispatch.Server.Error
import CallDispatch.Switchboard.Flights

/-!
# The server

The server puts the pieces together: it listens for applications, asks the routing policy about
each request, dials the application that a request is routed to, dispatches the request, and sweeps
the registry from time to time. The network is an argument of every operation that uses it, and so
is the time at which connections begin to drain.

TLS is not part of this: of its handshake only the outcome is seen (`Reach`). Neither is the order
in which tasks get their turn: readers run when they are let.

## Main definitions

* `Server`, `Server.make`: a server for a configuration.
* `Server.start`, `Server.shutdown`, `Server.advance`: its life and the passing of time.
* `Server.handle`: what happens to a request.
-/

namespace CallDispatch

/-- The identity of a server, from the name of the program and a text that no other server has. -/
def serverIdentity (program unique : String) : String :=
  program ++ "-" ++ unique

/-- The network around a server. -/
structure Network where
  /-- Whether a listener can be bound to an address. -/
  canBind : SocketAddress → Bool
  /-- What becomes of an attempt to connect to a target. -/
  reach : Target → Reach

/-- No network at all: no target can be reached. -/
def Network.secluded : Network where
  canBind := SocketAddress.isBindableOffline
  reach := fun _ => .failed "network is unreachable"

/-- Which listeners were bound. -/
structure Listeners where
  tcp : Bool := false
  tls : Bool := false
deriving DecidableEq

/-- A server. -/
structure Server where
  config : Config
  identity : String
  table : RouteTable
  /-- Whether connections over TLS can be accepted. -/
  acceptsTls : Bool
  /-- Whether applications can be dialed over TLS. -/
  dialsTls : Bool
  dialer : Dialer
  /-- Whether a start was tried: the second one is refused. -/
  started : Bool := false
  /-- Whether the server was shut down. -/
  stopped : Bool := false
  /-- The listeners that accept connections. -/
  listening : Listeners := {}
  /-- The time that has passed, in milliseconds. -/
  clock : Nat := 0
  /-- When the next sweep is due, while the server runs. -/
  nextSweep : Option Nat := none
  /-- Whether the receiver of messages from applications was handed out. -/
  messagesTaken : Bool := false

namespace Server

/-- The switchboard of a server. -/
def board (server : Server) : Switchboard :=
  server.dialer.board

/-- The server with another switchboard. -/
def withBoard (server : Server) (board : Switchboard) : Server :=
  { server with dialer := { server.dialer with board } }

/-- A server for a configuration, which has to be valid. -/
def make (read : Url.Reader) (config : Config) (identity : String) (acceptsTls dialsTls : Bool) :
    Except ServerError Server :=
  match config.validate read, config.routeTable read with
  | .error problem, _ => .error (.config problem.message)
  | .ok (), .error e => .error (.resolver e)
  | .ok (), .ok table =>
    let board : Switchboard := { mailbox := ⟨config.channelCapacity, []⟩ }
    .ok { config, identity, table, acceptsTls, dialsTls, dialer := ⟨board, {}⟩ }

/-- What handshakes are run with. -/
def handshakeSettings (server : Server) : HandshakeSettings :=
  ⟨server.config.secret, server.identity⟩

/-- What applications are dialed with. -/
def dialSettings (server : Server) : DialSettings :=
  ⟨server.handshakeSettings, server.dialsTls⟩

/-! ## Background work -/

/-- Whether the background work of the server runs. -/
def isRunning (server : Server) : Bool :=
  server.nextSweep.isSome

/-- Does all that is due in the registry, and closes the links of connections closed by that. -/
def sweep (server : Server) (now : Nat) : Server :=
  let board := server.board
  let (dispatcher, expired, _) :=
    board.dispatcher.sweep now server.config.drainTimeout board.isAlive
  let board := expired.foldl (fun board handle => board.closeLink handle.link)
    { board with dispatcher }
  server.withBoard board

/-- Lets the readers of links run, and drains the connections that they report as lost. -/
def settle (server : Server) (now : Nat) : Server :=
  let board := server.board.settle
  server.withBoard (if server.isRunning then (board.drainDisconnected now).1 else board)

/-- Lets time pass. Sweeps come at fixed intervals; those between which nothing else happens have
the effect of one. -/
def advance (server : Server) (now ms : Nat) : Server :=
  let clock := server.clock + ms
  let server := { server with clock }
  match server.nextSweep with
  | none => server
  | some due =>
    if clock < due then server
    else
      let interval := server.config.livenessInterval
      let next := due + ((clock - due) / interval + 1) * interval
      ({ server with nextSweep := some next }.sweep now).settle now

/-! ## Starting and stopping -/

/-- Binds the listener for plain connections, if one is configured. -/
def bindTcp (server : Server) (network : Network) : Server × Except ServerError Unit :=
  match server.config.tcpListen with
  | none => (server, .ok ())
  | some address =>
    if network.canBind address then
      ({ server with listening := { server.listening with tcp := true } }, .ok ())
    else (server, .error (.io "cannot bind the listener"))

/-- Whether an address is taken by the listener for plain connections. -/
def isTaken (server : Server) (address : SocketAddress) : Bool :=
  server.listening.tcp && server.config.tcpListen.any (·.conflicts address)

/-- Binds the listener for connections over TLS, if one is configured. -/
def bindTls (server : Server) (network : Network) : Server × Except ServerError Unit :=
  match server.config.tlsListen with
  | none => (server, .ok ())
  | some address =>
    if ¬ server.acceptsTls then (server, .error (.config "tls_listen requires a TLS acceptor"))
    else if network.canBind address ∧ ¬ server.isTaken address then
      ({ server with listening := { server.listening with tls := true } }, .ok ())
    else (server, .error (.io "cannot bind the listener"))

/-- After a shutdown listeners do not stay open. -/
def closeIfStopped (server : Server) : Server :=
  if server.stopped then { server with listening := {} } else server

/-- Starts the background work with a first sweep. After a shutdown there is none. -/
def run (server : Server) (now : Nat) : Server :=
  if server.stopped then server
  else
    let next := server.clock + server.config.livenessInterval
    ({ server with nextSweep := some next }.sweep now).settle now

/-- Binds the configured listeners, the plain one first, and starts the background work. Only the
first start is admitted, whether or not it succeeds, and the plain listener stays open where only
the other one fails. -/
def start (server : Server) (network : Network) (now : Nat) :
    Server × Except ServerError Listeners :=
  if server.started then (server, .error (.config "server already started"))
  else
    match { server with started := true }.bindTcp network with
    | (server, .error e) => (server, .error e)
    | (server, .ok ()) =>
      match server.bindTls network with
      | (server, .error e) => (server.closeIfStopped, .error e)
      | (server, .ok ()) => (server.closeIfStopped.run now, .ok server.listening)

/-- Stops the background work and all listeners, and closes every connection with its link. -/
def shutdown (server : Server) : Server :=
  let (registry, closed) := server.board.registry.clear
  let board := closed.foldl (fun board handle => board.closeLink handle.link)
    (server.board.withRegistry registry)
  { server.withBoard board with stopped := true, listening := {}, nextSweep := none }

/-- Hands out the receiver of messages, which only the first call gets. -/
def takeReceiver (server : Server) : Server × Bool :=
  ({ server with messagesTaken := true }, !server.messagesTaken)

/-- Takes the next message from an application. -/
def nextMessage (server : Server) : Server × Option Message :=
  let mailbox := server.board.mailbox
  match mailbox.messages with
  | [] => (server, none)
  | message :: rest =>
    let board := { server.board with mailbox := { mailbox with messages := rest } }
    (server.withBoard board, some message)

/-! ## Connections -/

/-- Accepts a stream from an application and registers it if its handshake succeeds; the result is
what has been written to it so far with the connection, if there is one. Connections are registered
by the background work, so without it the stream is dropped behind its handshake. -/
def accept (server : Server) (transport : Transport) (peer : SocketAddress) (wire : Wire) :
    Server × Wire × Option Handle :=
  let (board, wire, result) :=
    server.board.establish server.handshakeSettings ⟨.inbound, transport, peer, none⟩ wire
  match result with
  | .error _ => (server.withBoard board, wire, none)
  | .ok entry =>
    if server.isRunning then
      let (board, result) := board.enroll peer entry wire
      (server.withBoard board, wire, result.toOption)
    else (server.withBoard board, wire, none)

/-- The connection cached under a uri, which is dialed first if there is none. -/
def dial (server : Server) (network : Network) (uri : String) :
    Server × Except DialError Handle :=
  let (dialer, results) := server.dialer.dialMany server.dialSettings network.reach uri 1
  ({ server with dialer }, results.head?.getD (.error (.invalidTarget uri)))

/-! ## Requests -/

/-- Dials the application that a request is routed to. Only a missing transport is final: any other
failure leaves it to the dispatch to find no connection. -/
def prepare (server : Server) (network : Network) (outcome : Outcome) :
    Server × Option DispatchError :=
  match outcome with
  | .routeByUri uri =>
    match server.dial network uri with
    | (server, .error (.transportUnavailable target)) =>
      (server, some (.transportUnavailable target))
    | (server, _) => (server, none)
  | _ => (server, none)

/-- Handles a request about which the routing policy has decided; no result means that a link does
not answer, and the request is given up. -/
def handle (server : Server) (network : Network) (now : Nat) (request : Request)
    (decision : Except ResolverError Outcome) : Server × Option DispatchResult :=
  match decision with
  | .error e => (server, some (.rejected (.resolverUnreachable e.message)))
  | .ok outcome =>
    match server.prepare network outcome with
    | (server, some e) => (server, some (.rejected e))
    | (server, none) =>
      let (board, result) := server.board.dispatch now request outcome
      (server.withBoard board, result)

/-- Handles a request; the routing services of the configuration are asked through `ask`. -/
def handleByRoutes (server : Server) (network : Network) (now : Nat)
    (ask : Policy.Query → Policy.Reply) (request : Request) : Server × Option DispatchResult :=
  server.handle network now request (Policy.resolve server.table ask request)

end Server

end CallDispatch
