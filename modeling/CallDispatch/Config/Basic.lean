import CallDispatch.Policy.RouteTable
import CallDispatch.Net.SocketAddress

/-!
# Configuration

What a server can be configured with, the defaults, and the rules a configuration has to keep. The
shared secret stands in a field of the first frame of every application, so it must be free of the
characters that end such a field. How the URLs of routes are read is an argument.
-/

namespace CallDispatch

open Text

/-- Which routing service is asked about a SIP method. -/
structure RouteConfig where
  sipMethod : String
  httpMethod : String := "GET"
  url : String
deriving DecidableEq

/-- The configuration of a server; durations are in milliseconds. -/
structure Config where
  /-- Where applications connect over plain TCP: by default port 9022 of every address. -/
  tcpListen : Option SocketAddress := some (.v4 ⟨0, 0, 0, 0⟩ 9022)
  /-- Where applications connect over TLS. -/
  tlsListen : Option SocketAddress := none
  /-- The secret that applications authenticate with. -/
  secret : String := "cymru"
  /-- How long an application may take to authenticate. -/
  handshakeTimeout : Nat := 5000
  /-- How long connecting to an application may take. -/
  dialTimeout : Nat := 3000
  /-- How long a draining connection is kept for its calls. -/
  drainTimeout : Nat := 300000
  /-- How long the routing service may take to answer. -/
  resolverTimeout : Nat := 2000
  /-- The time between two sweeps. -/
  livenessInterval : Nat := 5000
  routes : List RouteConfig := []
  /-- How many messages and events are kept for a slow receiver. -/
  channelCapacity : Nat := 100
deriving DecidableEq

namespace Config

/-! ## Validation -/

/-- Why a configuration is refused. -/
inductive Problem
  | emptySecret
  | unusableSecret
  | zeroDuration (name : String)
  | zeroCapacity
  | sharedAddress (address : SocketAddress)
  | route (error : ResolverError)
deriving DecidableEq

/-- The wording of a problem. -/
def Problem.message : Problem → String
  | emptySecret => "Secret must not be empty"
  | unusableSecret => "Secret must not contain '|' or line breaks"
  | zeroDuration name => name ++ " must be greater than 0"
  | zeroCapacity => "Event channel capacity must be greater than 0"
  | sharedAddress address => "TCP and TLS listeners both bound to " ++ address.text
  | route error => error.message

/-- Adds routes to a table one after another, up to the first that is refused. -/
def addRoutes (read : Url.Reader) (table : RouteTable) :
    List RouteConfig → Except ResolverError RouteTable
  | [] => .ok table
  | route :: rest =>
    match table.add read route.sipMethod route.httpMethod route.url with
    | (table, .ok ()) => addRoutes read table rest
    | (_, .error e) => .error e

/-- The routing table of a configuration. -/
def routeTable (config : Config) (read : Url.Reader) : Except ResolverError RouteTable :=
  addRoutes read {} config.routes

/-- The durations that must not be zero. -/
def requiredDurations (config : Config) : List (String × Nat) :=
  [("Handshake timeout", config.handshakeTimeout), ("Dial timeout", config.dialTimeout),
    ("Resolver timeout", config.resolverTimeout), ("Liveness interval", config.livenessInterval)]

/-- The address that both listeners would be bound to; port 0 stands for a port of its own each. -/
def sharedAddress (config : Config) : Option SocketAddress :=
  match config.tcpListen, config.tlsListen with
  | some tcp, some tls => if tcp = tls ∧ tcp.port ≠ 0 then some tcp else none
  | _, _ => none

/-- The first rule that a configuration breaks. -/
def validate (config : Config) (read : Url.Reader) : Except Problem Unit :=
  if config.secret = "" then .error .emptySecret
  else if config.secret.toList.any ['|', '\r', '\n'].contains then .error .unusableSecret
  else
    match config.requiredDurations.find? (·.2 == 0) with
    | some (name, _) => .error (.zeroDuration name)
    | none =>
      if config.channelCapacity = 0 then .error .zeroCapacity
      else
        match config.sharedAddress, config.routeTable read with
        | some address, _ => .error (.sharedAddress address)
        | none, .error e => .error (.route e)
        | none, .ok _ => .ok ()

end Config

end CallDispatch
