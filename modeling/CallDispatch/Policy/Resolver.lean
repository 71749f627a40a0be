import CallDispatch.Policy.RouteTable
import CallDispatch.Sip.Request
import CallDispatch.Text.Utf8

/-!
# Asking the routing service

A request whose method has a route is described to the routing service in the query of an HTTP
request, and the answer decides. Without a route the request goes to the default pool. An answer
other than success refuses the request: with its own status if that is one of failure, and else with
that of an internal error.
-/

namespace CallDispatch

open Text

/-- The parameters that describe a request to the routing service. -/
def Request.routingQuery (request : Request) : List (String × String) :=
  let optional := [
    ("domain", request.domain),
    ("source_address", request.source.map SocketAddress.ipText),
    ("fromUser", request.fromUser),
    ("toUser", request.toUser),
    ("uriUser", request.uriUser)]
  [("method", request.method), ("protocol", request.protocol), ("uri", request.uri)] ++
    optional.filterMap fun (key, value) => value.map (key, ·)

namespace Policy

/-- The HTTP request that asks the routing service. -/
structure Query where
  method : String
  url : Url
  accept : String
deriving DecidableEq

/-- What comes back from the routing service. -/
inductive Reply
  | answer (status : Nat) (body : Bytes)
  | failed (reason : String)
deriving DecidableEq

/-- The HTTP request that asks about a request. -/
def query (route : HttpRoute) (request : Request) : Query :=
  ⟨route.method, route.url.withQuery request.routingQuery, "application/json"⟩

/-- The status with which a request is refused after an answer that is not a success. -/
def refusal (status : Nat) : Nat :=
  if 400 ≤ status ∧ status ≤ 699 then status else Sip.serverInternalError

/-- What a reply decides. -/
def ofReply : Reply → Except ResolverError Outcome
  | .failed reason => .error (.unreachable reason)
  | .answer status body =>
    if 200 ≤ status ∧ status ≤ 299 then Instruction.parse (readUtf8Lossy body)
    else .ok (.reject (refusal status))

/-- Decides about a request; `ask` sends a query and returns what comes back. -/
def resolve (table : RouteTable) (ask : Query → Reply) (request : Request) :
    Except ResolverError Outcome :=
  match table.find request.method with
  | none => .ok .routeDefault
  | some route => ofReply (ask (query route request))

end Policy

end CallDispatch
