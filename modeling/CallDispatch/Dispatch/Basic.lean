import CallDispatch.Link.Error
import CallDispatch.Policy.Outcome
import CallDispatch.Registry.Selection
import CallDispatch.Sip.Request
import CallDispatch.Sip.Status

/-!
# Dispatching requests

A dispatch binds a request to one application or ends with a final status. Since handing a request
over takes time, a dispatch is run in steps: it begins, and then waits for the answer of one link
after another; each answer settles an attempt and may start the next one. In between, anything else
may happen to the registry. A dispatch to a pool tries as many connections as the pool had when it
began, each at most once, and goes on only while the peers it tries turn out to be dead.

## Main definitions

* `Dispatcher`: the registry and the calls that are bound to connections.
* `Attempt`: a dispatch that waits for a link.
* `Dispatcher.begin`, `Dispatcher.settle`, `Dispatcher.cancel`: the steps of a dispatch.
* `Dispatcher.dispatch`: a whole dispatch with nothing in between.
-/

namespace CallDispatch

open Text

/-! ## Results -/

/-- Why a request is not delivered. -/
inductive DispatchError
  | noAppsConnected
  | policyRejected (status : Nat)
  | noMatchingTag (tag : String)
  | noSuchTarget (uri : String)
  | transportUnavailable (reason : String)
  | resolverUnreachable (reason : String)
  | messageTooLarge (length : Nat)
deriving DecidableEq

namespace DispatchError

/-- The wording of a dispatch error. -/
def message : DispatchError → String
  | noAppsConnected => "No applications connected"
  | policyRejected status =>
    "Request rejected by routing policy with status " ++ decimal status
  | noMatchingTag tag => "No application advertises tag '" ++ tag ++ "'"
  | noSuchTarget uri => "No application connected at " ++ uri
  | transportUnavailable reason => "No transport available: " ++ reason
  | resolverUnreachable reason => "Routing service unreachable: " ++ reason
  | messageTooLarge length =>
    "Request of " ++ decimal length ++ " bytes is too large to hand to an application"

/-- The SIP status with which the request is answered. -/
def status : DispatchError → Nat
  | noAppsConnected => Sip.serviceUnavailable
  | policyRejected status => status
  | noMatchingTag _ | noSuchTarget _ => Sip.temporarilyUnavailable
  | transportUnavailable _ | resolverUnreachable _ => Sip.serverInternalError
  | messageTooLarge _ => Sip.messageTooLarge

end DispatchError

/-- How a dispatch ends. -/
inductive DispatchResult
  | delivered (handle : Handle)
  | rejected (error : DispatchError)
deriving DecidableEq

/-- What the transaction layer is told to do. -/
inductive Action
  | deliver (id : EntryId)
  | respond (status : Nat) (reason : String)
deriving DecidableEq

/-- The response to a request that is not delivered: the reason is the phrase of the status, or the
wording of the error for a status without one. -/
def DispatchError.action (error : DispatchError) : Action :=
  .respond error.status ((Sip.reasonPhrase error.status).getD error.message)

/-- What the transaction layer is told about the end of a dispatch. -/
def DispatchResult.action : DispatchResult → Action
  | delivered handle => .deliver handle.id
  | rejected error => error.action

/-! ## Dispatches under way -/

/-- Where the connection of an attempt comes from, and what is left if it fails. -/
inductive Route
  /-- The pool, how many more connections may be tried, and those that failed. -/
  | pooled (selector : Selector) (triesLeft : Nat) (failed : List EntryId)
  /-- The connection dialed at a uri. -/
  | direct (uri : String)
deriving DecidableEq

/-- A dispatch that waits for a link to take the request. -/
structure Attempt where
  request : Request
  route : Route
  reservation : Reservation
deriving DecidableEq

/-- How many more links a dispatch may try, the one it waits for included. -/
def Attempt.bound (attempt : Attempt) : Nat :=
  match attempt.route with
  | .pooled _ triesLeft _ => triesLeft + 1
  | .direct _ => 1

/-- A dispatch that has ended or waits for a link. -/
inductive Progress
  | finished (result : DispatchResult)
  | waiting (attempt : Attempt)
deriving DecidableEq

/-- The registry, and the calls bound to its connections. -/
structure Dispatcher where
  registry : Registry := {}
  /-- The connection that handles each transaction. -/
  calls : List (String × EntryId) := []
deriving DecidableEq

namespace Dispatcher

/-- The connection that handles a transaction. -/
def callOf (dispatcher : Dispatcher) (transactionId : String) : Option EntryId :=
  dispatcher.calls.lookup transactionId

/-- How many transactions are bound to connections. -/
def activeCalls (dispatcher : Dispatcher) : Nat :=
  dispatcher.calls.length

/-- Tries the next connection of a pool, if there may be one more. -/
def tryNext (dispatcher : Dispatcher) (request : Request) (selector : Selector) (tries : Nat)
    (failed : List EntryId) : Dispatcher × Progress :=
  match tries with
  | 0 => (dispatcher, .finished (.rejected .noAppsConnected))
  | triesLeft + 1 =>
    match dispatcher.registry.reserve selector (some request.method) failed with
    | (registry, none) =>
      ({ dispatcher with registry }, .finished (.rejected .noAppsConnected))
    | (registry, some reservation) =>
      ({ dispatcher with registry },
        .waiting ⟨request, .pooled selector triesLeft failed, reservation⟩)

/-- The error of a dispatch to a pool that is empty. -/
def emptyPool : Selector → DispatchError
  | .untagged => .noAppsConnected
  | .tag tag => .noMatchingTag tag

/-- How many connections a dispatch to a pool may try, all that the pool has now. -/
def observe (dispatcher : Dispatcher) (request : Request) (selector : Selector) :
    Except DispatchError Nat :=
  match (dispatcher.registry.snapshot selector (some request.method)).length with
  | 0 => .error (emptyPool selector)
  | observed + 1 => .ok (observed + 1)

/-- Begins a dispatch to a pool. -/
def beginPooled (dispatcher : Dispatcher) (request : Request) (selector : Selector) :
    Dispatcher × Progress :=
  if dispatcher.registry.activeCount = 0 then
    (dispatcher, .finished (.rejected .noAppsConnected))
  else
    match dispatcher.observe request selector with
    | .error e => (dispatcher, .finished (.rejected e))
    | .ok tries => dispatcher.tryNext request selector tries []

/-- The description of an optional transport. -/
def describeRequired : Option Transport → String
  | none => "None"
  | some transport => "Some(" ++ transport.describe ++ ")"

/-- The connection dialed at a uri, if it can carry the request. -/
def locate (dispatcher : Dispatcher) (request : Request) (uri : String) :
    Except DispatchError Handle :=
  match dispatcher.registry.findTarget uri with
  | none => .error (.noSuchTarget uri)
  | some handle =>
    if handle.transport.satisfies request.requiredTransport then .ok handle
    else
      let reason := handle.transport.text ++ " cannot carry a request requiring " ++
        describeRequired request.requiredTransport
      .error (.transportUnavailable reason)

/-- Tries the connection dialed at a uri, if it is still there. -/
def tryLocated (dispatcher : Dispatcher) (request : Request) (uri : String) (id : EntryId) :
    Dispatcher × Progress :=
  match dispatcher.registry.reserveEntry id with
  | (registry, none) => ({ dispatcher with registry }, .finished (.rejected (.noSuchTarget uri)))
  | (registry, some reservation) =>
    ({ dispatcher with registry }, .waiting ⟨request, .direct uri, reservation⟩)

/-- Begins a dispatch to the connection dialed at a uri. -/
def beginDirect (dispatcher : Dispatcher) (request : Request) (uri : String) :
    Dispatcher × Progress :=
  match dispatcher.locate request uri with
  | .error e => (dispatcher, .finished (.rejected e))
  | .ok handle => dispatcher.tryLocated request uri handle.id

/-- Begins a dispatch as the routing policy decided. -/
def begin (dispatcher : Dispatcher) (request : Request) (outcome : Outcome) :
    Dispatcher × Progress :=
  match outcome with
  | .reject status => (dispatcher, .finished (.rejected (.policyRejected status)))
  | .routeByUri uri => dispatcher.beginDirect request uri
  | .routeByTag tag => dispatcher.beginPooled request (.tag tag)
  | .routeDefault => dispatcher.beginPooled request .untagged

/-- Binds a transaction to a connection. A connection that it was bound to before loses the call. -/
def bind (dispatcher : Dispatcher) (transactionId : String) (id : EntryId) : Dispatcher :=
  let calls := (transactionId, id) :: dispatcher.calls.filter (·.1 ≠ transactionId)
  match dispatcher.callOf transactionId with
  | none => { dispatcher with calls }
  | some previous => { registry := (dispatcher.registry.release previous).1, calls }

/-- Goes on behind a connection whose peer is dead. -/
def afterFailure (dispatcher : Dispatcher) (attempt : Attempt) : Dispatcher × Progress :=
  match attempt.route with
  | .pooled selector triesLeft failed =>
    dispatcher.tryNext attempt.request selector triesLeft (attempt.reservation.handle.id :: failed)
  | .direct uri => (dispatcher, .finished (.rejected (.noSuchTarget uri)))

/-- Settles an attempt by the answer of its link. -/
def settle (dispatcher : Dispatcher) (now : Nat) (attempt : Attempt)
    (answer : Except LinkError Unit) : Dispatcher × Progress :=
  let handle := attempt.reservation.handle
  match answer with
  | .ok () =>
    (dispatcher.bind attempt.request.transactionId handle.id, .finished (.delivered handle))
  | .error (.tooLarge length) =>
    ({ dispatcher with registry := dispatcher.registry.rollBack attempt.reservation },
      .finished (.rejected (.messageTooLarge length)))
  | .error _ =>
    let registry := dispatcher.registry.abandonDead now attempt.reservation
    afterFailure { dispatcher with registry } attempt

/-- Gives up a dispatch that waits for a link. -/
def cancel (dispatcher : Dispatcher) (attempt : Attempt) : Dispatcher :=
  { dispatcher with registry := dispatcher.registry.rollBack attempt.reservation }

/-- Settles attempts until the dispatch ends. `answers` says how each link answers the request, and
every attempt takes one of the remaining `tries`. -/
def pursue (now : Nat) (answers : Handle → Except LinkError Unit) :
    Nat → Dispatcher × Progress → Dispatcher × Progress
  | tries + 1, (dispatcher, .waiting attempt) =>
    pursue now answers tries
      (dispatcher.settle now attempt (answers attempt.reservation.handle))
  | _, state => state

/-- A whole dispatch while nothing else happens, with the answers of the links given. -/
def dispatch (dispatcher : Dispatcher) (now : Nat) (answers : Handle → Except LinkError Unit)
    (request : Request) (outcome : Outcome) : Dispatcher × Progress :=
  let (dispatcher, progress) := dispatcher.begin request outcome
  match progress with
  | .waiting attempt => pursue now answers attempt.bound (dispatcher, .waiting attempt)
  | .finished result => (dispatcher, .finished result)

end Dispatcher

end CallDispatch
