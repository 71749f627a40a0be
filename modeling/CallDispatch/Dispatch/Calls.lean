import CallDispatch.Dispatch.Basic
import CallDispatch.Registry.Sweep

/-!
# The end of calls

Calls end one by one, or are forgotten when the connection that handles them is gone. A sweep does
all that is due at one time: it drains connections with dead links, closes those that drain for too
long and forgets the calls of closed connections.
-/

namespace CallDispatch.Dispatcher

/-- Ends the call of a transaction, and returns the connection that handled it. -/
def callEnded (dispatcher : Dispatcher) (transactionId : String) : Dispatcher × Option EntryId :=
  match dispatcher.callOf transactionId with
  | none => (dispatcher, none)
  | some id =>
    ({ registry := (dispatcher.registry.release id).1
       calls := dispatcher.calls.filter (·.1 ≠ transactionId) },
      some id)

/-- Drains the connection whose transport went away. -/
def peerDisconnected (dispatcher : Dispatcher) (now : Nat) (id : EntryId) :
    Dispatcher × Except RegistryError Unit :=
  let (registry, result) := dispatcher.registry.beginDrain now id
  ({ dispatcher with registry }, result.map fun _ => ())

/-- Forgets the calls of closed connections, and returns how many those are. -/
def purgeClosed (dispatcher : Dispatcher) : Dispatcher × Nat :=
  let kept := dispatcher.calls.filter (dispatcher.registry.contains ·.2)
  ({ dispatcher with calls := kept }, dispatcher.calls.length - kept.length)

/-- Does all that is due: the result are the connections that were closed because they had been
draining for at least `timeout`, and the number of calls forgotten. -/
def sweep (dispatcher : Dispatcher) (now timeout : Nat) (isAlive : Handle → Bool) :
    Dispatcher × List Handle × Nat :=
  let (registry, _) := dispatcher.registry.prune now isAlive
  let (registry, expired) := registry.expire now timeout
  let (dispatcher, purged) := { dispatcher with registry }.purgeClosed
  (dispatcher, expired, purged)

end CallDispatch.Dispatcher
