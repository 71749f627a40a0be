import CallDispatch.Proofs.Dispatch.Flights
import CallDispatch.Proofs.Registry.Balance

/-!
# Traffic

A dispatcher with all its dispatches, those under way and those that have ended, and with the
reservations that others hold. Any number of dispatches go on in any order, and between any two
steps of them connections are registered, drained and closed, calls end and calls are reserved from
outside. The dispatches keep their places, so the flight at an index is the same one in a whole run.

## Main definitions

* `Traffic`: the dispatcher with everything that is under way.
* `Act`, `Traffic.perform`: one thing that happens, and what it does.
* `Traffic.run`: any number of them, one after another.
* `Traffic.op?`, `Traffic.ops`: the operations of the registry that acts make.
-/

namespace CallDispatch

/-- Where an operation puts the reservation it settles. -/
def Registry.Op.settled? : Registry.Op → Option Reservation
  | .commit reservation | .rollBack reservation | .abandonDead _ reservation => some reservation
  | _ => none

/-- A dispatcher with its dispatches and with the reservations held by others. -/
structure Traffic where
  dispatcher : Dispatcher := {}
  flights : List Flight := []
  /-- The reservations made outside of dispatches that are not settled. -/
  held : List Reservation := []
  /-- The ids that have ever been registered. -/
  known : List EntryId := []

/-- Something that happens to a dispatcher. -/
inductive Act
  /-- An operation of the registry, or on a reservation that is held. -/
  | operate (op : Registry.Op)
  | start (request : Request) (outcome : Outcome)
  /-- Something happens to the dispatch that was started as the one with this index. -/
  | flight (index : Nat) (event : Event)
  | callEnded (transactionId : String)
  | peerDisconnected (now : Nat) (id : EntryId)
  | purge

namespace Traffic

/-- The registry of the dispatcher. -/
def registry (traffic : Traffic) : Registry :=
  traffic.dispatcher.registry

/-- An operation from outside. A reservation can be settled once, by whoever holds it. -/
def operate (traffic : Traffic) (op : Registry.Op) : Traffic :=
  match op.settled? with
  | some reservation =>
    if reservation ∈ traffic.held then
      { traffic with
        dispatcher := traffic.dispatcher.operate op
        held := traffic.held.erase reservation }
    else traffic
  | none =>
    { traffic with
      dispatcher := traffic.dispatcher.operate op
      held := (traffic.registry.reserved? op).toList ++ traffic.held
      known := (traffic.registry.added? op).toList ++ traffic.known }

/-- What an act does, before it is looked at who became eligible by it. -/
def proceed (traffic : Traffic) : Act → Traffic
  | .operate op => traffic.operate op
  | .start request outcome => { traffic with flights := traffic.flights ++ [{ request, outcome }] }
  | .flight index event =>
    match traffic.flights[index]? with
    | none => traffic
    | some flight =>
      let (dispatcher, next) := flight.after traffic.dispatcher event
      { traffic with dispatcher, flights := traffic.flights.set index next }
  | .callEnded transactionId =>
    { traffic with dispatcher := (traffic.dispatcher.callEnded transactionId).1 }
  | .peerDisconnected now id =>
    { traffic with dispatcher := (traffic.dispatcher.peerDisconnected now id).1 }
  | .purge => { traffic with dispatcher := traffic.dispatcher.purgeClosed.1 }

/-- What an act does. -/
def perform (traffic : Traffic) (act : Act) : Traffic :=
  let next := traffic.proceed act
  { next with flights := next.flights.map (Flight.watched traffic.registry next.registry) }

/-- What a sequence of acts does. -/
def run (traffic : Traffic) (acts : List Act) : Traffic :=
  acts.foldl perform traffic

@[simp] lemma run_nil (traffic : Traffic) : traffic.run [] = traffic := rfl

@[simp] lemma run_cons (traffic : Traffic) (act : Act) (acts : List Act) :
    traffic.run (act :: acts) = (traffic.perform act).run acts := rfl

/-- The operation of the registry that an act makes. -/
def op? (traffic : Traffic) : Act → Option Registry.Op
  | .operate op =>
    match op.settled? with
    | some reservation => if reservation ∈ traffic.held then some op else none
    | none => some op
  | .flight index event =>
    traffic.flights[index]?.bind fun flight => flight.op? traffic.dispatcher event
  | .callEnded transactionId => (traffic.dispatcher.callOf transactionId).map .release
  | .peerDisconnected now id => some (.beginDrain now id)
  | .start .. | .purge => none

/-- The operations of the registry that a sequence of acts makes. -/
def ops (traffic : Traffic) : List Act → List Registry.Op
  | [] => []
  | act :: acts => (traffic.op? act).toList ++ (traffic.perform act).ops acts

end Traffic

/-! ## The registry under acts -/

/-- A move makes the operation it says. -/
lemma Flight.Moves.registry_eq {flight flight' : Flight} {dispatcher dispatcher' : Dispatcher}
    {op : Option Registry.Op} (h : flight.Moves dispatcher op dispatcher' flight') :
    dispatcher'.registry = dispatcher.registry.afterAny op := by
  cases h with
  | accept attempt hstage =>
    unfold Dispatcher.bind
    cases dispatcher.callOf attempt.request.transactionId <;> rfl
  | _ => rfl

namespace Traffic

variable {traffic : Traffic}

@[simp] lemma dispatcher_perform (act : Act) :
    (traffic.perform act).dispatcher = (traffic.proceed act).dispatcher := rfl

@[simp] lemma known_perform (act : Act) :
    (traffic.perform act).known = (traffic.proceed act).known := rfl

/-- An act makes the operation it says, and changes the registry in no other way. -/
lemma registry_perform (traffic : Traffic) (act : Act) :
    (traffic.perform act).registry = traffic.registry.afterAny (traffic.op? act) := by
  rw [registry, dispatcher_perform]
  cases act with
  | operate op =>
    simp only [proceed, operate, op?]
    split
    · split <;> rfl
    · rfl
  | start request outcome => rfl
  | flight index event =>
    simp only [proceed, op?]
    cases traffic.flights[index]? with
    | none => rfl
    | some flight => exact (flight.moves_after traffic.dispatcher event).registry_eq
  | callEnded transactionId =>
    simp only [proceed, op?, Dispatcher.callEnded]
    cases traffic.dispatcher.callOf transactionId <;> rfl
  | peerDisconnected now id => rfl
  | purge => rfl

/-- A sequence of acts makes the operations it says. -/
lemma registry_run (traffic : Traffic) (acts : List Act) :
    (traffic.run acts).registry = traffic.registry.run (traffic.ops acts) := by
  induction acts generalizing traffic with
  | nil => rfl
  | cons act acts ih =>
    rw [run_cons, ih, registry_perform, ops]
    cases traffic.op? act <;> rfl

/-- The registry is consistent after any acts. -/
lemma consistent_registry_run (acts : List Act) : (({} : Traffic).run acts).registry.Consistent := by
  rw [registry_run]
  exact Registry.consistent_run _

lemma run_append (traffic : Traffic) (before behind : List Act) :
    traffic.run (before ++ behind) = (traffic.run before).run behind :=
  List.foldl_append

lemma ops_append (traffic : Traffic) (before behind : List Act) :
    traffic.ops (before ++ behind) = traffic.ops before ++ (traffic.run before).ops behind := by
  induction before generalizing traffic with
  | nil => rfl
  | cons act acts ih =>
    simp only [List.cons_append, ops, ih, run_cons, List.append_assoc]

/-- The registry stays consistent, whatever happens. -/
lemma consistent_perform (h : traffic.registry.Consistent) (act : Act) :
    (traffic.perform act).registry.Consistent := by
  rw [registry_perform]
  exact Registry.kept_consistent.afterAny (traffic.op? act) h

end Traffic

end CallDispatch
