import CallDispatch.Switchboard.Basic

/-!
# Dispatches under way

A dispatch on the switchboard hands the request to one link after another, for as long as links
answer at once. Where a link does not answer yet, the dispatch waits under a name and can be taken
up again or given up; calls can also be reserved from outside and are held under a name.
-/

namespace CallDispatch.Switchboard

/-- Goes on with a dispatch until it ends or a link does not answer; at most `tries` links are
tried. -/
def pursue (now : Nat) : Nat → Switchboard → Attempt → Switchboard × Progress
  | 0, board, attempt => (board, .waiting attempt)
  | tries + 1, board, attempt =>
    match board.deliver now attempt.reservation.handle.link attempt.request with
    | (board, none) => (board, .waiting attempt)
    | (board, some answer) =>
      let (dispatcher, progress) := board.dispatcher.settle now attempt answer
      match progress with
      | .finished result => ({ board with dispatcher }, .finished result)
      | .waiting next => pursue now tries { board with dispatcher } next

/-- Begins a dispatch and goes on until it ends or a link does not answer. -/
def launch (board : Switchboard) (now : Nat) (request : Request) (outcome : Outcome) :
    Switchboard × Progress :=
  let (dispatcher, progress) := board.dispatcher.begin request outcome
  match progress with
  | .finished result => ({ board with dispatcher }, .finished result)
  | .waiting attempt => pursue now attempt.bound { board with dispatcher } attempt

/-- Gives up a dispatch that waits. -/
def giveUp (board : Switchboard) (attempt : Attempt) : Switchboard :=
  { board with dispatcher := board.dispatcher.cancel attempt }

/-- Dispatches a request now or not at all: a dispatch that would have to wait is given up, and has
no result. -/
def dispatch (board : Switchboard) (now : Nat) (request : Request) (outcome : Outcome) :
    Switchboard × Option DispatchResult :=
  match board.launch now request outcome with
  | (board, .finished result) => (board, some result)
  | (board, .waiting attempt) => (board.giveUp attempt, none)

/-! ## Dispatches with names -/

/-- Gives up the dispatch that waits under a name, and says whether there was one. -/
def cancelFlight (board : Switchboard) (name : String) : Switchboard × Bool :=
  match board.flights.lookup name with
  | none => (board, false)
  | some attempt =>
    ({ board.giveUp attempt with flights := board.flights.filter (·.1 ≠ name) }, true)

/-- Keeps a dispatch under a name if it waits. -/
def park (name : String) : Switchboard × Progress → Switchboard × Progress
  | (board, .waiting attempt) =>
    ({ board with flights := (name, attempt) :: board.flights.filter (·.1 ≠ name) },
      .waiting attempt)
  | (board, .finished result) =>
    ({ board with flights := board.flights.filter (·.1 ≠ name) }, .finished result)

/-- Begins a dispatch under a name; one that waits under it is given up first. -/
def startFlight (board : Switchboard) (now : Nat) (name : String) (request : Request)
    (outcome : Outcome) : Switchboard × Progress :=
  park name ((board.cancelFlight name).1.launch now request outcome)

/-- Takes up the dispatch that waits under a name. -/
def pollFlight (board : Switchboard) (now : Nat) (name : String) :
    Switchboard × Option Progress :=
  match board.flights.lookup name with
  | none => (board, none)
  | some attempt =>
    let (board, progress) := park name (pursue now attempt.bound board attempt)
    (board, some progress)

/-- Gives up all dispatches that wait. -/
def cancelAllFlights (board : Switchboard) : Switchboard :=
  { board.flights.foldl (fun board flight => board.giveUp flight.2) board with flights := [] }

/-! ## Calls reserved from outside -/

/-- Gives a reserved call back. -/
def rollBack (board : Switchboard) (reservation : Reservation) : Switchboard :=
  board.withRegistry (board.registry.rollBack reservation)

/-- Forgets the reservation held under a name, without settling it. -/
def forgetHeld (board : Switchboard) (name : String) : Switchboard :=
  { board with held := board.held.filter (·.1 ≠ name) }

/-- Holds a reservation under a name; one that was held under it is given back. -/
def hold (board : Switchboard) (name : String) (reservation : Reservation) : Switchboard :=
  let kept := { board with held := (name, reservation) :: board.held.filter (·.1 ≠ name) }
  match board.held.lookup name with
  | none => kept
  | some older => kept.rollBack older

/-- Reserves a call and holds it under a name. -/
def reserve (board : Switchboard) (name : String)
    (choose : Registry → Registry × Option Reservation) : Switchboard × Option EntryId :=
  match choose board.registry with
  | (registry, none) => (board.withRegistry registry, none)
  | (registry, some reservation) =>
    ((board.withRegistry registry).hold name reservation, some reservation.handle.id)

/-- Keeps the call reserved under a name counted. -/
def commitHeld (board : Switchboard) (name : String) : Switchboard × Option EntryId :=
  match board.held.lookup name with
  | none => (board, none)
  | some reservation => (board.forgetHeld name, some reservation.handle.id)

/-- Gives back the call reserved under a name, and says whether there was one. -/
def dropHeld (board : Switchboard) (name : String) : Switchboard × Bool :=
  match board.held.lookup name with
  | none => (board, false)
  | some reservation => ((board.forgetHeld name).rollBack reservation, true)

/-- Gives back the call reserved under a name because its peer is dead, and says whether there was
one. -/
def abandonHeld (board : Switchboard) (now : Nat) (name : String) : Switchboard × Bool :=
  match board.held.lookup name with
  | none => (board, false)
  | some reservation =>
    let board := board.forgetHeld name
    (board.withRegistry (board.registry.abandonDead now reservation), true)

/-- Gives back all calls reserved from outside. -/
def dropAllHeld (board : Switchboard) : Switchboard :=
  { board.held.foldl (fun board entry => board.rollBack entry.2) board with held := [] }

end CallDispatch.Switchboard
