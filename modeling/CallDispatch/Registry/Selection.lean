import CallDispatch.Registry.Basic

/-!
# Selecting a connection in turn

Inbound connections form pools: those without tags take requests that are routed to none, those with
tags take requests routed to one of their tags. Within a pool the connection that was selected
longest ago is next, and of several the one with the smallest id. A selection counts a call against
the connection at once; the call is reserved until it turns out whether the request was delivered.
-/

namespace CallDispatch

open Text

/-- The pool from which a connection is selected. -/
inductive Selector
  | untagged
  | tag (tag : String)
deriving DecidableEq

/-- The tag of the pool. -/
def Selector.tag? : Selector → Option String
  | untagged => none
  | tag t => some t

/-- A call counted against a connection before it is known whether the request is delivered. -/
structure Reservation where
  handle : Handle
deriving DecidableEq

/-- The description of a reservation that is held. -/
def Reservation.describe (reservation : Reservation) : String :=
  "Reservation \x7b entry: " ++ reservation.handle.id.describe ++ ", settled: false \x7d"

/-- Whether a slot takes requests with the given method, in upper case. -/
def Slot.takes (slot : Slot) (method : Option String) : Bool :=
  match method with
  | none => true
  | some method => slot.methods.isEmpty || decide (method ∈ slot.methods)

/-- Whether a slot belongs to a pool and takes requests with the given method, in upper case. -/
def Slot.inPool (slot : Slot) (selector : Selector) (method : Option String) : Bool :=
  slot.state.isSelectable && slot.handle.direction == .inbound &&
    slot.handle.accepts selector.tag? && slot.takes method

/-- The first of the slots that were selected longest ago. -/
def leastUsed? : List Slot → Option Slot
  | [] => none
  | slot :: rest =>
    match leastUsed? rest with
    | none => some slot
    | some other => if slot.lastUsed ≤ other.lastUsed then some slot else some other

namespace Registry

/-- The slots of a pool that take the method, by ascending id. -/
def pool (registry : Registry) (selector : Selector) (method : Option String) : List Slot :=
  registry.slots.filter (·.inPool selector (method.map upper))

/-- The connections of a pool in the order in which they will be selected. -/
def snapshot (registry : Registry) (selector : Selector) (method : Option String) : List Handle :=
  ((registry.pool selector method).mergeSort (·.lastUsed ≤ ·.lastUsed)).map Slot.handle

/-- Selects the next connection of a pool that is not excluded, and reserves a call on it. -/
def reserve (registry : Registry) (selector : Selector) (method : Option String)
    (excluded : List EntryId) : Registry × Option Reservation :=
  match leastUsed? ((registry.pool selector method).filter (!excluded.contains ·.id)) with
  | none => (registry, none)
  | some slot =>
    let seq := registry.lastSeq + 1
    let chosen := registry.update slot.id fun s => { s with lastUsed := seq, calls := s.calls + 1 }
    ({ chosen with lastSeq := seq }, some ⟨slot.handle⟩)

/-- Reserves a call on one particular connection, if it is active. -/
def reserveEntry (registry : Registry) (id : EntryId) : Registry × Option Reservation :=
  match registry.find? id with
  | none => (registry, none)
  | some slot =>
    if slot.state.isSelectable then
      (registry.update id fun s => { s with calls := s.calls + 1 }, some ⟨slot.handle⟩)
    else (registry, none)

/-- Gives a reserved call back: the request was not delivered. -/
def rollBack (registry : Registry) (reservation : Reservation) : Registry :=
  (registry.release reservation.handle.id).1

/-- Gives a reserved call back and drains the connection: its peer turned out to be dead. -/
def abandonDead (registry : Registry) (now : Nat) (reservation : Reservation) : Registry :=
  let released := registry.rollBack reservation
  (released.beginDrain now reservation.handle.id).1

end Registry

end CallDispatch
