import CallDispatch.Json.Decode

/-!
# The life of a connection

A connection is connecting until it is registered, active while it takes new requests, draining
while it only finishes the calls it has, and closed at the end. It only ever moves forward, and a
connection that never became active cannot drain.
-/

namespace CallDispatch

/-- How far a connection has come in its life. -/
inductive EntryState
  | connecting
  | active
  | draining
  | closed
deriving DecidableEq

namespace EntryState

/-- The place of a state in the order of life. -/
def rank : EntryState → Nat
  | connecting => 0
  | active => 1
  | draining => 2
  | closed => 3

/-- Whether a connection may go from one state to another. -/
def canBecome (state next : EntryState) : Bool :=
  match state, next with
  | connecting, draining => false
  | _, _ => state.rank < next.rank

/-- Whether a connection in this state takes new requests. -/
def isSelectable (state : EntryState) : Bool :=
  state == active

/-- The name of a state. -/
def name : EntryState → String
  | connecting => "Connecting"
  | active => "Active"
  | draining => "Draining"
  | closed => "Closed"

/-- The state with the given name. -/
def ofName? : String → Option EntryState
  | "Connecting" => some connecting
  | "Active" => some active
  | "Draining" => some draining
  | "Closed" => some closed
  | _ => none

/-- The document of a state: its name. -/
def toJson (state : EntryState) : Json :=
  .ofText state.name

/-- Reads a state by its name. -/
def ofJson? (json : Json) : Option EntryState :=
  json.alternative?.bind ofName?

end EntryState

end CallDispatch
