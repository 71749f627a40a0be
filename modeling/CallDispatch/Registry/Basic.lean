import CallDispatch.Connection.Entry
import CallDispatch.Text.Case

/-!
# The registry of connected applications

The registry keeps what changes about each registered connection: its state, the calls it has, the
methods it asked for and when it was last selected. It also remembers under which uri each dialed
application can be found.

Every operation returns the registry afterwards together with its result, also where it fails, so
that a failure that leaves a trace could be told from one that does not. The clock is an argument
of those operations that note a time. Counters have no upper end here: what happens behind 2^32
calls on one connection, or behind 2^64 selections or connections, is left out.

## Main definitions

* `Slot`, `Registry`: the bookkeeping of one connection and of all of them.
* `Registry.add`, `remove`, `beginDrain`, `subscribe`, `release`: the life of a connection.
* `Registry.find?`, `findTarget`, `stats`: looking things up.
-/

namespace CallDispatch

open Text

/-- Why the registry refuses an operation. -/
inductive RegistryError
  | duplicateId (id : EntryId)
  | notFound (id : EntryId)
  | invalidTransition (source target : EntryState)
deriving DecidableEq

/-- The wording of a registry error. -/
def RegistryError.message : RegistryError → String
  | duplicateId id => "Entry " ++ id.text ++ " is already registered"
  | notFound id => "Entry " ++ id.text ++ " not found"
  | invalidTransition source target =>
    "Invalid state transition " ++ source.name ++ " -> " ++ target.name

/-- Moves an entry forward in its life; a step that is not allowed leaves it as it is. -/
def Entry.transition (entry : Entry) (next : EntryState) : Entry × Except RegistryError Unit :=
  if entry.state.canBecome next then ({ entry with state := next }, .ok ())
  else (entry, .error (.invalidTransition entry.state next))

/-- What the registry keeps about one connection. -/
structure Slot where
  handle : Handle
  state : EntryState := .active
  /-- The number of the selection that chose the connection last, 0 before the first. -/
  lastUsed : Nat := 0
  /-- How many calls are counted against the connection, fewer than 2^32. -/
  calls : Nat := 0
  drainingSince : Option Nat := none
  /-- The methods the application asked for, in upper case; without any it takes all. -/
  methods : TextSet := .empty
deriving DecidableEq

/-- The id of the connection. -/
def Slot.id (slot : Slot) : EntryId :=
  slot.handle.id

/-- The registered connections. -/
structure Registry where
  /-- By ascending id. -/
  slots : List Slot := []
  /-- The connection that was dialed last at each uri. -/
  outbound : List (String × EntryId) := []
  /-- The number of the last selection, below 2^64. -/
  lastSeq : Nat := 0
deriving DecidableEq

/-- The counters of a registry. -/
structure Stats where
  active : Nat
  draining : Nat
  outbound : Nat
  activeCalls : Nat
deriving DecidableEq

namespace Registry

/-! ## Looking up -/

/-- The slot of a registered connection. -/
def find? (registry : Registry) (id : EntryId) : Option Slot :=
  registry.slots.find? (·.id == id)

/-- Whether a connection is registered, active or draining. -/
def contains (registry : Registry) (id : EntryId) : Bool :=
  (registry.find? id).isSome

/-- How many connections are registered. -/
def size (registry : Registry) : Nat :=
  registry.slots.length

/-- How many connections are active. -/
def activeCount (registry : Registry) : Nat :=
  registry.slots.countP (·.state.isSelectable)

/-- The id that is cached for a uri. -/
def cached? (registry : Registry) (uri : String) : Option EntryId :=
  registry.outbound.lookup uri

/-- The active connection dialed at `uri`. -/
def findTarget (registry : Registry) (uri : String) : Option Handle :=
  ((registry.cached? uri).bind registry.find?).bind fun slot =>
    if slot.state.isSelectable then some slot.handle else none

/-- The counters. -/
def stats (registry : Registry) : Stats where
  active := registry.slots.countP (·.state == .active)
  draining := registry.slots.countP (·.state == .draining)
  outbound := registry.slots.countP (·.handle.direction == .outbound)
  activeCalls := registry.slots.foldl (fun calls slot => calls + slot.calls) 0

/-! ## Changing slots -/

/-- Changes the slot of one connection. -/
def update (registry : Registry) (id : EntryId) (change : Slot → Slot) : Registry :=
  { registry with slots := registry.slots.map fun slot =>
      if slot.id = id then change slot else slot }

/-- Puts a slot at its place among slots with ascending ids. -/
def insertSlot (slot : Slot) : List Slot → List Slot
  | [] => [slot]
  | other :: rest =>
    if slot.id < other.id then slot :: other :: rest else other :: insertSlot slot rest

/-- Remembers a connection under the uri at which it was dialed, in place of an earlier one. -/
def cache (outbound : List (String × EntryId)) (target : Option String) (id : EntryId) :
    List (String × EntryId) :=
  match target with
  | none => outbound
  | some uri => (uri, id) :: outbound.filter (·.1 ≠ uri)

/-- Drops a connection for good, and forgets its uri unless another one took its place there. -/
def close (registry : Registry) (id : EntryId) : Registry × Option Handle :=
  match registry.find? id with
  | none => (registry, none)
  | some slot =>
    let outbound :=
      match slot.handle.target with
      | none => registry.outbound
      | some uri => registry.outbound.filter (· ≠ (uri, id))
    ({ registry with slots := registry.slots.filter (·.id ≠ id), outbound }, some slot.handle)

/-! ## The life of a connection -/

/-- Registers a connection and makes it selectable. -/
def add (registry : Registry) (entry : Entry) : Registry × Except RegistryError Handle :=
  let handle := entry.handle
  if registry.contains handle.id then (registry, .error (.duplicateId handle.id))
  else
    match (entry.transition .active).2 with
    | .error e => (registry, .error e)
    | .ok () =>
      ({ registry with
          slots := insertSlot { handle } registry.slots
          outbound := cache registry.outbound handle.target handle.id },
        .ok handle)

/-- Closes a connection. -/
def remove (registry : Registry) (id : EntryId) : Registry × Option Handle :=
  registry.close id

/-- Stops giving requests to a connection: it closes now if it has no calls, and else when the last
of them ends. -/
def beginDrain (registry : Registry) (now : Nat) (id : EntryId) :
    Registry × Except RegistryError EntryState :=
  match registry.find? id with
  | none => (registry, .error (.notFound id))
  | some slot =>
    if slot.state = .draining then (registry, .ok .draining)
    else if slot.state.canBecome .draining then
      if slot.calls = 0 then ((registry.close id).1, .ok .closed)
      else
        (registry.update id fun s => { s with state := .draining, drainingSince := some now },
          .ok .draining)
    else (registry, .error (.invalidTransition slot.state .draining))

/-- Restricts a connection to requests of `method`, besides those it asked for before. The result
says whether it had not asked for it. -/
def subscribe (registry : Registry) (id : EntryId) (method : String) :
    Registry × Except RegistryError Bool :=
  match registry.find? id with
  | none => (registry, .error (.notFound id))
  | some slot =>
    let method := upper method
    (registry.update id fun s => { s with methods := s.methods.insert method },
      .ok (!decide (method ∈ slot.methods)))

/-- Counts a call of the connection as ended; a draining connection closes with its last call. -/
def release (registry : Registry) (id : EntryId) : Registry × Bool :=
  match registry.find? id with
  | none => (registry, false)
  | some slot =>
    if slot.state = .draining ∧ slot.calls - 1 = 0 then ((registry.close id).1, true)
    else (registry.update id fun s => { s with calls := s.calls - 1 }, true)

end Registry

end CallDispatch
