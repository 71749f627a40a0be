import CallDispatch.Connection.Lifecycle
import CallDispatch.Connection.Tags
import CallDispatch.Connection.Transport
import CallDispatch.Net.SocketAddress

/-!
# Connected applications

An entry stands for one connection to an application. What never changes about it is its handle:
who it is, where it leads and over which link requests reach it. Until it is registered, an entry
keeps its own state; afterwards the registry does.
-/

namespace CallDispatch

open Text

/-- The number of a connection. Numbers are given out in ascending order. -/
abbrev EntryId := Nat

namespace EntryId

/-- The text of an id. -/
def text (id : EntryId) : String :=
  "app-" ++ decimal id

/-- The description of an id. -/
def describe (id : EntryId) : String :=
  "EntryId(" ++ decimal id ++ ")"

/-- The document of an id: its number. -/
def toJson (id : EntryId) : Json :=
  .ofNat id

/-- Reads an id, a number of 64 bits. -/
def ofJson? (json : Json) : Option EntryId :=
  json.natural? max64

end EntryId

/-- The number of a link, over which requests reach an application. -/
abbrev LinkId := Nat

/-- What never changes about a connection. -/
structure Handle where
  id : EntryId
  direction : Direction
  transport : Transport
  tags : TagSet
  /-- The uri at which the application was dialed. -/
  target : Option String
  remote : Option SocketAddress
  link : LinkId
deriving DecidableEq

namespace Handle

/-- Whether the entry may get requests routed to `tag`: without a tag only entries that have none,
and with a tag those that advertise it. -/
def accepts (handle : Handle) (tag : Option String) : Bool :=
  match tag with
  | none => handle.tags.isEmpty
  | some tag => handle.tags.contains tag

/-- The description of an optional text. -/
def describeTarget : Option String → String
  | none => "None"
  | some target => "Some(" ++ quoted target ++ ")"

/-- The description of a handle. -/
def describe (handle : Handle) : String :=
  "EntryHandle \x7b id: " ++ handle.id.describe ++ ", direction: " ++ handle.direction.describe ++
    ", transport: " ++ handle.transport.describe ++ ", tags: " ++ handle.tags.describe ++
    ", outbound_target: " ++ describeTarget handle.target ++ " \x7d"

end Handle

/-- A connection that is not registered. -/
structure Entry where
  handle : Handle
  state : EntryState := .connecting
deriving DecidableEq

/-- The description of an entry. -/
def Entry.describe (entry : Entry) : String :=
  "ConnectionEntry \x7b id: " ++ entry.handle.id.describe ++ ", direction: " ++
    entry.handle.direction.describe ++ ", transport: " ++ entry.handle.transport.describe ++
    ", tags: " ++ entry.handle.tags.describe ++ ", state: " ++ entry.state.name ++ " \x7d"

end CallDispatch
