import CallDispatch.Json.Decode

/-!
# Direction and transport of connections
-/

namespace CallDispatch

/-- Who opened a connection. -/
inductive Direction
  /-- The application connected to the server. -/
  | inbound
  /-- The server dialed an application that listens. -/
  | outbound
deriving DecidableEq

/-- The stream transport under a connection. -/
inductive Transport
  | plain
  | tls
deriving DecidableEq

namespace Direction

/-- The name of a direction in descriptions. -/
def describe : Direction → String
  | inbound => "Inbound"
  | outbound => "Outbound"

/-- The name of a direction in documents. -/
def name : Direction → String
  | inbound => "inbound"
  | outbound => "outbound"

/-- The direction with the given name. -/
def ofName? : String → Option Direction
  | "inbound" => some inbound
  | "outbound" => some outbound
  | _ => none

/-- The document of a direction: its name. -/
def toJson (direction : Direction) : Json :=
  .ofText direction.name

/-- Reads a direction by its name. -/
def ofJson? (json : Json) : Option Direction :=
  json.alternative?.bind ofName?

end Direction

namespace Transport

/-- Whether the transport can carry a request that requires `required`. -/
def satisfies (transport : Transport) (required : Option Transport) : Bool :=
  match required with
  | none => true
  | some required => transport == required

/-- The text of a transport. -/
def text : Transport → String
  | plain => "tcp"
  | tls => "tls"

/-- The name of a transport in descriptions. -/
def describe : Transport → String
  | plain => "Plain"
  | tls => "Tls"

/-- The name of a transport in documents. -/
def name : Transport → String
  | plain => "plain"
  | tls => "tls"

/-- The transport with the given name. -/
def ofName? : String → Option Transport
  | "plain" => some plain
  | "tls" => some tls
  | _ => none

/-- The document of a transport: its name. -/
def toJson (transport : Transport) : Json :=
  .ofText transport.name

/-- Reads a transport by its name. -/
def ofJson? (json : Json) : Option Transport :=
  json.alternative?.bind ofName?

end Transport

end CallDispatch
