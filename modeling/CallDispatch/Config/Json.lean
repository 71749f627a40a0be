import CallDispatch.Config.Basic

/-!
# Configurations as documents

A configuration is written as one JSON document with every field, durations in milliseconds. Reading
fills in the default of each field that is missing; an optional address that is `null` stays absent.
-/

namespace CallDispatch

open Text

namespace RouteConfig

/-- The document of a route. -/
def toJson (route : RouteConfig) : Json :=
  .ofFields [("sip_method", .ofText route.sipMethod), ("http_method", .ofText route.httpMethod),
    ("url", .ofText route.url)]

/-- Reads a route; without an HTTP method it is a `GET` request. -/
def ofJson? (json : Json) : Option RouteConfig := do
  let record ← Json.Record.ofJson? ["sip_method", "http_method", "url"] false json
  return {
    sipMethod := ← record.required "sip_method" Json.text?
    httpMethod := ← record.withDefault "http_method" "GET" Json.text?
    url := ← record.required "url" Json.text? }

end RouteConfig

namespace Config

/-- The fields of a configuration in documents. -/
def fieldNames : List String :=
  ["tcp_listen", "tls_listen", "secret", "handshake_timeout", "dial_timeout", "drain_timeout",
    "resolver_timeout", "liveness_interval", "routes", "event_channel_capacity"]

/-- The document of an optional address. -/
def addressJson (address : Option SocketAddress) : Json :=
  .ofOption (fun a => .ofText a.text) address

/-- The document of a duration: its milliseconds as a number of 64 bits. -/
def durationJson (ms : Nat) : Json :=
  .ofNat (ms % Nat.pow 2 64)

/-- The document of a configuration. -/
def toJson (config : Config) : Json :=
  .ofFields [
    ("tcp_listen", addressJson config.tcpListen),
    ("tls_listen", addressJson config.tlsListen),
    ("secret", .ofText config.secret),
    ("handshake_timeout", durationJson config.handshakeTimeout),
    ("dial_timeout", durationJson config.dialTimeout),
    ("drain_timeout", durationJson config.drainTimeout),
    ("resolver_timeout", durationJson config.resolverTimeout),
    ("liveness_interval", durationJson config.livenessInterval),
    ("routes", .array (config.routes.map RouteConfig.toJson)),
    ("event_channel_capacity", .ofNat config.channelCapacity)]

/-- Reads an optional address. -/
def address? : Json → Option (Option SocketAddress) :=
  Json.nullable? fun json => json.text?.bind SocketAddress.parse

/-- Reads a number of 64 bits. -/
def number? : Json → Option Nat :=
  Json.natural? max64

/-- Reads a configuration; fields that are missing have their defaults. -/
def ofJson? (json : Json) : Option Config := do
  let record ← Json.Record.ofJson? fieldNames true json
  let default : Config := {}
  return {
    tcpListen := ← record.withDefault "tcp_listen" default.tcpListen address?
    tlsListen := ← record.withDefault "tls_listen" default.tlsListen address?
    secret := ← record.withDefault "secret" default.secret Json.text?
    handshakeTimeout := ← record.withDefault "handshake_timeout" default.handshakeTimeout number?
    dialTimeout := ← record.withDefault "dial_timeout" default.dialTimeout number?
    drainTimeout := ← record.withDefault "drain_timeout" default.drainTimeout number?
    resolverTimeout := ← record.withDefault "resolver_timeout" default.resolverTimeout number?
    livenessInterval := ← record.withDefault "liveness_interval" default.livenessInterval number?
    routes := ← record.withDefault "routes" default.routes (Json.list? RouteConfig.ofJson?)
    channelCapacity := ←
      record.withDefault "event_channel_capacity" default.channelCapacity number? }

/-- Why a text is not a usable configuration. -/
inductive LoadError
  /-- The text is not the document of a configuration. -/
  | unreadable
  | invalid (problem : Problem)
deriving DecidableEq

/-- Reads and validates a configuration. -/
def load (read : Url.Reader) (text : String) : Except LoadError Config :=
  match (Json.parse text).bind ofJson? with
  | none => .error .unreadable
  | some config =>
    match config.validate read with
    | .ok () => .ok config
    | .error problem => .error (.invalid problem)

end Config

end CallDispatch
