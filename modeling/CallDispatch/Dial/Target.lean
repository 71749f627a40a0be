import CallDispatch.Connection.Transport
import CallDispatch.Text.Blank
import CallDispatch.Text.Case
import CallDispatch.Text.Pieces

/-!
# Dial targets

The address of an application that listens: `host:port`, `sip:user@host:port;transport=tcp` or
`sips:…`, with brackets around an IPv6 host. The port is required. The scheme `sips` stands for TLS,
but the last `transport` parameter has the final say.
-/

namespace CallDispatch

open Text

/-- Where an application listens. -/
structure Target where
  host : String
  port : Nat
  transport : Transport
deriving DecidableEq

namespace Target

/-- The transport that the scheme stands for, and the rest of the uri. -/
def takeScheme (cs : List Char) : Transport × List Char :=
  match dropLead "sips:" cs with
  | some rest => (.tls, rest)
  | none =>
    match dropLead "sip:" cs with
    | some rest => (.plain, rest)
    | none => (.plain, cs)

/-- The transport named by the value of a parameter. -/
def namedTransport (value : List Char) : Option Transport :=
  match upper (String.ofList value) with
  | "TLS" => some .tls
  | "TCP" => some .plain
  | _ => none

/-- The transport behind a parameter: the one before, unless the parameter names another; none if
it names an unknown one. -/
def applyParameter (transport : Transport) (parameter : List Char) : Option Transport :=
  match cutFirst '=' parameter with
  | some (name, value) =>
    if sameLetters (String.ofList name) "transport" then namedTransport value else some transport
  | none => some transport

/-- Takes host and port apart at the bracket behind an IPv6 host, or at the last colon. -/
def hostAndPort : List Char → Option (List Char × List Char)
  | '[' :: cs =>
    match cutFirst ']' cs with
    | some (host, ':' :: port) => some (host, port)
    | _ => none
  | cs => cutLast ':' cs

/-- Reads host and port behind an optional user. -/
def readAddress (cs : List Char) (transport : Transport) : Option Target := do
  let (host, port) ← hostAndPort ((cutLast '@' cs).elim cs Prod.snd)
  let port ← (readUnsigned max16 port).filter (· ≠ 0)
  if host.isEmpty then none else some ⟨String.ofList host, port, transport⟩

/-- Reads a target. -/
def parse (uri : String) : Option Target :=
  let (transport, rest) := takeScheme (trimmed uri.toList)
  match pieces ';' rest with
  | [] => none
  | address :: parameters =>
    (parameters.foldlM applyParameter transport).bind (readAddress address)

/-- The text of a target, with brackets around a host with colons. -/
def text (target : Target) : String :=
  let host := if target.host.toList.contains ':' then "[" ++ target.host ++ "]" else target.host
  host ++ ":" ++ decimal target.port

end Target

end CallDispatch
