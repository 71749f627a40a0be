import CallDispatch.Connection.Transport
import CallDispatch.Net.SocketAddress
import CallDispatch.Text.Case

/-!
# Requests outside of dialogs

A request as the transaction layer hands it over, with the fields that routing looks at. Domain and
user are taken from the request uri, `sip:user:password@host:port;parameters?headers`, of which
everything but the host may be missing.
-/

namespace CallDispatch

open Text

namespace Sip

/-- The methods that can start a request outside of a dialog. -/
def routableMethods : List String :=
  ["INVITE", "REGISTER", "OPTIONS", "MESSAGE", "SUBSCRIBE", "NOTIFY", "PUBLISH", "INFO", "REFER",
    "UPDATE"]

/-- Whether applications may ask for requests of the method. -/
def isRoutable (method : String) : Bool :=
  routableMethods.contains (upper method)

/-! ## Taking request uris apart -/

/-- The uri without its scheme, if that is `sip` or `sips`. -/
def withoutScheme (uri : List Char) : List Char :=
  match cutFirst ':' uri with
  | some (scheme, rest) =>
    if ["SIP", "SIPS"].contains (upper (String.ofList scheme)) then rest else uri
  | none => uri

/-- A text that is not empty. -/
def nonEmpty (cs : List Char) : Option String :=
  if cs.isEmpty then none else some (String.ofList cs)

/-- The user of a request uri: what stands in front of the first `@`, without a password. -/
def uriUser (uri : String) : Option String :=
  (cutFirst '@' (withoutScheme uri.toList)).bind fun (user, _) => nonEmpty (upTo [':'] user)

/-- The host of a request uri: what stands behind the last `@`, without port, parameters and
headers, and without the brackets of an IPv6 address. -/
def uriHost (uri : String) : Option String :=
  let rest := withoutScheme uri.toList
  let hostPort := upTo [';', '?'] ((cutLast '@' rest).elim rest Prod.snd)
  match hostPort with
  | '[' :: host => nonEmpty (upTo [']'] host)
  | _ => nonEmpty (upTo [':'] hostPort)

end Sip

/-- A request outside of any dialog. -/
structure Request where
  transactionId : String
  method : String
  uri : String
  fromUser : Option String := none
  toUser : Option String := none
  domain : Option String := none
  /-- The protocol over which the request came. -/
  protocol : String := "udp"
  source : Option SocketAddress := none
  /-- The transport that a link must have to carry the request. -/
  requiredTransport : Option Transport := none
  /-- The message as it came. -/
  raw : String := ""
deriving DecidableEq

namespace Request

/-- A request for a uri; its method is in upper case and its domain is the host of the uri. -/
def make (transactionId method uri : String) : Request :=
  { transactionId, method := upper method, uri, domain := Sip.uriHost uri }

/-- The user of the request uri. -/
def uriUser (request : Request) : Option String :=
  Sip.uriUser request.uri

/-! ## Documents -/

/-- The fields of a request in documents. -/
def fieldNames : List String :=
  ["transaction_id", "method", "request_uri", "from_user", "to_user", "domain", "protocol",
    "source_address", "required_transport", "raw_message"]

/-- The document of a request. -/
def toJson (request : Request) : Json :=
  .ofFields [
    ("transaction_id", .ofText request.transactionId),
    ("method", .ofText request.method),
    ("request_uri", .ofText request.uri),
    ("from_user", .ofOption .ofText request.fromUser),
    ("to_user", .ofOption .ofText request.toUser),
    ("domain", .ofOption .ofText request.domain),
    ("protocol", .ofText request.protocol),
    ("source_address", .ofOption (fun a => .ofText a.text) request.source),
    ("required_transport", .ofOption Transport.toJson request.requiredTransport),
    ("raw_message", .ofText request.raw)]

/-- Reads a request; fields that may be absent may also be missing. -/
def ofJson? (json : Json) : Option Request := do
  let record ← Json.Record.ofJson? fieldNames false json
  return {
    transactionId := ← record.required "transaction_id" Json.text?
    method := ← record.required "method" Json.text?
    uri := ← record.required "request_uri" Json.text?
    fromUser := ← record.optional "from_user" Json.text?
    toUser := ← record.optional "to_user" Json.text?
    domain := ← record.optional "domain" Json.text?
    protocol := ← record.required "protocol" Json.text?
    source := ← record.optional "source_address" fun j => j.text?.bind SocketAddress.parse
    requiredTransport := ← record.optional "required_transport" Transport.ofJson?
    raw := ← record.required "raw_message" Json.text? }

end Request

end CallDispatch
