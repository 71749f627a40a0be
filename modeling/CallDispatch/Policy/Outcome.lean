import CallDispatch.Json.Decode

/-!
# Routing outcomes

What the routing policy decides about a request: the default pool, the pool of a tag, the
application at an address, or a refusal.
-/

namespace CallDispatch

open Text

/-- How a request is to be dispatched. -/
inductive Outcome
  | routeDefault
  | routeByTag (tag : String)
  | routeByUri (uri : String)
  | reject (status : Nat)
deriving DecidableEq

namespace Outcome

/-- The text of an outcome. -/
def text : Outcome → String
  | routeDefault => "route(default)"
  | routeByTag tag => "route(tag=" ++ tag ++ ")"
  | routeByUri uri => "route(uri=" ++ uri ++ ")"
  | reject status => "reject(" ++ decimal status ++ ")"

/-- The document of an outcome: the name of its kind, with what belongs to it as the only field. -/
def toJson : Outcome → Json
  | routeDefault => .ofText "RouteDefault"
  | routeByTag tag => .ofFields [("RouteByTag", .ofText tag)]
  | routeByUri uri => .ofFields [("RouteByUri", .ofText uri)]
  | reject status => .ofFields [("Reject", .ofNat status)]

/-- Reads an outcome. -/
def ofJson? : Json → Option Outcome
  | .object [(some "RouteByTag", tag)] => tag.text?.map routeByTag
  | .object [(some "RouteByUri", uri)] => uri.text?.map routeByUri
  | .object [(some "Reject", status)] => (status.natural? max16).map reject
  | json => if json.alternative? = some "RouteDefault" then some routeDefault else none

end Outcome

end CallDispatch
