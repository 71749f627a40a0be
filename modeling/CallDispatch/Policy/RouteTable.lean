import CallDispatch.Policy.Instruction
import CallDispatch.Text.Case
import CallDispatch.Url.Basic

/-!
# The routing table

Which routing service is asked about requests with a SIP method. A route for `*` serves every method
that has none of its own. The last route for a method counts, methods are compared without regard to
letter case, and a route that is refused leaves the table as it is. How the URL of a route is read
is an argument of every operation that reads one.
-/

namespace CallDispatch

open Text

/-- The routing service that is asked: the method and URL of the HTTP request. -/
structure HttpRoute where
  method : String
  url : Url
deriving DecidableEq

/-- Routes by SIP method, in upper case, the latest first. -/
structure RouteTable where
  routes : List (String × HttpRoute) := []
deriving DecidableEq

namespace RouteTable

/-- Whether the character may stand in the name of an HTTP method. -/
def isMethodChar (c : Char) : Bool :=
  c.isAlphanum ||
    ['!', '#', '$', '%', '&', '\'', '*', '+', '-', '.', '^', '_', '\x60', '|', '~'].contains c

/-- Whether the text can be an HTTP method. -/
def isMethod (method : String) : Bool :=
  method ≠ "" && method.toList.all isMethodChar

/-- Reads a route: an HTTP method and an absolute URL with the scheme `http` or `https`. -/
def readRoute (read : Url.Reader) (httpMethod url : String) : Except ResolverError HttpRoute :=
  match read url with
  | .error e => .error (.invalidUrl (url ++ ": " ++ e))
  | .ok parsed =>
    if ¬ ["http", "https"].contains parsed.scheme then
      .error (.invalidUrl ("unsupported scheme in " ++ parsed.text))
    else if isMethod httpMethod then .ok ⟨upper httpMethod, parsed⟩
    else .error (.invalidUrl ("invalid http method " ++ httpMethod))

/-- Sets the route for a SIP method. -/
def add (table : RouteTable) (read : Url.Reader) (sipMethod httpMethod url : String) :
    RouteTable × Except ResolverError Unit :=
  match readRoute read httpMethod url with
  | .error e => (table, .error e)
  | .ok route =>
    let key := upper sipMethod
    (⟨(key, route) :: table.routes.filter (·.1 ≠ key)⟩, .ok ())

/-- Removes all routes. -/
def clear (_table : RouteTable) : RouteTable :=
  {}

/-- The route for a SIP method. -/
def find (table : RouteTable) (sipMethod : String) : Option HttpRoute :=
  (table.routes.lookup (upper sipMethod)).or (table.routes.lookup "*")

/-- The number of routes. -/
def size (table : RouteTable) : Nat :=
  table.routes.length

/-- The line that describes a route. -/
def describeRoute (sipMethod : String) (route : HttpRoute) : String :=
  "sip-method: " ++ sipMethod ++ ", http-method: " ++ route.method ++ ", http-url: " ++
    route.url.text

/-- The descriptions of all routes in ascending order. -/
def describe (table : RouteTable) : List String :=
  (table.routes.map fun (sipMethod, route) => describeRoute sipMethod route).mergeSort (· ≤ ·)

end RouteTable

end CallDispatch
