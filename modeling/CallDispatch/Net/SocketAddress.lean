import CallDispatch.Net.Ipv6

/-!
# Socket addresses

An IP address with a port: `a.b.c.d:port`, or `[ipv6]:port` with an optional scope `%n` behind the
address. The flow label of an IPv6 socket address has no place in the text.
-/

namespace CallDispatch

/-- An IP address with a port. -/
inductive SocketAddress
  | v4 (ip : Ipv4) (port : UInt16)
  | v6 (ip : Ipv6) (port : UInt16) (scope : UInt32) (flow : UInt32)
deriving DecidableEq

namespace SocketAddress

open Text

/-- The port of a socket address. -/
def port : SocketAddress → UInt16
  | v4 _ port => port
  | v6 _ port _ _ => port

/-- The flow label of a socket address; only IPv6 has one. -/
def flow : SocketAddress → UInt32
  | v4 _ _ => 0
  | v6 _ _ _ flow => flow

/-! ## Reading -/

/-- Reads a port; leading zeros are admitted. -/
def readPort (cs : List Char) : Option UInt16 :=
  (readUpTo max16 cs).map UInt16.ofNat

/-- Reads an IPv4 address with a port. -/
def parseV4 (cs : List Char) : Option SocketAddress := do
  let (host, port) ← cutFirst ':' cs
  return .v4 (← Ipv4.parse host) (← readPort port)

/-- Reads what stands between the brackets: an address and perhaps a scope. -/
def parseScoped (cs : List Char) : Option (Ipv6 × UInt32) :=
  match cutFirst '%' cs with
  | none => (Ipv6.parse cs).map (·, 0)
  | some (host, scope) => do
    return (← Ipv6.parse host, ← (readUpTo max32 scope).map UInt32.ofNat)

/-- Reads an IPv6 address in brackets with a port. -/
def parseV6 : List Char → Option SocketAddress
  | '[' :: cs => do
    let (host, rest) ← cutFirst ']' cs
    let (ip, scope) ← parseScoped host
    match rest with
    | ':' :: port => return .v6 ip (← readPort port) scope 0
    | _ => none
  | _ => none

/-- Reads a socket address. -/
def parse (text : String) : Option SocketAddress :=
  let cs := text.toList
  (parseV4 cs).or (parseV6 cs)

/-! ## Writing -/

/-- The characters of a scope: none for scope 0. -/
def scopeChars (scope : UInt32) : List Char :=
  if scope = 0 then [] else '%' :: decimalDigits scope.toNat

/-- The characters of a socket address. -/
def chars : SocketAddress → List Char
  | v4 ip port => ip.chars ++ ':' :: decimalDigits port.toNat
  | v6 ip port scope _ =>
    '[' :: ip.chars ++ scopeChars scope ++ ']' :: ':' :: decimalDigits port.toNat

/-- The text of a socket address. -/
def text (address : SocketAddress) : String :=
  String.ofList address.chars

/-- The text of the IP address alone, without scope and port. -/
def ipText : SocketAddress → String
  | v4 ip _ => String.ofList ip.chars
  | v6 ip _ _ _ => String.ofList ip.chars

/-! ## Listening -/

/-- The IPv4 address that a socket address has or stands for. -/
def ipv4? : SocketAddress → Option Ipv4
  | v4 ip _ => some ip
  | v6 ip _ _ _ => ip.mapped

/-- Whether the address stands for every address of its host, of either version. -/
def isEverywhere : SocketAddress → Bool
  | v4 _ _ => false
  | v6 ip _ _ _ => ip.isUnspecified

/-- Whether the IPv4 addresses that two socket addresses have or stand for have a host address in
common. -/
def overlapsV4 (a b : SocketAddress) : Bool :=
  match a.ipv4?, b.ipv4? with
  | some x, some y => x == y || x.isUnspecified || y.isUnspecified
  | _, _ => false

/-- Whether only one of two listeners can be bound: both to the same port, unless it is chosen for
them, and to a common address. -/
def conflicts (a b : SocketAddress) : Bool :=
  a.port == b.port && a.port != 0 &&
    (a == b || a.isEverywhere || b.isEverywhere || overlapsV4 a b)

/-- Whether a listener can be bound to the address on a host without any network: no IPv4 address is
known to be foreign there, but of the other addresses only the one that stands for all is known to
be its own. -/
def isBindableOffline (address : SocketAddress) : Bool :=
  address.isEverywhere || address.ipv4?.isSome

end SocketAddress

end CallDispatch
