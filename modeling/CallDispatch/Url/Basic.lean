import CallDispatch.Net.Ipv6
import CallDispatch.Text.Decimal
import CallDispatch.Text.FormEncoding

/-!
# URLs

A URL taken apart, as the URL standard describes it, and its normalized text. `Url.withQuery` adds
parameters to the query in the way HTML forms do.

How texts are read as URLs is left open: whoever reads URLs takes a `Url.Reader`. The one with which
the program runs is `Url.read`.
-/

namespace CallDispatch

open Text

/-- The host of a URL. -/
inductive Url.Host
  | name (text : String)
  | v4 (ip : Ipv4)
  | v6 (ip : Ipv6)
deriving DecidableEq

namespace Url.Host

/-- The characters of a host. -/
def chars : Host → List Char
  | name text => text.toList
  | v4 ip => ip.chars
  | v6 ip => '[' :: ip.compressed ++ [']']

/-- Whether the host is the empty name. -/
def isEmpty (host : Host) : Bool :=
  host == name ""

end Url.Host

/-- The path of a URL: text without structure, or segments. -/
inductive Url.Path
  | plain (text : String)
  | segments (list : List String)
deriving DecidableEq

/-- A URL taken apart. -/
structure Url where
  /-- The scheme in lower case, without the colon. -/
  scheme : String
  username : String
  password : String
  host : Option Url.Host
  /-- The port, absent where it is the scheme's own. -/
  port : Option Nat
  path : Url.Path
  query : Option String
  fragment : Option String
deriving DecidableEq

namespace Url

/-- Reads URLs: the URL that a text is, or the wording of why it is none. -/
abbrev Reader := String → Except String Url

/-- The ports that belong to special schemes. -/
def defaultPort : String → Option Nat
  | "http" | "ws" => some 80
  | "https" | "wss" => some 443
  | "ftp" => some 21
  | _ => none

/-- Whether the scheme is one of those whose URLs always have a host and a path. -/
def isSpecial (scheme : String) : Bool :=
  scheme == "file" || (defaultPort scheme).isSome

/-- The credentials in front of the host, with the `@` that ends them. -/
def credentials (url : Url) : String :=
  if url.username = "" ∧ url.password = "" then ""
  else if url.password = "" then url.username ++ "@"
  else url.username ++ ":" ++ url.password ++ "@"

/-- The port with the colon in front of it. -/
def portText (url : Url) : String :=
  match url.port with
  | none => ""
  | some port => ":" ++ decimal port

/-- The text of the path. -/
def pathText (url : Url) : String :=
  match url.path with
  | .plain text => text
  | .segments list => String.join (list.map ("/" ++ ·))

/-- What stands between the scheme and the path: the host with what belongs to it, or `/.` where
a path without host would be taken for one. -/
def authority (url : Url) : String :=
  match url.host with
  | some host => "//" ++ url.credentials ++ String.ofList host.chars ++ url.portText
  | none =>
    match url.path with
    | .segments ("" :: _ :: _) => "/."
    | _ => ""

/-- An optional last part with the character that introduces it. -/
def tailText (mark : String) : Option String → String
  | none => ""
  | some text => mark ++ text

/-- The normalized text of a URL. -/
def text (url : Url) : String :=
  url.scheme ++ ":" ++ url.authority ++ url.pathText ++ tailText "?" url.query ++
    tailText "#" url.fragment

/-- Adds parameters behind those that the query has. -/
def withQuery (url : Url) (pairs : List (String × String)) : Url :=
  let added := formQuery pairs
  match url.query with
  | none | some "" => { url with query := some added }
  | some query => { url with query := some (query ++ "&" ++ added) }

end Url

end CallDispatch
