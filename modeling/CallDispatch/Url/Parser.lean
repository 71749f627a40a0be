import CallDispatch.Text.Case
import CallDispatch.Url.Host

/-!
# Reading URLs

`Url.parse` reads an absolute URL by the rules of the URL standard: blanks around it and line breaks
anywhere are dropped, the scheme decides how host and path are read, `.` and `..` segments are
resolved, and what may not stand for itself is percent-encoded. No `..` removes a drive letter, and
a drive letter at the front of a file's path takes the place of the host.
-/

namespace CallDispatch.Url

open Text

/-! ## Pieces of the text -/

/-- The characters without control characters and spaces around them. -/
def strip (cs : List Char) : List Char :=
  let isOuter : Char → Bool := fun c => c.toNat ≤ 0x20
  ((cs.dropWhile isOuter).reverse.dropWhile isOuter).reverse

/-- Whether the character is dropped wherever it stands. -/
def isBreak (c : Char) : Bool :=
  ['\t', '\n', '\r'].contains c

/-- The characters without tabs and line breaks. -/
def unbroken (cs : List Char) : List Char :=
  cs.filter (!isBreak ·)

/-- Whether the character may stand in a scheme behind its first letter. -/
def isSchemeChar (c : Char) : Bool :=
  c.isAlphanum || ['+', '-', '.'].contains c

/-- The scheme in lower case and what stands behind its colon. -/
def takeScheme (cs : List Char) : Option (String × List Char) :=
  match cs.span isSchemeChar with
  | (first :: more, ':' :: rest) =>
    if first.isAlpha then some (lower (String.ofList (first :: more)), rest) else none
  | _ => none

/-- Whether the character separates segments of a path. -/
def isSlash (special : Bool) (c : Char) : Bool :=
  c == '/' || (special && c == '\\')

/-- Whether the character ends the part with host and port. -/
def endsAuthority (special : Bool) (c : Char) : Bool :=
  isSlash special c || c == '?' || c == '#'

/-- Query and fragment at the end of a URL, encoded. -/
def takeTail (special : Bool) (cs : List Char) : Option String × Option String :=
  let (beforeFragment, fragment) := cs.span (· != '#')
  let query := match beforeFragment with
    | '?' :: query =>
      some (String.ofList (encode (if special then .specialQuery else .query) query))
    | _ => none
  let fragment := match fragment with
    | '#' :: fragment => some (String.ofList (encode .fragment fragment))
    | _ => none
  (query, fragment)

/-! ## Paths -/

/-- Whether the text is a letter with a colon or bar behind it, the root of a file system. -/
def isDriveLetter : List Char → Bool
  | [letter, mark] => letter.isAlpha && (mark == ':' || mark == '|')
  | _ => false

/-- Whether a segment stands for the segment it is in. -/
def isSingleDot (segment : List Char) : Bool :=
  [".", "%2e"].contains (lower (String.ofList segment))

/-- Whether a segment stands for the one above. -/
def isDoubleDot (segment : List Char) : Bool :=
  ["..", ".%2e", "%2e.", "%2e%2e"].contains (lower (String.ofList segment))

/-- Whether a segment is a drive letter, alone or with a backslash behind it. -/
def isDrive (segment : List Char) : Bool :=
  isDriveLetter (segment.take 2) && (segment.drop 2).head?.all (· == '\\')

/-- Removes the last segment, but not a drive. -/
def shorten (segments : List String) : List String :=
  if segments.getLast?.any fun last => isDrive last.toList then segments
  else segments.dropLast

/-- Adds a piece of the path to the segments before it. -/
def addSegment (isLast : Bool) (segments : List String) (piece : List Char) : List String :=
  let segment := encode .path piece
  let closing := if isLast then [""] else []
  if isDoubleDot segment then shorten segments ++ closing
  else if isSingleDot segment then segments ++ closing
  else segments ++ [String.ofList segment]

/-- Adds pieces of a path one after another by `add`, which is told which one is the last. -/
def addPieces {α : Type} (add : Bool → α → List Char → α) (path : α) : List (List Char) → α
  | [] => path
  | [piece] => add true path piece
  | piece :: rest => addPieces add (add false path piece) rest

/-- The pieces of a path between its slashes. -/
def pathPieces (special : Bool) (cs : List Char) : List (List Char) :=
  pieces '/' (cs.map fun c => if isSlash special c then '/' else c)

/-- The segments of a path without its first slash. -/
def readSegments (special : Bool) (cs : List Char) : List String :=
  addPieces addSegment [] (pathPieces special cs)

/-- Drops the slash at the front, if there is one. -/
def dropSlash (special : Bool) : List Char → List Char
  | c :: rest => if isSlash special c then rest else c :: rest
  | [] => []

/-- The path behind host and port, and what follows it. A special URL always has a path. -/
def takePath (special : Bool) (cs : List Char) : Path × List Char :=
  let (body, rest) := cs.span fun c => c != '?' && c != '#'
  if body.isEmpty && !special then (.segments [], rest)
  else (.segments (readSegments special (dropSlash special body)), rest)

/-! ## Host and port -/

/-- User name and password, encoded, from what stands in front of the `@`. -/
def readUser (cs : List Char) : String × String :=
  let (user, password) := (cutFirst ':' cs).getD (cs, [])
  (String.ofList (encode .userInfo user), String.ofList (encode .userInfo password))

/-- The host and what follows it: a colon outside brackets ends it. `seen` is in reverse. -/
def takeHostFrom (seen : List Char) (bracket : Bool) : List Char → List Char × List Char
  | [] => (seen.reverse, [])
  | c :: rest =>
    if c = ':' ∧ bracket = false then (seen.reverse, c :: rest)
    else takeHostFrom (c :: seen) (c == '[' || (bracket && c != ']')) rest

/-- Reads the digits of a port, absent where there are none or it is the scheme's own. -/
def readPort (scheme : String) (digits : List Char) : Except ParseError (Option Nat) :=
  if digits.isEmpty then .ok none
  else match readUpTo max16 digits with
    | none => .error .invalidPort
    | some port => .ok (if defaultPort scheme = some port then none else some port)

/-- Reads the port behind the host, and returns what follows it: a backslash ends it too. -/
def takePort (scheme : String) (cs : List Char) :
    Except ParseError (Option Nat × List Char) := do
  let (port, rest) := cs.span (· != '\\')
  return (← readPort scheme port.tail, rest)

/-- Reads what stands behind `//`: credentials, host, port, path, query and fragment. -/
def parseAuthority (scheme : String) (cs : List Char) : Except ParseError Url := do
  let special := isSpecial scheme
  let (region, rest) := cs.span (!endsAuthority special ·)
  let (user, hostPort) := (cutLast '@' region).elim (none, region) fun (u, h) => (some u, h)
  if user = some [] ∧ hostPort.isEmpty ∧ ¬ rest.isEmpty then .error .emptyHost
  let (username, password) := readUser (user.getD [])
  let (hostChars, portChars) := takeHostFrom [] false hostPort
  if special ∧ hostChars.isEmpty then .error .emptyHost
  let host ← if special then Host.parseSpecial hostChars else Host.parsePlain hostChars
  if host.isEmpty ∧ (¬ portChars.isEmpty ∨ username ≠ "" ∨ password ≠ "") then .error .emptyHost
  let (port, unread) ← takePort scheme portChars
  let (path, rest) := takePath special (unread ++ rest)
  let (query, fragment) := takeTail special rest
  return ⟨scheme, username, password, some host, port, path, query, fragment⟩

/-! ## Files -/

/-- What stands behind a slash and the breaks in front of it. -/
def takeSlash (cs : List Char) : Option (List Char) :=
  match cs.dropWhile isBreak with
  | c :: rest => if isSlash true c then some rest else none
  | [] => none

/-- Where the path of a file starts. -/
structure FileStart where
  host : Host
  /-- Whether the slash in front of the path is an empty segment of it. -/
  keepsSlash : Bool
  rest : List Char

/-- The host of a file, and where its path starts: two slashes introduce a host, unless a drive
letter stands in its place; the host `localhost` is none. -/
def takeFileHost (cs : List Char) : Except ParseError FileStart := do
  match (takeSlash cs).bind takeSlash with
  | none => return ⟨.name "", false, cs⟩
  | some rest =>
    let (region, path) := rest.span (!endsAuthority true ·)
    let region := unbroken region
    if isDriveLetter region then return ⟨.name "", true, rest⟩
    else if region.isEmpty then return ⟨.name "", true, path⟩
    else
      let host ← Host.parseSpecial region
      return if host = .name "localhost" then ⟨.name "", true, path⟩ else ⟨host, false, path⟩

/-- The path of a file as far as it is read. -/
structure FilePath where
  segments : List String
  /-- Whether a drive letter took the place of the host. -/
  replacesHost : Bool

/-- Cuts a piece behind a drive letter with a break behind its colon, if more follows. -/
def cutDrive (piece : List Char) : Option (String × List Char) :=
  match cutFirst ':' piece with
  | some (letter, mark :: rest) =>
    let drive := unbroken letter ++ [':']
    let rest := unbroken rest
    if isDriveLetter drive && isBreak mark && !rest.isEmpty then some (String.ofList drive, rest)
    else none
  | _ => none

/-- Adds a piece of the path of a file. A drive letter at the front is written with a colon and
takes the place of the host, unless a break ends it. -/
def addFilePiece (isLast : Bool) (path : FilePath) (piece : List Char) : FilePath :=
  let text := unbroken piece
  if path.segments.isEmpty then
    match cutDrive piece with
    | some (drive, rest) =>
      { path with segments := [drive, String.ofList (encode .path rest)] }
    | none =>
      if isDriveLetter text then ⟨[String.ofList (text.take 1 ++ [':'])], true⟩
      else { path with segments := addSegment isLast [] text }
  else { path with segments := addSegment isLast path.segments text }

/-- Reads what stands behind `file:`. Empty segments at the front of the path are dropped. -/
def parseFile (cs : List Char) : Except ParseError Url := do
  let start ← takeFileHost cs
  let (body, rest) := start.rest.span fun c => c != '?' && c != '#'
  let body := if start.keepsSlash then body else (takeSlash body).getD body
  let path := addPieces addFilePiece ⟨[], false⟩ (pathPieces true body)
  let kept := path.segments.dropWhile (· == "")
  let host := if path.replacesHost then .name "" else start.host
  let (query, fragment) := takeTail true (unbroken rest)
  return ⟨"file", "", "", some host, none, .segments (if kept.isEmpty then [""] else kept), query,
    fragment⟩

/-! ## Hostless URLs -/

/-- Reads a URL without host: a path of segments if it starts with a slash, else plain text. -/
def parseHostless (scheme : String) (cs : List Char) : Url :=
  let (body, rest) := cs.span fun c => c != '?' && c != '#'
  let (query, fragment) := takeTail false rest
  let path := match body with
    | '/' :: more => .segments (readSegments false more)
    | _ => .plain (String.ofList (encode .plainText body))
  ⟨scheme, "", "", none, none, path, query, fragment⟩

/-! ## Absolute URLs -/

/-- Reads an absolute URL. In the paths of files breaks have an effect, so that they are kept. -/
def parse (text : String) : Except ParseError Url :=
  let cs := strip text.toList
  match takeScheme (unbroken cs) with
  | none => .error .relativeWithoutBase
  | some (scheme, rest) =>
    if scheme = "file" then parseFile (cs.dropWhile (· != ':')).tail
    else if isSpecial scheme then parseAuthority scheme (rest.dropWhile (isSlash true))
    else match rest with
      | '/' :: '/' :: more => parseAuthority scheme more
      | _ => .ok (parseHostless scheme rest)

/-- The reader that follows the URL standard. -/
def read : Reader :=
  fun text => (parse text).mapError ParseError.message

end CallDispatch.Url
