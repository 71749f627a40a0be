import CallDispatch.Json.Token
import CallDispatch.Text.Decimal

/-!
# JSON documents

A JSON document as a tree, its reader and its compact printer. The reader keeps the documents it is
inside of on a stack of its own, so that no depth of nesting is too large for it.
-/

namespace CallDispatch

/-- A JSON document. A text or key without content holds a surrogate that belongs to no pair. -/
inductive Json
  | null
  | bool (value : Bool)
  | number (literal : List Char)
  | text (content : Option String)
  | array (items : List Json)
  | object (fields : List (Option String × Json))

namespace Json

open Text

/-! ## Reading -/

/-- A document whose end has not been read: the items or fields before the current one, last one
first, and the key of the current field. -/
inductive Frame
  | array (before : List Json)
  | object (before : List (Option String × Json)) (key : Option String)

/-- What may come next, inside the documents on the stack. -/
inductive Reading
  /-- A value. -/
  | value (stack : List Frame)
  /-- The first item of an array, or its end. -/
  | firstItem (stack : List Frame)
  /-- The first key of an object, or its end. -/
  | firstKey (stack : List Frame)
  /-- Another key of an object. -/
  | key (before : List (Option String × Json)) (stack : List Frame)
  /-- The colon behind a key. -/
  | colon (before : List (Option String × Json)) (key : Option String) (stack : List Frame)
  /-- What follows a complete value. -/
  | behind (value : Json) (stack : List Frame)

namespace Reading

/-- Takes the first token of a value. -/
def open? (stack : List Frame) : Token → Option Reading
  | .openObject => some (firstKey stack)
  | .openArray => some (firstItem stack)
  | .null => some (behind .null stack)
  | .bool b => some (behind (.bool b) stack)
  | .number literal => some (behind (.number literal) stack)
  | .text content => some (behind (.text content) stack)
  | .closeObject | .closeArray | .colon | .comma => none

/-- Takes a token. -/
def step : Reading → Token → Option Reading
  | value stack, token => open? stack token
  | firstItem stack, .closeArray => some (behind (.array []) stack)
  | firstItem stack, token => open? (.array [] :: stack) token
  | firstKey stack, .closeObject => some (behind (.object []) stack)
  | firstKey stack, .text k => some (colon [] k stack)
  | key before stack, .text k => some (colon before k stack)
  | colon before k stack, .colon => some (value (.object before k :: stack))
  | behind v (.array before :: stack), .comma => some (value (.array (v :: before) :: stack))
  | behind v (.array before :: stack), .closeArray =>
    some (behind (.array (v :: before).reverse) stack)
  | behind v (.object before k :: stack), .comma => some (key ((k, v) :: before) stack)
  | behind v (.object before k :: stack), .closeObject =>
    some (behind (.object ((k, v) :: before).reverse) stack)
  | _, _ => none

/-- Takes tokens one after another. -/
def run (reading : Reading) : List Token → Option Reading
  | [] => some reading
  | token :: rest =>
    match reading.step token with
    | none => none
    | some next => next.run rest

/-- The document that has been read, if it is complete. -/
def finish : Reading → Option Json
  | behind v [] => some v
  | _ => none

end Reading

/-- The document made of the tokens. -/
def ofTokens (ts : List Token) : Option Json :=
  ((Reading.value []).run ts).bind Reading.finish

/-- Reads a JSON document. -/
def parse (text : String) : Option Json :=
  (tokens text.toList).bind ofTokens

/-! ## Printing -/

/-- A character as it stands inside a JSON text. -/
def escape (c : Char) : List Char :=
  if c = '"' then ['\\', '"']
  else if c = '\\' then ['\\', '\\']
  else if c = '\x08' then ['\\', 'b']
  else if c = '\x0c' then ['\\', 'f']
  else if c = '\n' then ['\\', 'n']
  else if c = '\r' then ['\\', 'r']
  else if c = '\t' then ['\\', 't']
  else if c.toNat < 0x20 then ['\\', 'u'] ++ hexPadded 4 c.toNat
  else [c]

/-- A text with quotes around it. A text without content is printed as an empty one. -/
def textChars (content : Option String) : List Char :=
  '"' :: (content.getD "").toList.flatMap escape ++ ['"']

mutual

/-- The characters of a document, without blanks. -/
def chars : Json → List Char
  | null => ['n', 'u', 'l', 'l']
  | bool true => ['t', 'r', 'u', 'e']
  | bool false => ['f', 'a', 'l', 's', 'e']
  | number literal => literal
  | text content => textChars content
  | array items => '[' :: itemChars items ++ [']']
  | object fields => '\x7b' :: fieldChars fields ++ ['\x7d']

/-- Items with commas between them. -/
def itemChars : List Json → List Char
  | [] => []
  | [item] => chars item
  | item :: rest => chars item ++ ',' :: itemChars rest

/-- Fields with commas between them. -/
def fieldChars : List (Option String × Json) → List Char
  | [] => []
  | [(key, value)] => textChars key ++ ':' :: chars value
  | (key, value) :: rest => textChars key ++ ':' :: chars value ++ ',' :: fieldChars rest

end

/-- The text of a document, without blanks. -/
def print (json : Json) : String :=
  String.ofList json.chars

/-! ## Documents for values -/

/-- The document of a text. -/
def ofText (t : String) : Json :=
  .text (some t)

/-- The document of a number. -/
def ofNat (n : Nat) : Json :=
  .number (decimalDigits n)

/-- The document of an optional value: `null` for none. -/
def ofOption {α : Type} (write : α → Json) : Option α → Json
  | none => .null
  | some a => write a

/-- The document of a record. -/
def ofFields (fields : List (String × Json)) : Json :=
  .object (fields.map fun (key, value) => (some key, value))

end Json

end CallDispatch
