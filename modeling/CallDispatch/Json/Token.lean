import CallDispatch.Text.Hex

/-!
# Tokens of JSON documents

The lexer is an automaton that takes one character at a time. Tokens of numbers keep their digits,
since how a number is read depends on what is asked for. A text may hold escapes of single
surrogates, which stand for no character; such a text is still a token, but has no content.
-/

namespace CallDispatch.Json

open Text

/-- A token of a JSON document. -/
inductive Token
  | openObject
  | closeObject
  | openArray
  | closeArray
  | colon
  | comma
  | null
  | bool (value : Bool)
  | number (literal : List Char)
  | text (content : Option String)
deriving DecidableEq

/-! ## Texts -/

/-- A text as far as it has been read. -/
structure TextSoFar where
  /-- The characters read, last one first. -/
  chars : List Char := []
  /-- The first half of a surrogate pair whose second half is due. -/
  half : Option Nat := none
  /-- Whether every escaped surrogate read so far belongs to a pair. -/
  paired : Bool := true
deriving DecidableEq

namespace TextSoFar

/-- Adds a character that is not an escaped surrogate. -/
def push (read : TextSoFar) (c : Char) : TextSoFar :=
  { chars := c :: read.chars, half := none, paired := read.paired && read.half.isNone }

/-- Adds the UTF-16 code unit of an escape with four hexadecimal digits. -/
def pushUnit (read : TextSoFar) (unit : Nat) : TextSoFar :=
  if 0xDC00 ≤ unit ∧ unit ≤ 0xDFFF then
    match read.half with
    | some high =>
      let c := Char.ofNat (0x10000 + (high - 0xD800) * 0x400 + (unit - 0xDC00))
      { chars := c :: read.chars, half := none, paired := read.paired }
    | none => { read with paired := false }
  else if 0xD800 ≤ unit ∧ unit ≤ 0xDBFF then
    { chars := read.chars, half := some unit, paired := read.paired && read.half.isNone }
  else read.push (Char.ofNat unit)

/-- The content of the text, if all surrogates are in pairs. -/
def content (read : TextSoFar) : Option String :=
  if read.paired ∧ read.half = none then some (String.ofList read.chars.reverse) else none

end TextSoFar

/-- The character that a backslash and `c` stand for. -/
def escaped (c : Char) : Option Char :=
  match c with
  | '"' => some '"'
  | '\\' => some '\\'
  | '/' => some '/'
  | 'b' => some '\x08'
  | 'f' => some '\x0c'
  | 'n' => some '\n'
  | 'r' => some '\r'
  | 't' => some '\t'
  | _ => none

/-! ## Numbers -/

/-- Which part of a number has been read last. -/
inductive NumberPart
  | minus
  | zero
  | integer
  | point
  | fraction
  | exponentMark
  | exponentSign
  | exponent
deriving DecidableEq

/-- Whether a number may end behind this part. -/
def NumberPart.isComplete : NumberPart → Bool
  | zero | integer | fraction | exponent => true
  | minus | point | exponentMark | exponentSign => false

/-- What a character is behind a part of a number, if it continues it. -/
def NumberPart.next (part : NumberPart) (c : Char) : Option NumberPart :=
  let isMark := c == 'e' || c == 'E'
  match part with
  | minus => if c = '0' then some zero else if c.isDigit then some integer else none
  | zero => if c = '.' then some point else if isMark then some exponentMark else none
  | integer =>
    if c.isDigit then some integer
    else if c = '.' then some point
    else if isMark then some exponentMark
    else none
  | point => if c.isDigit then some fraction else none
  | fraction => if c.isDigit then some fraction else if isMark then some exponentMark else none
  | exponentMark =>
    if c.isDigit then some exponent
    else if c = '+' ∨ c = '-' then some exponentSign
    else none
  | exponentSign => if c.isDigit then some exponent else none
  | exponent => if c.isDigit then some exponent else none

/-! ## The automaton -/

/-- What the automaton is reading. -/
inductive Mode
  | between
  | word (rest : List Char) (token : Token)
  | number (part : NumberPart) (seen : List Char)
  | text (read : TextSoFar)
  | escape (read : TextSoFar)
  | escapeDigits (read : TextSoFar) (due : Nat) (value : Nat)
deriving DecidableEq

/-- The state of the automaton: the tokens read, last one first, and what is being read. -/
structure LexState where
  tokens : List Token := []
  mode : Mode := .between
deriving DecidableEq

namespace LexState

/-- Adds a token that is complete. -/
def emit (state : LexState) (token : Token) : LexState :=
  ⟨token :: state.tokens, .between⟩

/-- Takes a character between tokens. -/
def start (state : LexState) (c : Char) : Option LexState :=
  match c with
  | ' ' | '\t' | '\n' | '\r' => some ⟨state.tokens, .between⟩
  | '\x7b' => some (state.emit .openObject)
  | '\x7d' => some (state.emit .closeObject)
  | '[' => some (state.emit .openArray)
  | ']' => some (state.emit .closeArray)
  | ':' => some (state.emit .colon)
  | ',' => some (state.emit .comma)
  | 'n' => some ⟨state.tokens, .word ['u', 'l', 'l'] .null⟩
  | 't' => some ⟨state.tokens, .word ['r', 'u', 'e'] (.bool true)⟩
  | 'f' => some ⟨state.tokens, .word ['a', 'l', 's', 'e'] (.bool false)⟩
  | '"' => some ⟨state.tokens, .text {}⟩
  | '-' => some ⟨state.tokens, .number .minus ['-']⟩
  | '0' => some ⟨state.tokens, .number .zero ['0']⟩
  | _ => if c.isDigit then some ⟨state.tokens, .number .integer [c]⟩ else none

/-- Takes a character. -/
def step (state : LexState) (c : Char) : Option LexState :=
  match state.mode with
  | .between => state.start c
  | .word [] token => (state.emit token).start c
  | .word (due :: rest) token =>
    if c ≠ due then none
    else if rest.isEmpty then some (state.emit token)
    else some ⟨state.tokens, .word rest token⟩
  | .number part seen =>
    match part.next c with
    | some part => some ⟨state.tokens, .number part (c :: seen)⟩
    | none =>
      if part.isComplete then (state.emit (.number seen.reverse)).start c else none
  | .text read =>
    if c = '"' then some (state.emit (.text read.content))
    else if c = '\\' then some ⟨state.tokens, .escape read⟩
    else if c.toNat < 0x20 then none
    else some ⟨state.tokens, .text (read.push c)⟩
  | .escape read =>
    if c = 'u' then some ⟨state.tokens, .escapeDigits read 4 0⟩
    else (escaped c).map fun plain => ⟨state.tokens, .text (read.push plain)⟩
  | .escapeDigits read due value =>
    (hexValue c).map fun digit =>
      let value := 16 * value + digit
      if due ≤ 1 then ⟨state.tokens, .text (read.pushUnit value)⟩
      else ⟨state.tokens, .escapeDigits read (due - 1) value⟩

/-- The tokens, if the last one is complete. -/
def finish (state : LexState) : Option (List Token) :=
  match state.mode with
  | .between => some state.tokens.reverse
  | .number part seen =>
    if part.isComplete then some (Token.number seen.reverse :: state.tokens).reverse else none
  | _ => none

/-- Takes characters one after another. -/
def run (state : LexState) : List Char → Option LexState
  | [] => some state
  | c :: rest =>
    match state.step c with
    | none => none
    | some next => next.run rest

end LexState

/-- The tokens of a JSON document. -/
def tokens (cs : List Char) : Option (List Token) :=
  (LexState.run {} cs).bind LexState.finish

end CallDispatch.Json
