import CallDispatch.Json.Basic
import CallDispatch.Json.Number

/-!
# Values from JSON documents

How texts, numbers, alternatives and records are read from a document. A record is an object, where
unknown fields are skipped and known ones may not be repeated, or an array of the fields in order.
-/

namespace CallDispatch.Json

open Text

/-- Reads a text. -/
def text? : Json → Option String
  | .text content => content
  | _ => none

/-- Reads a number without sign, fraction and exponent, of at most `limit`. -/
def natural? (limit : Nat) : Json → Option Nat
  | .number literal => readUpTo limit literal
  | _ => none

/-- Reads a list of values. -/
def list? {α : Type} (read : Json → Option α) : Json → Option (List α)
  | .array items => items.mapM read
  | _ => none

/-- Reads a value that may be `null`. -/
def nullable? {α : Type} (read : Json → Option α) : Json → Option (Option α)
  | .null => some none
  | json => (read json).map some

/-- Reads the name of an alternative without content: the text of its name, or an object with that
name as its only key and `null` as value. -/
def alternative? : Json → Option String
  | .text content => content
  | .object [(key, .null)] => key
  | _ => none

/-! ## Records -/

/-- The known fields of a record that are present. -/
structure Record where
  fields : List (String × Json)

namespace Record

/-- A field whose key has content. -/
def readable : Option String × Json → Option (String × Json)
  | (some key, value) => some (key, value)
  | (none, _) => none

/-- The known fields of an object, if all its keys have content. -/
def knownFields (names : List String) (fields : List (Option String × Json)) :
    Option (List (String × Json)) :=
  (fields.mapM readable).map (·.filter (names.contains ·.1))

/-- Reads a record with the given fields. An array has all of them, or may stop early where
`partly` is set. -/
def ofJson? (names : List String) (partly : Bool) : Json → Option Record
  | .object fields => do
    let known ← knownFields names fields
    if (known.map Prod.fst).Nodup then some ⟨known⟩ else none
  | .array items =>
    if items.length = names.length ∨ (partly ∧ items.length < names.length) then
      some ⟨names.zip items⟩
    else none
  | _ => none

/-- Reads a field that has to be present. -/
def required {α : Type} (record : Record) (name : String) (read : Json → Option α) : Option α :=
  (record.fields.lookup name).bind read

/-- Reads a field with a default. -/
def withDefault {α : Type} (record : Record) (name : String) (default : α)
    (read : Json → Option α) : Option α :=
  match record.fields.lookup name with
  | none => some default
  | some json => read json

/-- Reads a field that may be missing or `null`. -/
def optional {α : Type} (record : Record) (name : String) (read : Json → Option α) :
    Option (Option α) :=
  record.withDefault name none (nullable? read)

end Record

/-! ## Documents that are kept -/

mutual

/-- Whether a document can be kept for later: its nesting is at most `depth`, every text in it has
content, and every number has a finite double. -/
def isKeepable (depth : Nat) : Json → Bool
  | .null | .bool _ => true
  | .number literal => isFinite literal
  | .text content => content.isSome
  | .array items => 0 < depth && itemsKeepable (depth - 1) items
  | .object fields => 0 < depth && fieldsKeepable (depth - 1) fields

@[inherit_doc isKeepable] def itemsKeepable (depth : Nat) : List Json → Bool
  | [] => true
  | item :: rest => isKeepable depth item && itemsKeepable depth rest

@[inherit_doc isKeepable] def fieldsKeepable (depth : Nat) : List (Option String × Json) → Bool
  | [] => true
  | (key, value) :: rest =>
    key.isSome && isKeepable depth value && fieldsKeepable depth rest

end

end CallDispatch.Json
