import CallDispatch.Proofs.Json.Token
import Mathlib.Tactic.Lemma

/-!
# Printed documents

A document made of values is read back from its text (`Json.parse_print`). The tokens of an item or
a field lead the reader on to the next one or to the end of the document it is in (`Adds`), so those
of all of them lead it to the end (`exists_tokens_intercalate`), and a document inside another one
is read as it is alone (`Spells`).

## Main definitions

* `Json.Printable`: the documents that are made of values.
* `Json.Spells`: the characters of a document, wherever it stands in another one.
-/

namespace CallDispatch.Json

open Text

/-- A document as it is made of values: numbers are natural ones, and texts and keys have content.
-/
inductive Printable : Json → Prop
  | null : Printable .null
  | bool (b : Bool) : Printable (.bool b)
  | ofNat (n : Nat) : Printable (.ofNat n)
  | ofText (t : String) : Printable (.ofText t)
  | array {items : List Json} : (∀ item ∈ items, Printable item) → Printable (.array items)
  | ofFields {fields : List (String × Json)} :
    (∀ field ∈ fields, Printable field.2) → Printable (.ofFields fields)

lemma Reading.run_append (reading : Reading) (ts ts' : List Token) :
    reading.run (ts ++ ts') = (reading.run ts).bind (·.run ts') := by
  induction ts generalizing reading with
  | nil => rfl
  | cons t ts ih =>
    rw [List.cons_append, run, run]
    cases reading.step t with
    | none => rfl
    | some next => exact ih next

/-! ## Parts of a document -/

/-- The characters spell a document, inside of any others. -/
def Spells (cs : List Char) (json : Json) : Prop :=
  ∃ ts, Lexes cs ts ∧ ∀ stack, (Reading.value stack).run ts = some (.behind json stack)

section

variable {α : Type} (enter : List α → List Frame → Reading) (close : Token)
  (make : List α → Json)

/-- The characters add a part to the parts before it, last one first: a comma leads on to the next
part, and `close` makes a document of all of them. -/
def Adds (cs : List Char) (part : α) : Prop :=
  ∃ ts, Lexes cs ts ∧ ∀ before stack,
    (enter before stack).run (ts ++ [.comma]) = some (enter (part :: before) stack) ∧
      (enter before stack).run (ts ++ [close]) =
        some (.behind (make (part :: before).reverse) stack)

variable {enter close make}

/-- Parts with commas between them are read up to the end of the document they are in. -/
lemma exists_tokens_intercalate {write : α → List Char} (part : α) (rest : List α)
    (h : ∀ other ∈ part :: rest, Adds enter close make (write other) other) :
    ∃ ts, Lexes ([','].intercalate ((part :: rest).map write)) ts ∧ ∀ before stack,
      (enter before stack).run (ts ++ [close]) =
        some (.behind (make (before.reverse ++ part :: rest)) stack) := by
  -- on the parts that follow: a comma leads to the next one with one more part before it
  induction rest generalizing part with
  | nil =>
    obtain ⟨ts, hlex, hread⟩ := h part List.mem_cons_self
    refine ⟨ts, by simpa using hlex, fun before stack => ?_⟩
    rw [(hread before stack).2, List.reverse_cons]
  | cons other rest ih =>
    obtain ⟨ts, hlex, hread⟩ := h part List.mem_cons_self
    obtain ⟨ts', hlex', hread'⟩ :=
      ih other fun third hthird => h third (List.mem_cons_of_mem part hthird)
    refine ⟨ts ++ .comma :: ts', ?_, fun before stack => ?_⟩
    · simpa using hlex.append_mark .comma hlex'
    · have hsplit : ts ++ .comma :: ts' ++ [close] = ts ++ [.comma] ++ (ts' ++ [close]) := by simp
      rw [hsplit, Reading.run_append, (hread before stack).1, Option.bind_some, hread',
        List.reverse_cons, List.append_assoc, List.singleton_append]

end

/-! ## Arrays -/

lemma itemChars_eq_intercalate (items : List Json) :
    itemChars items = [','].intercalate (items.map chars) := by
  induction items with
  | nil => rfl
  | cons item rest ih =>
    cases rest with
    | nil => simp [itemChars]
    | cons other rest => simp [itemChars, ih]

/-- An item adds itself to the items before it. -/
lemma Spells.adds {cs : List Char} {item : Json} (h : Spells cs item) :
    Adds (fun before stack => .value (.array before :: stack)) .closeArray .array cs item := by
  obtain ⟨ts, hlex, hread⟩ := h
  refine ⟨ts, hlex, fun before stack => ⟨?_, ?_⟩⟩
  · rw [Reading.run_append, hread]
    rfl
  · rw [Reading.run_append, hread]
    rfl

/-- What is read as an item is read as the first one. -/
lemma Reading.run_firstItem {ts : List Token} {stack stack' : List Frame} {json : Json}
    (h : (value (.array [] :: stack)).run ts = some (behind json stack')) :
    (firstItem stack).run ts = some (behind json stack') := by
  cases ts with
  | nil => cases h
  | cons t ts =>
    -- only the end of the array is taken in another way, and no value begins with it
    cases t with
    | closeArray => cases h
    | _ => exact h

/-- An array is spelled by its items. -/
lemma spells_array {items : List Json} (h : ∀ item ∈ items, Spells item.chars item) :
    Spells (chars (.array items)) (.array items) := by
  rw [chars, itemChars_eq_intercalate]
  cases items with
  | nil =>
    exact ⟨[.openArray, .closeArray], (lexes_nil.concat_mark .closeArray).mark_cons .openArray,
      fun _ => rfl⟩
  | cons item rest =>
    obtain ⟨ts, hlex, hread⟩ :=
      exists_tokens_intercalate item rest fun other hother => (h other hother).adds
    refine ⟨.openArray :: (ts ++ [.closeArray]),
      (hlex.concat_mark .closeArray).mark_cons .openArray, fun stack => ?_⟩
    exact Reading.run_firstItem (hread [] stack)

/-! ## Objects -/

lemma fieldChars_eq_intercalate (fields : List (Option String × Json)) :
    fieldChars fields =
      [','].intercalate (fields.map fun field => textChars field.1 ++ ':' :: chars field.2) := by
  induction fields with
  | nil => rfl
  | cons field rest ih =>
    cases rest with
    | nil => simp [fieldChars]
    | cons other rest => simp [fieldChars, ih]

/-- A field adds itself to the fields before it. -/
lemma Spells.adds_field {value : Json} (h : Spells value.chars value) (key : String) :
    Adds .key .closeObject .object (textChars (some key) ++ ':' :: value.chars)
      (some key, value) := by
  obtain ⟨ts, hlex, hread⟩ := h
  have hvalue : ∀ before stack (rest : List Token),
      (Reading.key before stack).run (.text (some key) :: .colon :: ts ++ rest) =
        (Reading.behind value (.object before (some key) :: stack)).run rest := by
    intro before stack rest
    have hbehind := Reading.run_append (.value (.object before (some key) :: stack)) ts rest
    rwa [hread, Option.bind_some] at hbehind
  refine ⟨.text (some key) :: .colon :: ts, (lexes_text key).append_mark .colon hlex,
    fun before stack => ⟨?_, ?_⟩⟩
  · rw [hvalue]
    rfl
  · rw [hvalue]
    rfl

/-- What is read as a field is read as the first one. -/
lemma Reading.run_firstKey {ts : List Token} {stack stack' : List Frame} {json : Json}
    (h : (key [] stack).run ts = some (behind json stack')) :
    (firstKey stack).run ts = some (behind json stack') := by
  cases ts with
  | nil => cases h
  | cons t ts =>
    cases t with
    | text content => exact h
    | _ => cases h

/-- An object is spelled by its fields. -/
lemma spells_object {fields : List (Option String × Json)}
    (h : ∀ field ∈ fields, ∃ key value, field = (some key, value) ∧ Spells value.chars value) :
    Spells (chars (.object fields)) (.object fields) := by
  rw [chars, fieldChars_eq_intercalate]
  cases fields with
  | nil =>
    exact ⟨[.openObject, .closeObject], (lexes_nil.concat_mark .closeObject).mark_cons .openObject,
      fun _ => rfl⟩
  | cons field rest =>
    have hadds : ∀ other ∈ field :: rest,
        Adds .key .closeObject .object (textChars other.1 ++ ':' :: chars other.2) other := by
      intro other hother
      obtain ⟨key, value, rfl, hvalue⟩ := h other hother
      exact hvalue.adds_field key
    obtain ⟨ts, hlex, hread⟩ := exists_tokens_intercalate field rest hadds
    refine ⟨.openObject :: (ts ++ [.closeObject]),
      (hlex.concat_mark .closeObject).mark_cons .openObject, fun stack => ?_⟩
    exact Reading.run_firstKey (hread [] stack)

/-! ## Whole documents -/

/-- A document made of values is spelled by its characters. -/
lemma Printable.spells {json : Json} (h : Printable json) : Spells json.chars json := by
  induction h with
  | null => exact ⟨[.null], lexes_null, fun _ => rfl⟩
  | bool b =>
    cases b with
    | false => exact ⟨[.bool false], lexes_false, fun _ => rfl⟩
    | true => exact ⟨[.bool true], lexes_true, fun _ => rfl⟩
  | ofNat n => exact ⟨[.number (decimalDigits n)], lexes_decimalDigits n, fun _ => rfl⟩
  | ofText t => exact ⟨[.text (some t)], lexes_text t, fun _ => rfl⟩
  | array _ ih => exact spells_array ih
  | ofFields _ ih =>
    refine spells_object fun field hfield => ?_
    obtain ⟨⟨key, value⟩, hmem, rfl⟩ := List.mem_map.1 hfield
    exact ⟨key, value, rfl, ih (key, value) hmem⟩

/-- A document made of values is read back from its text. -/
lemma parse_print {json : Json} (h : Printable json) : parse json.print = some json := by
  obtain ⟨ts, hlex, hread⟩ := h.spells
  have htokens : tokens json.chars = some ts := hlex []
  rw [parse, print, String.toList_ofList, htokens, Option.bind_some, ofTokens, hread]
  rfl

end CallDispatch.Json
