import CallDispatch.Json.Decode
import CallDispatch.Proofs.Text.Digits
import Mathlib.Tactic.Lemma

/-!
# Values read back from their documents

The document of a value is read as that value: a number if it is not too large, a list item by item,
and a record if its fields are the known ones.
-/

namespace CallDispatch.Json

open Text

/-- Reading each item undoes writing it. -/
lemma mapM_map_eq_some {α β : Type} {write : α → β} {read : β → Option α} {values : List α}
    (h : ∀ a ∈ values, read (write a) = some a) : (values.map write).mapM read = some values := by
  induction values with
  | nil => rfl
  | cons a rest ih =>
    obtain ⟨ha, hrest⟩ := List.forall_mem_cons.1 h
    rw [List.map_cons, List.mapM_cons, ha, Option.bind_eq_bind, Option.bind_some, ih hrest]
    rfl

/-- What is read item by item was written so, if nothing else is read as an item. -/
lemma eq_map_of_mapM {α β : Type} {write : α → β} {read : β → Option α} {items : List β}
    {values : List α} (hread : ∀ item a, read item = some a → item = write a)
    (h : items.mapM read = some values) : items = values.map write := by
  induction items generalizing values with
  | nil =>
    cases h
    rfl
  | cons item rest ih =>
    rw [List.mapM_cons] at h
    obtain ⟨a, ha, hrest⟩ := Option.bind_eq_some_iff.1 h
    obtain ⟨more, hmore, hvalues⟩ := Option.bind_eq_some_iff.1 hrest
    cases hvalues
    rw [hread item a ha, ih hmore, List.map_cons]

@[simp] lemma text?_ofText (t : String) : text? (.ofText t) = some t := rfl

/-- Only texts are read as texts. -/
lemma eq_ofText_of_text? {json : Json} {t : String} (h : json.text? = some t) :
    json = .ofText t := by
  cases json with
  | text content => exact congrArg Json.text h
  | _ => cases h

lemma natural?_ofNat {limit n : Nat} (h : n ≤ limit) : natural? limit (.ofNat n) = some n :=
  readUpTo_decimalDigits h

section

variable {α : Type} {read : Json → Option α}

/-- A list is read item by item. -/
lemma list?_map {write : α → Json} {values : List α}
    (h : ∀ a ∈ values, read (write a) = some a) :
    list? read (.array (values.map write)) = some values :=
  mapM_map_eq_some h

/-- Only arrays are read as lists. -/
lemma eq_array_of_list? {write : α → Json} {json : Json} {values : List α}
    (hread : ∀ item a, read item = some a → item = write a) (h : list? read json = some values) :
    json = .array (values.map write) := by
  cases json with
  | array items => exact congrArg Json.array (eq_map_of_mapM hread h)
  | _ => cases h

/-- A value that is not written as `null` is told apart from none. -/
lemma nullable?_ofOption {write : α → Json} {value : Option α} (hnull : ∀ a, write a ≠ .null)
    (h : ∀ a ∈ value, read (write a) = some a) :
    nullable? read (ofOption write value) = some value := by
  cases value with
  | none => rfl
  | some a =>
    have hwrite := h a rfl
    rw [ofOption]
    cases hjson : write a with
    | null => exact absurd hjson (hnull a)
    | _ =>
      rw [hjson] at hwrite
      rw [nullable?, hwrite, Option.map_some]
      exact nofun

end

/-! ## Records -/

namespace Record

variable {names : List String} {fields : List (String × Json)}

/-- Fields with known names are all kept. -/
lemma knownFields_map (h : ∀ field ∈ fields, field.1 ∈ names) :
    knownFields names (fields.map fun (key, value) => (some key, value)) = some fields := by
  have hreadable : (fields.map fun (key, value) => (some key, value)).mapM readable =
      some fields :=
    mapM_map_eq_some fun _ _ => rfl
  rw [knownFields, hreadable, Option.map_some]
  exact congrArg some (List.filter_eq_self.2 (by simpa using h))

/-- A record is read from the object of its fields. -/
lemma ofJson?_ofFields (partly : Bool) (hnames : fields.map Prod.fst = names)
    (hnodup : names.Nodup) : ofJson? names partly (.ofFields fields) = some ⟨fields⟩ := by
  have hknown : ∀ field ∈ fields, field.1 ∈ names :=
    fun field hfield => hnames ▸ List.mem_map_of_mem hfield
  rw [ofFields, ofJson?, knownFields_map hknown, Option.bind_eq_bind, Option.bind_some,
    if_pos (hnames ▸ hnodup)]

end Record

end CallDispatch.Json
