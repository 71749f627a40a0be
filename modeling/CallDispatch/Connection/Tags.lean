import CallDispatch.Json.Decode
import CallDispatch.Text.Blank
import CallDispatch.Text.Pieces
import CallDispatch.Text.Quoted
import CallDispatch.Text.TextSet

/-!
# Capability tags

An application advertises tags, and a request routed to a tag goes to applications that advertise
it. A tag is not empty and has no blanks around it. Tags come as one text with commas between them
or as a list of texts; both are trimmed, and what is then empty is dropped.
-/

namespace CallDispatch

open Text

/-- A text that can be a tag: not empty, and without blanks around it. -/
def IsTag (tag : String) : Prop :=
  tag ≠ "" ∧ Tight tag.toList

/-- A tag is read as it stands. -/
theorem IsTag.trim_eq {tag : String} (h : IsTag tag) : trim tag = tag := by
  rw [trim, trimmed_eq_self h.2, String.ofList_toList]

/-- A set of tags. -/
structure TagSet where
  members : TextSet
  areTags : ∀ tag ∈ members, IsTag tag

namespace TagSet

instance : DecidableEq TagSet := fun a b =>
  decidable_of_iff (a.members = b.members) (by cases a; cases b; simp)

/-- The tags among texts: each is trimmed, and empty ones are dropped. -/
def clean (texts : List String) : List String :=
  (texts.map trim).filter (· ≠ "")

/-- What is left of texts after cleaning are tags. -/
theorem isTag_of_mem_clean {texts : List String} {tag : String} (h : tag ∈ clean texts) :
    IsTag tag := by
  obtain ⟨hmem, hne⟩ := List.mem_filter.1 h
  obtain ⟨source, -, rfl⟩ := List.mem_map.1 hmem
  exact ⟨by simpa using hne, by simpa [trim] using tight_trimmed source.toList⟩

/-- The set of the tags among texts. -/
def ofList (texts : List String) : TagSet :=
  ⟨.ofList (clean texts), fun _ h => isTag_of_mem_clean (TextSet.mem_ofList.1 h)⟩

/-- The set without tags. -/
def empty : TagSet :=
  ⟨.empty, fun tag h => absurd h (TextSet.not_mem_empty tag)⟩

instance : Inhabited TagSet := ⟨empty⟩

/-- Reads tags with commas between them. -/
def parse (list : String) : TagSet :=
  ofList (split ',' list)

/-- The tags in ascending order. -/
def toList (tags : TagSet) : List String :=
  tags.members.toList

/-- Whether the tag is in the set. -/
def contains (tags : TagSet) (tag : String) : Bool :=
  tag ∈ tags.members

/-- Whether there are no tags. -/
def isEmpty (tags : TagSet) : Bool :=
  tags.members.isEmpty

/-- The number of tags. -/
def size (tags : TagSet) : Nat :=
  tags.members.size

/-- The tags with commas between them, in braces. -/
def text (tags : TagSet) : String :=
  "\x7b" ++ ",".intercalate tags.toList ++ "\x7d"

/-- The description of a set of tags. -/
def describe (tags : TagSet) : String :=
  "TagSet(\x7b" ++ ", ".intercalate (tags.toList.map quoted) ++ "\x7d)"

/-- The document of a set of tags: the list of them. -/
def toJson (tags : TagSet) : Json :=
  .array (tags.toList.map .ofText)

/-- Reads tags from a document: one text with commas, or an array with one tag in each text. -/
def ofJson? (json : Json) : Option TagSet :=
  match json.text? with
  | some list => some (parse list)
  | none => (json.list? Json.text?).map ofList

end TagSet

end CallDispatch
