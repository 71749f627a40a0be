import CallDispatch.Connection.Tags
import CallDispatch.Proofs.Json.Decode
import CallDispatch.Proofs.Json.Printing
import CallDispatch.Proofs.Text.Reading

/-!
# Tags that were listed

Tags are listed in a text with commas between them, in a list of texts, or in a document of either
form. Whatever lists them, the set that is read depends only on which texts are listed: its tags are
those that one of them is, up to blanks around it (`TagSet.mem_ofList`). Cleaning changes no list of
tags, since tags have no blanks around them and are not empty. So a set of tags is read back from
the list of its members and from its document, and from the text of its members with commas between
them if no tag holds a comma itself (`TagSet.parse_intercalate`).

## Main definitions

* `TagSource`, `TagSource.read?`: what tags are read from, and the set that is read.
* `TagSource.Lists`: the texts that a source lists, as they stand in it.
-/

namespace CallDispatch

open Text

namespace TagSet

variable {tags : TagSet} {texts others : List String} {tag : String}

/-! ## Members -/

lemma isTag_of_mem_toList (h : tag ∈ tags.toList) : IsTag tag :=
  tags.areTags tag h

/-- Sets with the same members are equal. -/
lemma ext_members {other : TagSet} (h : ∀ tag, tag ∈ tags.members ↔ tag ∈ other.members) :
    tags = other := by
  obtain ⟨members, hmembers⟩ := tags
  obtain ⟨others, hothers⟩ := other
  obtain rfl : members = others := TextSet.ext_mem h
  rfl

/-- The tags among texts are what the texts are without the blanks around them. -/
lemma mem_ofList :
    tag ∈ (ofList texts).members ↔ IsTag tag ∧ ∃ text ∈ texts, Padded tag text := by
  rw [ofList, TextSet.mem_ofList, clean, List.mem_filter, List.mem_map]
  constructor
  · rintro ⟨⟨text, htext, htrim⟩, hne⟩
    obtain ⟨htight, hpadded⟩ := trim_eq_iff.1 htrim
    exact ⟨⟨by simpa using hne, htight⟩, text, htext, hpadded⟩
  · rintro ⟨⟨hne, htight⟩, text, htext, hpadded⟩
    exact ⟨⟨text, htext, trim_eq_iff.2 ⟨htight, hpadded⟩⟩, by simpa using hne⟩

/-- Neither the order of the texts nor how often one of them is listed matters. -/
lemma ofList_congr (h : ∀ text, text ∈ others ↔ text ∈ texts) : ofList others = ofList texts :=
  ext_members fun tag => by simp only [mem_ofList, h]

/-- Of two texts with a comma between them, the tags of both are read. -/
lemma mem_parse_append_comma (list more tag : String) :
    tag ∈ (parse (list ++ "," ++ more)).members ↔
      tag ∈ (parse list).members ∨ tag ∈ (parse more).members := by
  have hcomma : (",".toList) = [','] := rfl
  simp only [parse, split_append hcomma, mem_ofList, List.mem_append, or_and_right, exists_or,
    and_or_left]

/-! ## Sets that are read back -/

/-- Cleaning changes no tags. -/
lemma clean_toList (tags : TagSet) : clean tags.toList = tags.toList := by
  have htrim : tags.toList.map trim = tags.toList :=
    (List.map_congr_left fun tag htag => (isTag_of_mem_toList htag).trim_eq).trans (List.map_id _)
  rw [clean, htrim, List.filter_eq_self]
  intro tag htag
  simpa using (isTag_of_mem_toList htag).1

/-- A set of tags is made of its members. -/
lemma ofList_toList (tags : TagSet) : ofList tags.toList = tags := by
  refine ext_members fun tag => ?_
  rw [ofList, TextSet.mem_ofList, clean_toList]
  rfl

/-- Tags without commas are read back from the text that lists them. -/
lemma parse_intercalate (h : ∀ tag ∈ tags.members, ',' ∉ tag.toList) :
    parse (",".intercalate tags.toList) = tags := by
  have hcomma : (",".toList) = [','] := rfl
  by_cases hnone : tags.toList = []
  · -- the empty text is read as one empty piece, which is no tag
    have hread : parse (",".intercalate []) = ofList [] := by decide
    rw [hnone, hread, ← hnone, ofList_toList]
  · rw [parse, split_intercalate hcomma hnone h, ofList_toList]

/-- The document of a list of texts is read as their tags. -/
lemma ofJson?_array (texts : List String) :
    ofJson? (.array (texts.map .ofText)) = some (ofList texts) := by
  have hlist : Json.list? Json.text? (.array (texts.map .ofText)) = some texts :=
    Json.list?_map fun text _ => Json.text?_ofText text
  have htext : Json.text? (.array (texts.map .ofText)) = none := rfl
  simp only [ofJson?, htext, hlist, Option.map_some]

/-- A set of tags is read back from the text of its document. -/
lemma ofJson?_toJson (tags : TagSet) : (Json.parse tags.toJson.print).bind ofJson? = some tags := by
  have hprintable : Json.Printable tags.toJson := by
    refine .array fun item hitem => ?_
    obtain ⟨tag, -, rfl⟩ := List.mem_map.1 hitem
    exact .ofText tag
  rw [Json.parse_print hprintable, Option.bind_some, toJson, ofJson?_array, ofList_toList]

end TagSet

/-! ## Sources -/

/-- What tags are read from. -/
inductive TagSource
  /-- A text with commas between the tags. -/
  | text (list : String)
  /-- A list of texts. -/
  | texts (tags : List String)
  | document (json : Json)

namespace TagSource

/-- Reads the tags. -/
def read? : TagSource → Option TagSet
  | text list => some (.parse list)
  | texts tags => some (.ofList tags)
  | document json => TagSet.ofJson? json

/-- The source lists the texts: one text does, with commas between them, or a list, or a document
that is such a text or the array of them. -/
inductive Lists : TagSource → List String → Prop
  | text {tags : List String} : tags ≠ [] → (∀ tag ∈ tags, ',' ∉ tag.toList) →
    Lists (.text (",".intercalate tags)) tags
  | texts (tags : List String) : Lists (.texts tags) tags
  | documentText {list : String} {tags : List String} :
    Lists (.text list) tags → Lists (.document (.ofText list)) tags
  | documentArray (tags : List String) : Lists (.document (.array (tags.map .ofText))) tags

variable {source : TagSource} {texts : List String} {tags : TagSet}

/-- Every text lists what stands between its commas. -/
lemma lists_split (list : String) : Lists (.text list) (split ',' list) := by
  have hcomma : (",".toList) = [','] := rfl
  have hne : split ',' list ≠ [] := by
    simpa [split] using pieces_ne_nil ',' list.toList
  have hfree : ∀ tag ∈ split ',' list, ',' ∉ tag.toList := by
    intro tag htag
    obtain ⟨piece, hpiece, rfl⟩ := List.mem_map.1 htag
    rw [String.toList_ofList]
    exact not_mem_of_mem_pieces hpiece
  have hlists := Lists.text hne hfree
  rwa [intercalate_split hcomma] at hlists

/-- The set of the tags among the texts is read, whatever lists them. -/
lemma Lists.read?_eq (h : source.Lists texts) : source.read? = some (.ofList texts) := by
  induction h with
  | text hne hfree =>
    have hcomma : (",".toList) = [','] := rfl
    rw [read?, TagSet.parse, split_intercalate hcomma hne hfree]
  | texts tags => rfl
  | documentText _ ih => exact ih
  | documentArray tags => exact TagSet.ofJson?_array tags

/-- Tags are read only from what lists texts. -/
lemma exists_lists_of_read? (h : source.read? = some tags) : ∃ texts, source.Lists texts := by
  cases source with
  | text list => exact ⟨split ',' list, lists_split list⟩
  | texts list => exact ⟨list, .texts list⟩
  | document json =>
    simp only [read?, TagSet.ofJson?] at h
    split at h
    · rename_i list htext
      obtain rfl := Json.eq_ofText_of_text? htext
      exact ⟨split ',' list, .documentText (lists_split list)⟩
    · obtain ⟨list, hlist, -⟩ := Option.map_eq_some_iff.1 h
      obtain rfl := Json.eq_array_of_list? (fun _ _ => Json.eq_ofText_of_text?) hlist
      exact ⟨list, .documentArray list⟩

end TagSource

/-! ## The main result -/

/-- **Tag sets are in normal form**, whatever they are read from. A set holds a tag exactly if the
tag is one of the listed texts without the blanks around it, so no tag is empty or has a blank at an
end, and anything else that lists the same texts, in any order and any number of times, is read as
the same set. The set is read back from its members and from the text of its document. Two texts
with a comma between them are read as the union of what each is read as. -/
theorem TagSource.normal_of_read {source : TagSource} {tags : TagSet}
    (h : source.read? = some tags) :
    (∃ texts, source.Lists texts) ∧
      (∀ texts, source.Lists texts →
        (∀ tag, tag ∈ tags.members ↔
          (tag ≠ "" ∧ Tight tag.toList) ∧ ∃ text ∈ texts, Padded tag text) ∧
        ∀ (other : TagSource) (others : List String), other.Lists others →
          (∀ text, text ∈ others ↔ text ∈ texts) → other.read? = some tags) ∧
      TagSet.ofList tags.toList = tags ∧
      (Json.parse tags.toJson.print).bind TagSet.ofJson? = some tags ∧
      ∀ list more tag : String, tag ∈ (TagSet.parse (list ++ "," ++ more)).members ↔
        tag ∈ (TagSet.parse list).members ∨ tag ∈ (TagSet.parse more).members := by
  refine ⟨exists_lists_of_read? h, fun texts hlists => ?_, tags.ofList_toList,
    tags.ofJson?_toJson, TagSet.mem_parse_append_comma⟩
  obtain rfl : TagSet.ofList texts = tags := Option.some.inj (hlists.read?_eq.symm.trans h)
  refine ⟨fun tag => TagSet.mem_ofList, fun other others hothers hsame => ?_⟩
  rw [hothers.read?_eq, TagSet.ofList_congr hsame]

/-- A text with a blank piece and a repeated tag, and an array of the same texts in another
order. -/
theorem TagSource.normal_of_read_listedTwice :
    let tags := TagSet.ofList ["a", "b"]
    let array := TagSource.document (.array [.ofText "a\u3000", .ofText " ", .ofText "b"])
    (TagSource.text "b, ,a\u3000,b").read? = some tags ∧ tags.toList = ["a", "b"] ∧
      array.read? = some tags ∧ tags.toJson.print = "[\"a\",\"b\"]" ∧
      (Json.parse "[\"a\",\"b\"]").bind TagSet.ofJson? = some tags := by
  intro tags array
  have hread : (TagSource.text "b, ,a\u3000,b").read? = some tags := by decide
  have hsplit : split ',' "b, ,a\u3000,b" = ["b", " ", "a\u3000", "b"] := by decide
  have hlists : TagSource.Lists (.text "b, ,a\u3000,b") ["b", " ", "a\u3000", "b"] :=
    hsplit ▸ TagSource.lists_split _
  have harray := TagSource.Lists.documentArray ["a\u3000", " ", "b"]
  have hsame : ∀ text, text ∈ ["a\u3000", " ", "b"] ↔ text ∈ ["b", " ", "a\u3000", "b"] := by grind
  have hprint : tags.toJson.print = "[\"a\",\"b\"]" := by decide
  obtain ⟨-, hsources, -, hparse, -⟩ := TagSource.normal_of_read hread
  rw [hprint] at hparse
  exact ⟨hread, by decide, (hsources _ hlists).2 array _ harray hsame, hprint, hparse⟩

end CallDispatch
