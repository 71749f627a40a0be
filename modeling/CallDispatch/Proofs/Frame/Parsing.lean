import CallDispatch.Proofs.Frame.Rendering

/-!
# Reading and rendering are inverse

A payload that can be read is the payload of the frame that is read from it
(`Frame.payload_of_parse`): cutting at the first line break and at every bar loses nothing but those
delimiters, and rendering puts them back. The frames that are read back from their payloads are
therefore just those that are read at all, which are those with an id, a kind and no delimiter in a
field (`Frame.Legible`).
-/

namespace CallDispatch

namespace Text

/-! ## Line breaks -/

/-- What stands in one piece in a text without line breaks has none. -/
lemma Unbroken.of_isInfix {as bs : List Char} (h : Unbroken bs) (hpart : as <:+: bs) :
    Unbroken as :=
  fun hbreak => h (hbreak.trans hpart)

/-- A character in front of a text without line breaks begins one only as a carriage return in front
of a line feed. -/
lemma Unbroken.cons {c : Char} {cs : List Char} (h : Unbroken cs)
    (hc : ¬(c = '\r' ∧ cs.head? = some '\n')) : Unbroken (c :: cs) := by
  intro hbreak
  rcases List.infix_cons_iff.1 hbreak with hprefix | hpart
  · obtain ⟨rfl, hrest⟩ := List.cons_prefix_cons.1 hprefix
    cases cs with
    | nil => exact absurd hrest (by simp)
    | cons d ds =>
      obtain ⟨rfl, -⟩ := List.cons_prefix_cons.1 hrest
      exact hc ⟨rfl, rfl⟩
  · exact h hpart

/-- Looking for a line break finds none where there is none, and else the first one. -/
lemma cutLineFrom_cases (seen cs : List Char) :
    cutLineFrom seen cs = none ∧ Unbroken cs ∨
      ∃ line body, cutLineFrom seen cs = some (seen.reverse ++ line, body) ∧
        cs = line ++ '\r' :: '\n' :: body ∧ Unbroken line := by
  induction cs generalizing seen with
  | nil => exact Or.inl ⟨rfl, unbroken_nil⟩
  | cons c cs ih =>
    by_cases hbreak : c = '\r' ∧ cs.head? = some '\n'
    · obtain ⟨rfl, hhead⟩ := hbreak
      obtain ⟨body, rfl⟩ : ∃ body, cs = '\n' :: body := List.head?_eq_some_iff.1 hhead
      refine Or.inr ⟨[], body, ?_, rfl, unbroken_nil⟩
      rw [cutLineFrom, if_pos ⟨rfl, rfl⟩, List.append_nil]
      rfl
    · rw [cutLineFrom, if_neg hbreak]
      rcases ih (c :: seen) with ⟨hnone, hcs⟩ | ⟨line, body, hsome, rfl, hline⟩
      · exact Or.inl ⟨hnone, hcs.cons hbreak⟩
      · refine Or.inr ⟨c :: line, body, ?_, rfl, hline.cons ?_⟩
        · rw [hsome, List.reverse_cons, List.append_assoc, List.singleton_append]
        · -- the text behind the character begins as the line does, if that is not empty
          rintro ⟨rfl, hhead⟩
          obtain ⟨rest, rfl⟩ : ∃ rest, line = '\n' :: rest := List.head?_eq_some_iff.1 hhead
          exact hbreak ⟨rfl, rfl⟩

/-- A text is one line, or it goes on behind the first line break. -/
lemma cutLine_cases (cs : List Char) :
    cutLine cs = none ∧ Unbroken cs ∨
      ∃ line body, cutLine cs = some (line, body) ∧ cs = line ++ '\r' :: '\n' :: body ∧
        Unbroken line :=
  cutLineFrom_cases [] cs

end Text

open Text

namespace Frame

/-- A frame whose payload tells where its fields end. -/
structure Legible (frame : Frame) : Prop where
  id_ne : frame.id ≠ ""
  kind_ne : frame.kind ≠ ""
  fields : ∀ field ∈ frame.id :: frame.kind :: frame.args, IsField field

variable {frame : Frame} {line : List Char} {body : Option String} {text : String}

/-- What stands between the bars of a line is a field. -/
lemma isField_of_mem_split {field : String} (hline : Unbroken line)
    (h : field ∈ split '|' (String.ofList line)) : IsField field := by
  have hbar : ("|" : String).toList = ['|'] := rfl
  have hpart : field.toList <:+: ("|".intercalate (split '|' (String.ofList line))).toList :=
    isInfix_intercalate h
  rw [intercalate_split hbar, String.toList_ofList] at hpart
  refine ⟨?_, hline.of_isInfix hpart⟩
  obtain ⟨piece, hpiece, rfl⟩ := List.mem_map.1 h
  rw [String.toList_ofList] at hpiece ⊢
  exact not_mem_of_mem_pieces hpiece

/-- The fields that are read are those between the bars of the line, and the first two of them are
not empty. -/
lemma split_of_ofFields (h : ofFields line body = .ok frame) :
    split '|' (String.ofList line) = frame.id :: frame.kind :: frame.args ∧ frame.id ≠ "" ∧
      frame.kind ≠ "" ∧ frame.body = body := by
  unfold ofFields at h
  split at h
  · next id kind args hsplit =>
    split at h
    · next hnonempty =>
      cases h
      exact ⟨hsplit, hnonempty.1, hnonempty.2, rfl⟩
    · cases h
  · cases h

/-- A frame is read in the first line of a payload, with what stands behind it as its body. -/
lemma exists_line_of_parse (h : Frame.parse text = .ok frame) :
    ∃ line, Unbroken line ∧ ofFields line frame.body = .ok frame ∧
      text = String.ofList line ++ bodyText frame.body := by
  unfold parse at h
  rcases cutLine_cases text.toList with ⟨hcut, hline⟩ | ⟨line, body, hcut, htext, hline⟩
  · rw [hcut] at h
    obtain ⟨-, -, -, hbody⟩ := split_of_ofFields h
    refine ⟨text.toList, hline, hbody ▸ h, ?_⟩
    rw [hbody, bodyText, String.append_empty, String.ofList_toList]
  · rw [hcut] at h
    obtain ⟨-, -, -, hbody⟩ := split_of_ofFields h
    refine ⟨line, hline, hbody ▸ h, ?_⟩
    rw [hbody, bodyText, ← String.toList_inj, htext]
    simp only [String.toList_append, String.toList_ofList]
    rfl

/-- A payload that can be read is the payload of the frame that is read. -/
lemma payload_of_parse (h : Frame.parse text = .ok frame) : frame.payload = text := by
  obtain ⟨line, -, hfields, rfl⟩ := exists_line_of_parse h
  have hbar : ("|" : String).toList = ['|'] := rfl
  rw [payload, ← (split_of_ofFields hfields).1, intercalate_split hbar]

/-- A frame that is read is legible. -/
lemma legible_of_parse (h : Frame.parse text = .ok frame) : frame.Legible := by
  obtain ⟨line, hline, hfields, -⟩ := exists_line_of_parse h
  obtain ⟨hsplit, hid, hkind, -⟩ := split_of_ofFields hfields
  refine ⟨hid, hkind, fun field hfield => ?_⟩
  rw [← hsplit] at hfield
  exact isField_of_mem_split hline hfield

/-- Every text is made of fields with bars between them, perhaps with a body behind: of itself alone
if it is a field. -/
lemma exists_fields (text : String) : ∃ fields body, fields ≠ [] ∧
    (∀ field ∈ fields, IsField field) ∧ "|".intercalate fields ++ bodyText body = text ∧
    (IsField text → fields = [text] ∧ body = none) := by
  have hbar : ("|" : String).toList = ['|'] := rfl
  by_cases hfield : IsField text
  · refine ⟨[text], none, by simp, by simpa using hfield, ?_, fun _ => ⟨rfl, rfl⟩⟩
    rw [String.intercalate_singleton, bodyText, String.append_empty]
  · -- its first line is cut at the bars
    obtain ⟨line, body, hline, htext⟩ :
        ∃ line body, Unbroken line ∧ String.ofList line ++ bodyText body = text := by
      rcases cutLine_cases text.toList with ⟨-, hline⟩ | ⟨line, body, -, htext, hline⟩
      · refine ⟨text.toList, none, hline, ?_⟩
        rw [bodyText, String.append_empty, String.ofList_toList]
      · refine ⟨line, some (String.ofList body), hline, ?_⟩
        rw [← String.toList_inj, htext, bodyText]
        simp
    refine ⟨split '|' (String.ofList line), body, ?_, fun field => isField_of_mem_split hline, ?_,
      fun h => absurd h hfield⟩
    · simpa [split] using pieces_ne_nil '|' line
    · rw [intercalate_split hbar, htext]

/-- **Reading and rendering.** Every text that can be read is the payload of the frame that is read
from it; and a frame is read back from its payload exactly if its id and its kind are not empty and
there is neither a bar nor a line break in its id, its kind and its arguments. The body may be
anything. -/
theorem parse_inverse_payload :
    (∀ (text : String) (frame : Frame), Frame.parse text = .ok frame → frame.payload = text) ∧
      ∀ frame : Frame, Frame.parse frame.payload = .ok frame ↔
        frame.id ≠ "" ∧ frame.kind ≠ "" ∧
          ∀ field ∈ frame.id :: frame.kind :: frame.args,
            '|' ∉ field.toList ∧ ¬['\r', '\n'] <:+: field.toList := by
  refine ⟨fun text frame h => payload_of_parse h, fun frame => ⟨fun h => ?_, fun h => ?_⟩⟩
  · have hlegible := legible_of_parse h
    refine ⟨hlegible.id_ne, hlegible.kind_ne, fun field hfield => ?_⟩
    exact ⟨(hlegible.fields field hfield).bar, (hlegible.fields field hfield).unbroken⟩
  · obtain ⟨hid, hkind, hfields⟩ := h
    exact parse_payload hid hkind fun field hfield =>
      ⟨(hfields field hfield).1, (hfields field hfield).2⟩

/-- Delimiters next to the ends of fields: an empty argument, one that ends in a carriage return in
front of the line break, and a body with a bar and another line break. -/
theorem parse_inverse_payload_edges :
    let text := "7|sip||a\r\r\n|\r\n"
    let frame : Frame := ⟨"7", "sip", ["", "a\r"], some "|\r\n"⟩
    Frame.parse text = .ok frame ∧ frame.payload = text ∧ Frame.parse frame.payload = .ok frame := by
  intro text frame
  have hread : Frame.parse frame.payload = .ok frame :=
    (parse_inverse_payload.2 frame).2 (by decide)
  have htext : frame.payload = text := by decide
  have hparse : Frame.parse text = .ok frame := htext ▸ hread
  exact ⟨hparse, parse_inverse_payload.1 text frame hparse, hread⟩

end Frame

end CallDispatch
