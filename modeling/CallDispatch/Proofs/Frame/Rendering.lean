import CallDispatch.Frame.Basic
import CallDispatch.Proofs.Text.Reading
import Mathlib.Tactic.Lemma

/-!
# Reading what was rendered

A frame whose fields have no bars and no line breaks in them can be read back from its payload
(`Frame.parse_payload`): the fields end at the first line break, and are what stands between the
bars in front of it. The body may hold anything.
-/

namespace CallDispatch

namespace Text

/-! ## Line breaks -/

/-- There is no line break in the text. -/
def Unbroken (cs : List Char) : Prop :=
  ¬['\r', '\n'] <:+: cs

instance (cs : List Char) : Decidable (Unbroken cs) :=
  inferInstanceAs (Decidable ¬['\r', '\n'] <:+: cs)

lemma unbroken_nil : Unbroken [] := by
  intro h
  exact absurd (List.infix_nil.1 h) (by simp)

lemma Unbroken.tail {c : Char} {cs : List Char} (h : Unbroken (c :: cs)) : Unbroken cs :=
  fun hbreak => h (hbreak.trans (List.suffix_cons c cs).isInfix)

/-- In front of a text without line breaks there is none either, if none begins there. -/
lemma Unbroken.head {c : Char} {cs : List Char} (h : Unbroken (c :: cs)) (hc : c = '\r') :
    cs.head? ≠ some '\n' := by
  intro hhead
  cases cs with
  | nil => cases hhead
  | cons d ds =>
    cases hhead
    subst hc
    exact h ⟨[], ds, rfl⟩

/-- A character that is neither half of a line break makes none. -/
lemma Unbroken.append_cons {c : Char} (hc : c ≠ '\r' ∧ c ≠ '\n') {as bs : List Char}
    (ha : Unbroken as) (hb : Unbroken bs) : Unbroken (as ++ c :: bs) := by
  induction as with
  | nil =>
    intro h
    rcases List.infix_cons_iff.1 h with hprefix | hinfix
    · exact hc.1 (List.cons_prefix_cons.1 hprefix).1.symm
    · exact hb hinfix
  | cons a as ih =>
    intro h
    rcases List.infix_cons_iff.1 h with hprefix | hinfix
    · obtain ⟨rfl, hrest⟩ := List.cons_prefix_cons.1 hprefix
      cases as with
      | nil => exact hc.2 (List.cons_prefix_cons.1 hrest).1.symm
      | cons d ds =>
        obtain ⟨rfl, -⟩ := List.cons_prefix_cons.1 hrest
        exact ha.head rfl rfl
    · exact ih ha.tail hinfix

/-- Texts without line breaks stand in one line, with characters between them that make none. -/
lemma unbroken_intercalate {c : Char} {separator : String} (hseparator : separator.toList = [c])
    (hc : c ≠ '\r' ∧ c ≠ '\n') {fields : List String}
    (h : ∀ field ∈ fields, Unbroken field.toList) :
    Unbroken (separator.intercalate fields).toList := by
  induction fields with
  | nil => exact unbroken_nil
  | cons field fields ih =>
    have hfield := h field List.mem_cons_self
    have hrest := ih fun other hother => h other (List.mem_cons_of_mem field hother)
    cases fields with
    | nil =>
      rw [String.intercalate_singleton]
      exact hfield
    | cons other rest =>
      rw [String.intercalate_cons_cons, String.append_assoc, String.toList_append,
        String.toList_append, hseparator]
      exact hfield.append_cons hc hrest

/-- Where there is no line break, none is found. -/
lemma cutLine_of_unbroken {cs : List Char} (h : Unbroken cs) : cutLine cs = none := by
  suffices hfrom : ∀ seen, cutLineFrom seen cs = none from hfrom []
  induction cs with
  | nil => exact fun _ => rfl
  | cons c cs ih =>
    intro seen
    have hnot : ¬(c = '\r' ∧ cs.head? = some '\n') := fun hbreak => h.head hbreak.1 hbreak.2
    rw [cutLineFrom, if_neg hnot]
    exact ih h.tail _

/-- Behind a line without line breaks the first one is found. -/
lemma cutLine_append {line : List Char} (h : Unbroken line) (body : List Char) :
    cutLine (line ++ '\r' :: '\n' :: body) = some (line, body) := by
  suffices hfrom : ∀ seen, cutLineFrom seen (line ++ '\r' :: '\n' :: body) =
      some (seen.reverse ++ line, body) from hfrom []
  induction line with
  | nil =>
    intro seen
    rw [List.append_nil]
    exact if_pos ⟨rfl, rfl⟩
  | cons c line ih =>
    intro seen
    have hnot : ¬(c = '\r' ∧ (line ++ '\r' :: '\n' :: body).head? = some '\n') := by
      rintro ⟨hc, hhead⟩
      cases line with
      | nil => exact absurd hhead (by simp)
      | cons d ds => exact h.head hc hhead
    rw [List.cons_append, cutLineFrom, if_neg hnot, ih h.tail, List.reverse_cons,
      List.append_assoc, List.singleton_append]

end Text

open Text

namespace Frame

/-- A field that stays together in a payload. -/
structure IsField (field : String) : Prop where
  bar : '|' ∉ field.toList
  unbroken : Unbroken field.toList

instance (field : String) : Decidable (IsField field) :=
  decidable_of_iff ('|' ∉ field.toList ∧ Unbroken field.toList)
    ⟨fun h => ⟨h.1, h.2⟩, fun h => ⟨h.bar, h.unbroken⟩⟩

variable {frame : Frame}

/-- The fields of a frame are read in its first line. -/
lemma ofFields_intercalate (hid : frame.id ≠ "") (hkind : frame.kind ≠ "")
    (hfields : ∀ field ∈ frame.id :: frame.kind :: frame.args, IsField field) :
    ofFields ("|".intercalate (frame.id :: frame.kind :: frame.args)).toList frame.body =
      .ok frame := by
  have hne : frame.id :: frame.kind :: frame.args ≠ [] := List.cons_ne_nil _ _
  have hbar : ("|" : String).toList = ['|'] := rfl
  have hsplit := split_intercalate hbar hne fun field hfield => (hfields field hfield).bar
  unfold ofFields
  rw [String.ofList_toList, hsplit]
  exact if_pos ⟨hid, hkind⟩

/-- A frame is read back from its payload. -/
lemma parse_payload (hid : frame.id ≠ "") (hkind : frame.kind ≠ "")
    (hfields : ∀ field ∈ frame.id :: frame.kind :: frame.args, IsField field) :
    Frame.parse frame.payload = .ok frame := by
  have hline : Unbroken ("|".intercalate (frame.id :: frame.kind :: frame.args)).toList :=
    unbroken_intercalate rfl (by decide) fun field hfield => (hfields field hfield).unbroken
  have hframe := ofFields_intercalate hid hkind hfields
  unfold parse payload
  cases hbody : frame.body with
  | none =>
    rw [hbody] at hframe
    simp only [bodyText, String.append_empty, cutLine_of_unbroken hline]
    exact hframe
  | some body =>
    have htext : ("\r\n" ++ body).toList = '\r' :: '\n' :: body.toList := by
      rw [String.toList_append]
      rfl
    rw [hbody] at hframe
    simp only [bodyText, String.toList_append, htext, cutLine_append hline]
    rw [String.ofList_toList]
    exact hframe

end Frame

end CallDispatch
