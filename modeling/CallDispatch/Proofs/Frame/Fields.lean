import CallDispatch.Frame.Basic
import CallDispatch.Proofs.Frame.Rendering
import CallDispatch.Proofs.Net.SocketAddress
import Mathlib.Tactic.Lemma

/-!
# Fields that the server makes up

The server fills some fields of its frames itself. All of them stay together in a payload
(`Frame.IsField`): the ids of its messages have the form of UUIDs (`isUuid_messageId`), and the text
of a socket address has digits and a few marks in it, neither bars nor line breaks
(`SocketAddress.isField_text`).
-/

namespace CallDispatch

open Text

namespace Text

/-! ## Plain texts -/

/-- The characters are neither bars nor carriage returns. -/
def Plain (cs : List Char) : Prop :=
  ∀ c ∈ cs, c ≠ '|' ∧ c ≠ '\r'

instance (cs : List Char) : Decidable (Plain cs) :=
  List.decidableBAll (fun c => c ≠ '|' ∧ c ≠ '\r') cs

/-- Where there is no carriage return, there is no line break. -/
lemma Plain.unbroken {cs : List Char} (h : Plain cs) : Unbroken cs := by
  intro hbreak
  exact (h '\r' (hbreak.subset List.mem_cons_self)).2 rfl

end Text

lemma Frame.isField_of_plain {field : String} (h : Plain field.toList) : IsField field where
  bar hbar := (h '|' hbar).1 rfl
  unbroken := h.unbroken

/-! ## Addresses -/

/-- The text of an address stays together in a payload. -/
lemma SocketAddress.isField_text (address : SocketAddress) : Frame.IsField address.text := by
  apply Frame.isField_of_plain
  rw [text, String.toList_ofList]
  exact address.of_mem_chars (by decide) (by simp)

/-! ## Message ids -/

/-- The form of a UUID: five groups of hexadecimal digits with hyphens between them. -/
structure IsUuid (id : String) : Prop where
  groups : (split '-' id).map String.length = [8, 4, 4, 4, 12]
  digits : ∀ c ∈ id.toList, c = '-' ∨ c ∈ "0123456789abcdef".toList

namespace IsUuid

variable {id : String}

lemma ne_empty (h : IsUuid id) : id ≠ "" := by
  rintro rfl
  exact absurd h.groups (by decide)

lemma plain (h : IsUuid id) : Plain id.toList := by
  have hdigits : Plain "0123456789abcdef".toList := by decide
  intro c hc
  rcases h.digits c hc with rfl | hdigit
  · decide
  · exact hdigits c hdigit

/-- An id in the form of a UUID stays together in a payload. -/
lemma isField (h : IsUuid id) : Frame.IsField id :=
  Frame.isField_of_plain h.plain

end IsUuid

/-- The ids of messages have the form of UUIDs. -/
lemma isUuid_messageId (n : Nat) : IsUuid (messageId n) := by
  have hlt : n % 0x1000000000000 < 16 ^ 12 := Nat.mod_lt n (by decide)
  unfold messageId
  generalize n % 0x1000000000000 = m at hlt
  have hlength : (hexPadded 12 m).length = 12 := length_hexPadded (by decide) hlt
  have hdigits : ∀ c ∈ hexPadded 12 m, c ∈ "0123456789abcdef".toList :=
    of_mem_hexPadded (by decide) 12 m
  have hgroups : "00000000-0000-4000-8000-" ++ String.ofList (hexPadded 12 m) =
      "-".intercalate ["00000000", "0000", "4000", "8000", String.ofList (hexPadded 12 m)] := by
    rw [← String.toList_inj]
    simp only [String.intercalate_cons_cons, String.intercalate_singleton, String.toList_append]
    rfl
  have htail : (String.ofList (hexPadded 12 m)).toList = hexPadded 12 m := String.toList_ofList
  have hhyphen : ("-" : String).toList = ['-'] := rfl
  constructor
  · have hfree : ∀ group ∈ ["00000000", "0000", "4000", "8000", String.ofList (hexPadded 12 m)],
        '-' ∉ group.toList := by
      have hlast : '-' ∉ (String.ofList (hexPadded 12 m)).toList := by
        rw [htail]
        exact fun hmem => absurd (hdigits '-' hmem) (by decide)
      simp only [List.forall_mem_cons]
      exact ⟨by decide, by decide, by decide, by decide, hlast, by simp⟩
    rw [hgroups, split_intercalate hhyphen (by simp) hfree]
    simp only [List.map_cons, List.map_nil, String.length_ofList, hlength]
    decide
  · intro c hc
    have hfront : "00000000-0000-4000-8000-".toList.all
        (fun c => c = '-' ∨ c ∈ "0123456789abcdef".toList) = true := by decide
    rw [String.toList_append, htail, List.mem_append] at hc
    rcases hc with hc | hc
    · exact of_decide_eq_true (List.all_eq_true.1 hfront c hc)
    · exact .inr (hdigits c hc)

end CallDispatch
