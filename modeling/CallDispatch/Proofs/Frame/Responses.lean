import CallDispatch.Proofs.Frame.Encoding
import CallDispatch.Proofs.Frame.Fields

/-!
# Responses

The server makes up the id in front of each of its messages, and nothing else about them depends on
it: the payload of a frame is its id and what stands behind it (`payload_eq`), and as all ids have
36 bytes (`utf8ByteSize_messageId`) a response fits into a frame or does not whatever its id is
(`utf8ByteSize_response_congr`). Two payloads are compared up to their ids by what is behind the
first bar (`unnumbered`).
-/

namespace CallDispatch

open Text

/-! ## Message ids -/

namespace Text

/-- Characters of one byte each take as many bytes as they are. -/
lemma utf8ByteSize_ofList_of_single {cs : List Char} (h : ∀ c ∈ cs, c.utf8Size = 1) :
    (String.ofList cs).utf8ByteSize = cs.length := by
  have hsizes : cs.map (fun c => (String.utf8EncodeChar c).length) = cs.map fun _ => 1 :=
    List.map_congr_left fun c hc => (String.length_utf8EncodeChar c).trans (h c hc)
  rw [← length_utf8Bytes, utf8Bytes_ofList, List.length_flatMap, hsizes, List.map_const',
    List.sum_replicate_nat, Nat.mul_one]

end Text

/-- All ids have 36 bytes. -/
lemma utf8ByteSize_messageId (n : Nat) : (messageId n).utf8ByteSize = 36 := by
  have hlt : n % 0x1000000000000 < 16 ^ 12 := Nat.mod_lt n (by decide)
  unfold messageId
  generalize n % 0x1000000000000 = m at hlt
  have hsingle : ∀ c ∈ hexPadded 12 m, c.utf8Size = 1 := of_mem_hexPadded (by decide) 12 m
  have hsize : (String.ofList (hexPadded 12 m)).utf8ByteSize = 12 := by
    rw [utf8ByteSize_ofList_of_single hsingle]
    exact length_hexPadded (by decide) hlt
  rw [String.utf8ByteSize_append, hsize]
  decide

namespace Frame

/-! ## What stands behind the id -/

/-- What stands behind the id in the payload of a frame. -/
def behindId (frame : Frame) : String :=
  "|" ++ "|".intercalate (frame.kind :: frame.args) ++ bodyText frame.body

/-- What stands behind the id in a payload. -/
def unnumbered (payload : String) : String :=
  String.ofList (payload.toList.dropWhile (· != '|'))

lemma payload_eq (frame : Frame) : frame.payload = frame.id ++ frame.behindId := by
  rw [payload, behindId, String.intercalate_cons_cons]
  simp only [String.append_assoc]

/-- An id without bars is told apart from what is behind it. -/
lemma unnumbered_payload {frame : Frame} (h : '|' ∉ frame.id.toList) :
    unnumbered frame.payload = frame.behindId := by
  have hid : ∀ c ∈ frame.id.toList, (c != '|') = true := by
    intro c hc
    rw [bne_iff_ne]
    rintro rfl
    exact h hc
  have hbar : (frame.behindId).toList.dropWhile (· != '|') = (frame.behindId).toList := by
    rw [behindId, String.append_assoc, String.toList_append]
    rfl
  rw [unnumbered, payload_eq, String.toList_append, List.dropWhile_append_of_pos hid, hbar,
    String.ofList_toList]

/-- What stands behind the id of a response. -/
lemma behindId_response (id requestId : String) (ok : Bool) (reason : Option String) :
    (response id requestId ok reason).behindId = (response "" requestId ok reason).behindId := rfl

lemma payload_ne_empty (frame : Frame) : frame.payload ≠ "" := by
  intro hempty
  have hsize : frame.payload.utf8ByteSize = 0 := by rw [hempty]; rfl
  rw [payload_eq, behindId, String.utf8ByteSize_append, String.utf8ByteSize_append,
    String.utf8ByteSize_append] at hsize
  have hbar : ("|" : String).utf8ByteSize = 1 := rfl
  omega

/-- Frames with ids of the same size and the same text behind them take the same number of bytes. -/
lemma utf8ByteSize_payload_congr {frame frame' : Frame}
    (hid : frame.id.utf8ByteSize = frame'.id.utf8ByteSize)
    (hbehind : frame.behindId = frame'.behindId) :
    frame.payload.utf8ByteSize = frame'.payload.utf8ByteSize := by
  rw [payload_eq, payload_eq, String.utf8ByteSize_append, String.utf8ByteSize_append, hid, hbehind]

lemma fits_payload_iff {frame : Frame} :
    fits frame.payload = true ↔ frame.payload.utf8ByteSize ≤ maxLength := by
  rw [fits_iff]
  exact and_iff_right (payload_ne_empty frame)

/-- The only frames that do not fit are those that are too large. -/
lemma large_of_not_fits {frame : Frame} (h : ¬fits frame.payload = true) :
    maxLength < frame.payload.utf8ByteSize := by
  rwa [fits_payload_iff, Nat.not_le] at h

/-- A frame is written if it fits. -/
lemma write_nil_payload (frame : Frame) :
    (write [] frame.payload).1 =
      if frame.payload.utf8ByteSize ≤ maxLength then framed frame.payload else [] := by
  by_cases hle : frame.payload.utf8ByteSize ≤ maxLength
  · rw [if_pos hle, write_of_fits (fits_payload_iff.2 hle)]
    rfl
  · have hfits : fits frame.payload = false := by
      rw [← Bool.not_eq_true, fits_payload_iff]
      exact hle
    obtain ⟨e, hwrite⟩ := write_of_not_fits hfits []
    rw [if_neg hle, hwrite]

/-- How large a response is. -/
lemma utf8ByteSize_response (id requestId : String) (ok : Bool) (reason : Option String) :
    (response id requestId ok reason).payload.utf8ByteSize =
      id.utf8ByteSize + requestId.utf8ByteSize + 13 + reason.elim 0 (·.utf8ByteSize + 1) := by
  have hbar : ("|" : String).utf8ByteSize = 1 := rfl
  have hkind : ("response" : String).utf8ByteSize = 8 := rfl
  have hverdict : (if ok then "OK" else "NO" : String).utf8ByteSize = 2 := by cases ok <;> rfl
  rw [payload, response]
  cases reason with
  | none =>
    simp only [Option.toList_none, bodyText, String.append_empty, String.intercalate_cons_cons,
      String.intercalate_singleton, String.utf8ByteSize_append, hbar, hkind, hverdict,
      Option.elim_none]
    omega
  | some reason =>
    simp only [Option.toList_some, bodyText, String.append_empty, String.intercalate_cons_cons,
      String.intercalate_singleton, String.utf8ByteSize_append, hbar, hkind, hverdict,
      Option.elim_some]
    omega

/-- Whether a response fits into a frame does not depend on its id. -/
lemma utf8ByteSize_response_congr (n m : Nat) (requestId : String) (ok : Bool)
    (reason : Option String) :
    (response (messageId n) requestId ok reason).payload.utf8ByteSize =
      (response (messageId m) requestId ok reason).payload.utf8ByteSize :=
  utf8ByteSize_payload_congr
    ((utf8ByteSize_messageId n).trans (utf8ByteSize_messageId m).symm) rfl

end Frame

end CallDispatch
