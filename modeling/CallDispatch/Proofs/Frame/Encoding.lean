import CallDispatch.Proofs.Frame.Decoding
import CallDispatch.Proofs.Text.Digits

/-!
# Encoding frames

What is written by encoding is read by decoding. The digits in front of a payload announce its
length (`announces_decimal`), so an encoded payload is a frame of the grammar, whatever its text
holds and whatever stands behind it (`starts_framed`). Payloads encoded one after another are
therefore a stream whose reading is those that were not refused (`reading_framed`), and decoding
gives that reading for every cut of the stream.

## Main definitions

* `framed`: the bytes of a payload on the stream.
* `write`, `writeAll`: encoding behind what is in a buffer.
-/

namespace CallDispatch.Frame

open Text

/-! ## Written lengths -/

lemma toNat_of_isDigit {c : Char} (h : c.isDigit = true) : 0x30 ≤ c.toNat ∧ c.toNat ≤ 0x39 := by
  have hdigit : 0x30 ≤ c.val ∧ c.val ≤ 0x39 := by simpa [Char.isDigit] using h
  exact ⟨UInt32.le_iff_toNat_le.1 hdigit.1, UInt32.le_iff_toNat_le.1 hdigit.2⟩

/-- The byte of a decimal digit has its code. -/
lemma toNat_toUInt8_of_isDigit {c : Char} (h : c.isDigit = true) :
    c.val.toUInt8.toNat = c.toNat := by
  have hhigh := (toNat_of_isDigit h).2
  rw [UInt32.toNat_toUInt8]
  exact Nat.mod_eq_of_lt (Nat.lt_of_le_of_lt hhigh (by decide))

lemma utf8EncodeChar_of_isDigit {c : Char} (h : c.isDigit = true) :
    String.utf8EncodeChar c = [c.val.toUInt8] := by
  have hhigh := (toNat_of_isDigit h).2
  refine String.utf8EncodeChar_eq_singleton (Char.utf8Size_eq_one_iff.2 ?_)
  exact UInt32.le_iff_toNat_le.2 (Nat.le_trans hhigh (by decide))

/-- A decimal number is written with one byte for each digit. -/
lemma utf8Bytes_decimal (n : Nat) :
    utf8Bytes (decimal n) = (decimalDigits n).map fun c => c.val.toUInt8 := by
  rw [decimal, utf8Bytes_ofList, List.map_eq_flatMap]
  exact List.flatMap_congr fun c hc => utf8EncodeChar_of_isDigit (isDigit_of_mem_decimalDigits hc)

/-- The digits of a number, read as a length, give the number. -/
lemma lengthOf_decimal (n : Nat) : lengthOf (utf8Bytes (decimal n)) = n := by
  have hread : ∀ (cs : List Char) (init : Nat), (∀ c ∈ cs, c.isDigit = true) →
      (cs.map fun c => c.val.toUInt8).foldl (fun n b => 10 * n + (b.toNat - 0x30)) init =
        Nat.ofDigitChars 10 cs init := by
    intro cs
    induction cs with
    | nil => exact fun _ _ => rfl
    | cons c cs ih =>
      intro init hcs
      rw [List.map_cons, List.foldl_cons, toNat_toUInt8_of_isDigit (hcs c List.mem_cons_self)]
      exact ih _ fun d hd => hcs d (List.mem_cons_of_mem c hd)
  rw [utf8Bytes_decimal, lengthOf, hread _ _ fun _ => isDigit_of_mem_decimalDigits]
  exact Nat.ofDigitChars_toDigits (by decide) (by decide)

/-- A length that a frame can have is announced by its decimal digits. -/
lemma announces_decimal {n : Nat} (hpos : 0 < n) (hle : n ≤ maxLength) :
    Announces (utf8Bytes (decimal n)) n := by
  refine announces_iff.2 ⟨⟨?_, ?_, ?_⟩, lengthOf_decimal n⟩
  · rw [utf8Bytes_decimal, List.length_map]
    have hlt : n < 10 ^ maxDigits := Nat.lt_succ_of_le hle
    exact (Nat.length_toDigits_le_iff (by decide) (by decide)).2 hlt
  · rw [utf8Bytes_decimal, List.all_map, List.all_eq_true]
    intro c hc
    have hdigit := isDigit_of_mem_decimalDigits hc
    rw [Function.comp_apply, isDigitByte_iff, toNat_toUInt8_of_isDigit hdigit]
    exact toNat_of_isDigit hdigit
  · rw [lengthOf_decimal]
    exact Nat.ne_of_gt hpos

/-! ## Payloads -/

/-- The bytes of a payload on the stream. -/
def framed (payload : String) : Bytes :=
  utf8Bytes (decimal payload.utf8ByteSize) ++ mark :: utf8Bytes payload

/-- A payload is refused if it is empty or too large, and written otherwise. -/
lemma encode_eq (payload : String) :
    encode payload =
      if payload = "" then .error (.protocol "cannot frame an empty payload")
      else if maxLength < payload.utf8ByteSize then .error (.tooLarge payload.utf8ByteSize)
      else .ok (framed payload) := by
  simp only [encode, List.isEmpty_iff, utf8Bytes_eq_nil_iff, length_utf8Bytes, framed]

/-- A written payload is a frame, whatever stands behind it. -/
lemma starts_framed {payload : String} (hne : payload ≠ "")
    (hle : payload.utf8ByteSize ≤ maxLength) (rest : Bytes) :
    Starts (framed payload ++ rest) (.text payload rest) := by
  have hpos : 0 < payload.utf8ByteSize :=
    Nat.pos_of_ne_zero fun hzero => hne (String.utf8ByteSize_eq_zero_iff.1 hzero)
  have hlength := announces_decimal hpos hle
  rw [← length_utf8Bytes payload] at hlength
  rw [framed, List.append_assoc, List.cons_append, ← length_utf8Bytes payload]
  exact .text rest hlength

/-! ## Encoding into a buffer -/

/-- Encodes a payload behind what is in a buffer. -/
def write (buffer : Bytes) (payload : String) : Bytes × Except LinkError Unit :=
  match encode payload with
  | .error e => (buffer, .error e)
  | .ok bytes => (buffer ++ bytes, .ok ())

/-- Encodes payloads one after another. -/
def writeAll (buffer : Bytes) (payloads : List String) : Bytes :=
  payloads.foldl (fun buffer payload => (write buffer payload).1) buffer

/-- Whether a payload has a frame. -/
def fits (payload : String) : Bool :=
  payload ≠ "" && payload.utf8ByteSize ≤ maxLength

lemma fits_iff {payload : String} :
    fits payload = true ↔ payload ≠ "" ∧ payload.utf8ByteSize ≤ maxLength := by
  simp [fits]

lemma write_of_fits {payload : String} (h : fits payload = true) (buffer : Bytes) :
    write buffer payload = (buffer ++ framed payload, .ok ()) := by
  obtain ⟨hne, hle⟩ := fits_iff.1 h
  rw [write, encode_eq, if_neg hne, if_neg (Nat.not_lt.2 hle)]

/-- What is refused leaves the buffer as it is. -/
lemma write_of_not_fits {payload : String} (h : fits payload = false) (buffer : Bytes) :
    ∃ e, write buffer payload = (buffer, .error e) := by
  rw [write, encode_eq]
  by_cases hempty : payload = ""
  · rw [if_pos hempty]
    exact ⟨_, rfl⟩
  · have hlarge : maxLength < payload.utf8ByteSize := by
      rw [← Bool.not_eq_true, fits_iff, not_and, Nat.not_le] at h
      exact h hempty
    rw [if_neg hempty, if_pos hlarge]
    exact ⟨_, rfl⟩

/-- What comes of encoding depends only on the size of the payload. -/
lemma write_snd_congr {payload payload' : String}
    (hsize : payload.utf8ByteSize = payload'.utf8ByteSize) (buffer buffer' : Bytes) :
    (write buffer payload).2 = (write buffer' payload').2 := by
  have hempty : payload = "" ↔ payload' = "" := by
    rw [← String.utf8ByteSize_eq_zero_iff, hsize, String.utf8ByteSize_eq_zero_iff]
  rw [write, write, encode_eq, encode_eq]
  by_cases hne : payload = ""
  · rw [if_pos hne, if_pos (hempty.1 hne)]
  · rw [if_neg hne, if_neg (mt hempty.2 hne), hsize]
    by_cases hlarge : maxLength < payload'.utf8ByteSize
    · rw [if_pos hlarge, if_pos hlarge]
    · rw [if_neg hlarge, if_neg hlarge]

/-- A payload is accepted if and only if it has a frame, and nothing is written otherwise. -/
lemma write_spec (buffer : Bytes) (payload : String) :
    ((write buffer payload).2 = .ok () ↔ fits payload = true) ∧
      ∀ e, (write buffer payload).2 = .error e → (write buffer payload).1 = buffer := by
  cases h : fits payload with
  | true =>
    rw [write_of_fits h]
    exact ⟨iff_of_true rfl rfl, fun e he => nomatch he⟩
  | false =>
    obtain ⟨e, hwrite⟩ := write_of_not_fits h buffer
    rw [hwrite]
    exact ⟨iff_of_false (fun hok => nomatch hok) Bool.false_ne_true, fun _ _ => rfl⟩

/-- Only what fits is written. -/
lemma writeAll_eq (buffer : Bytes) (payloads : List String) :
    writeAll buffer payloads = buffer ++ (payloads.filter fits).flatMap framed := by
  induction payloads generalizing buffer with
  | nil => exact (List.append_nil buffer).symm
  | cons payload payloads ih =>
    rw [writeAll, List.foldl_cons, ← writeAll, ih]
    cases h : fits payload with
    | true =>
      rw [write_of_fits h, List.filter_cons_of_pos h, List.flatMap_cons, List.append_assoc]
    | false =>
      obtain ⟨e, hrefused⟩ := write_of_not_fits h buffer
      rw [hrefused, List.filter_cons_of_neg (Bool.not_eq_true _ ▸ h)]

/-- Frames one behind the other are read as their payloads. -/
lemma reading_framed {payloads : List String} (h : ∀ payload ∈ payloads, fits payload = true) :
    Reading (payloads.flatMap framed) payloads (.unfinished []) := by
  induction payloads with
  | nil => exact .unfinished (.length ⟨Nat.zero_le _, by simp⟩)
  | cons payload payloads ih =>
    obtain ⟨hne, hle⟩ := fits_iff.1 (h payload List.mem_cons_self)
    rw [List.flatMap_cons]
    exact .text (starts_framed hne hle _) (ih fun p hp => h p (List.mem_cons_of_mem payload hp))

/-! ## The main result -/

namespace Inbox

/-- An inbox that waits behind a frame is empty. -/
lemma eq_empty_of_waits {inbox : Inbox} (h : inbox.Waits []) : inbox = {} := by
  generalize hleft : ([] : Bytes) = left at h
  cases h with
  | length hdigits =>
    subst hleft
    rfl
  | payload => simp at hleft

/-- Decoding gives the reading of a stream, however it is cut. -/
lemma feed_of_reading {chunks : List Bytes} {texts : List String} {ending : Ending}
    (h : Reading chunks.flatten texts ending) :
    (({} : Inbox).feed chunks).1 = results texts ending ∧
      ending.Reached (({} : Inbox).feed chunks).2.1 (({} : Inbox).feed chunks).2.2 := by
  obtain ⟨texts', ending', hreading, hresults, hreached⟩ := feeds_of_waits chunks waits_empty
  obtain ⟨rfl, rfl⟩ := h.unique hreading
  exact ⟨hresults, hreached⟩

/-- Frames one behind the other, however they are cut, are decoded as their payloads, and nothing is
left. -/
lemma feed_framed {payloads : List String} (h : ∀ payload ∈ payloads, fits payload = true)
    {chunks : List Bytes} (hcut : chunks.flatten = payloads.flatMap framed) :
    ({} : Inbox).feed chunks = (payloads.map .ok, {}, []) := by
  have hreading : Reading chunks.flatten payloads (.unfinished []) := by
    rw [hcut]
    exact reading_framed h
  obtain ⟨hresults, hwaits, hunread⟩ := feed_of_reading hreading
  refine Prod.ext ?_ (Prod.ext (eq_empty_of_waits hwaits) hunread)
  rw [hresults]
  exact List.append_nil _

/-- **Encoding and decoding.** Encoding refuses exactly the payloads that are empty or longer than
99999 bytes, and then leaves the buffer as it is. However the bytes of payloads encoded one after
another are cut into chunks, decoding gives those that were accepted, in order and without an error,
and nothing is left. -/
theorem feed_writeAll (payloads : List String) {chunks : List Bytes}
    (hcut : chunks.flatten = writeAll [] payloads) :
    (∀ buffer payload,
      ((write buffer payload).2 = .ok () ↔ payload ≠ "" ∧ payload.utf8ByteSize ≤ 99999) ∧
      ∀ e, (write buffer payload).2 = .error e → (write buffer payload).1 = buffer) ∧
    ({} : Inbox).feed chunks =
      ((payloads.filter fun payload => payload ≠ "" ∧ payload.utf8ByteSize ≤ 99999).map .ok,
        {}, []) := by
  have hspec : ∀ payload : String,
      fits payload = true ↔ payload ≠ "" ∧ payload.utf8ByteSize ≤ 99999 := fun _ => fits_iff
  have haccepted : (payloads.filter fun payload => payload ≠ "" ∧ payload.utf8ByteSize ≤ 99999) =
      payloads.filter fits :=
    List.filter_congr fun payload _ => by simp only [← hspec, Bool.decide_eq_true]
  -- the stream is the frames of the accepted payloads
  have hframes : chunks.flatten = (payloads.filter fits).flatMap framed := by
    rw [hcut, writeAll_eq, List.nil_append]
  refine ⟨fun buffer payload => ?_, ?_⟩
  · rw [← hspec]
    exact write_spec buffer payload
  · rw [haccepted]
    exact feed_framed (fun payload hp => List.of_mem_filter hp) hframes

/-- A payload with a number sign and a character of two bytes, one that is refused, and one that
looks like a length, cut inside the character and behind the second length. -/
theorem feed_writeAll_threePieces :
    [[0x33, 0x23, 0xC3], [0xA9, 0x23, 0x31], [0x23, 0x37]].flatten = writeAll [] ["é#", "", "7"] ∧
    ({} : Inbox).feed [[0x33, 0x23, 0xC3], [0xA9, 0x23, 0x31], [0x23, 0x37]] =
      ([.ok "é#", .ok "7"], {}, []) := by
  have hcut : [[0x33, 0x23, 0xC3], [0xA9, 0x23, 0x31], [0x23, 0x37]].flatten =
      writeAll [] ["é#", "", "7"] := by decide +kernel
  exact ⟨hcut, (feed_writeAll ["é#", "", "7"] hcut).2⟩

end Inbox

end CallDispatch.Frame
