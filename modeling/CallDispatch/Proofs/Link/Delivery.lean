import CallDispatch.Proofs.Frame.Responses
import CallDispatch.Proofs.Link.Stream
import CallDispatch.Switchboard.Basic

/-!
# Delivering a request

What an application reads is the request that was handed to its link. The frame is written whole or
not at all (`FramedLink.deliver_of_large`, `FramedLink.deliver_of_fits`), and its bytes, however
they are cut, carry exactly this frame (`Frame.carries_framed`), since none of its fields has a bar
or a line break in it, while the message as it came is the body and may hold anything.

## Main definitions

* `Frame.Carries`: the bytes of one frame and nothing else.
-/

namespace CallDispatch

open Text CallDispatch.Frame

/-! ## The bytes of a frame -/

namespace Frame

/-- However the bytes are cut, decoding gives one payload and nothing is left, and the payload is
read as the frame. -/
def Carries (bytes : Bytes) (frame : Frame) : Prop :=
  ∀ chunks : List Bytes, chunks.flatten = bytes →
    ∃ text, ({} : Inbox).feed chunks = ([.ok text], {}, []) ∧ Frame.parse text = .ok frame

/-- A frame that fits is carried by its bytes. -/
lemma carries_framed {frame : Frame} (hfits : fits frame.payload = true) (hid : frame.id ≠ "")
    (hkind : frame.kind ≠ "")
    (hfields : ∀ field ∈ frame.id :: frame.kind :: frame.args, IsField field) :
    Carries (framed frame.payload) frame := by
  intro chunks hcut
  have hone : chunks.flatten = [frame.payload].flatMap framed := by
    rw [hcut, List.flatMap_singleton]
  have hall : ∀ payload ∈ [frame.payload], fits payload = true := by simpa using hfits
  exact ⟨frame.payload, Inbox.feed_framed hall hone, parse_payload hid hkind hfields⟩

variable {id : String} {request : Request}

/-- The fields of the frame that hands over a request stay together. -/
lemma isField_sip (hid : IsUuid id) (htransaction : IsField request.transactionId)
    (hprotocol : IsField request.protocol) :
    ∀ field ∈ id :: "sip" :: (Frame.sip id request).args, IsField field := by
  have hkind : IsField "sip" := by decide
  have hsource : IsField (request.source.elim "" SocketAddress.text) := by
    cases request.source with
    | none => decide
    | some address => exact address.isField_text
  intro field hfield
  simp only [Frame.sip, List.mem_cons, List.not_mem_nil, or_false] at hfield
  rcases hfield with rfl | rfl | rfl | rfl | rfl
  · exact hid.isField
  · exact hkind
  · exact htransaction
  · exact hsource
  · exact hprotocol

end Frame

/-! ## The main result -/

namespace FramedLink

variable {link : FramedLink} {id : String} {request : Request}

/-- What is too large leaves the link as it is. -/
lemma deliver_of_large (halive : link.alive = true)
    (hlarge : maxLength < (Frame.sip id request).payload.utf8ByteSize) :
    link.deliver id request =
      (link, .error (.tooLarge (Frame.sip id request).payload.utf8ByteSize)) := by
  unfold deliver
  rw [if_neg (not_not_intro halive)]
  exact if_pos hlarge

/-- What fits is written behind what has been written. -/
lemma deliver_of_fits (halive : link.alive = true) (hwire : link.wire.Writable)
    (hfits : fits (Frame.sip id request).payload = true) :
    link.deliver id request =
      ({ link with wire := { link.wire with
          written := link.wire.written ++ framed (Frame.sip id request).payload } },
        .ok ()) := by
  have hsmall : ¬maxLength < (Frame.sip id request).payload.utf8ByteSize :=
    Nat.not_lt.2 (fits_payload_iff.1 hfits)
  unfold deliver
  rw [if_neg (not_not_intro halive), if_neg hsmall, Wire.send_eq hwire, write_of_fits hfits]

/-- What fits and cannot be written shows that the peer is gone. -/
lemma deliver_of_broken (halive : link.alive = true) (hwire : ¬link.wire.Writable)
    (hfits : fits (Frame.sip id request).payload = true) :
    link.deliver id request = ({ link with alive := false }, .error (.io "broken pipe")) := by
  have hsmall : ¬maxLength < (Frame.sip id request).payload.utf8ByteSize :=
    Nat.not_lt.2 (fits_payload_iff.1 hfits)
  unfold deliver
  rw [if_neg (not_not_intro halive), if_neg hsmall, Wire.send_of_not_writable hwire hfits]
  simp [LinkError.isPeerFailure]

/-- Nothing is handed over on a dead link. -/
lemma deliver_of_dead (hdead : link.alive = false) :
    link.deliver id request = (link, .error .closed) := by
  unfold deliver
  rw [if_pos (by simp [hdead])]

/-- **Delivery.** A live link on which the server can write refuses a request as too large, and
stays as it is, exactly if the payload is longer than 99999 bytes. Otherwise it writes the bytes of
one frame: however they are cut, the application reads the id and the kind of the frame, the
transaction, the text of the source, empty if there is none, and the protocol, and the message as it
came. -/
theorem deliver_carries (hid : IsUuid id) (htransaction : IsField request.transactionId)
    (hprotocol : IsField request.protocol) (halive : link.alive = true)
    (hwire : link.wire.Writable) :
    (link.deliver id request =
        (link, .error (.tooLarge (Frame.sip id request).payload.utf8ByteSize)) ↔
      99999 < (Frame.sip id request).payload.utf8ByteSize) ∧
    ((Frame.sip id request).payload.utf8ByteSize ≤ 99999 →
      ∃ bytes,
        link.deliver id request =
          ({ link with wire := { link.wire with written := link.wire.written ++ bytes } }, .ok ()) ∧
        Carries bytes
          ⟨id, "sip",
            [request.transactionId, request.source.elim "" SocketAddress.text, request.protocol],
            some request.raw⟩) := by
  have hwritten : (Frame.sip id request).payload.utf8ByteSize ≤ 99999 →
      link.deliver id request =
        ({ link with wire := { link.wire with
            written := link.wire.written ++ framed (Frame.sip id request).payload } },
          .ok ()) :=
    fun hsmall => deliver_of_fits halive hwire (fits_payload_iff.2 hsmall)
  constructor
  · constructor
    · intro hrefused
      by_contra hsmall
      rw [hwritten (Nat.le_of_not_lt hsmall)] at hrefused
      exact nomatch congrArg Prod.snd hrefused
    · exact deliver_of_large halive
  · intro hsmall
    have hfields := isField_sip hid htransaction hprotocol
    have hkind : (Frame.sip id request).kind ≠ "" := by
      show "sip" ≠ ""
      decide
    have hcarries : Carries (framed (Frame.sip id request).payload) (Frame.sip id request) :=
      carries_framed (fits_payload_iff.2 hsmall) hid.ne_empty hkind hfields
    exact ⟨framed (Frame.sip id request).payload, hwritten hsmall, hcarries⟩

/-- A message with bars, number signs and line breaks in it, behind what was written before. -/
theorem deliver_carries_marks :
    IsUuid (messageId 7) ∧ IsField "tx-1" ∧ IsField "tcp" ∧
    ∃ bytes,
      FramedLink.deliver
          { entry := 1, peer := .v4 ⟨127, 0, 0, 1⟩ 4000, wire := { written := [0x31, 0x23, 0x78] } }
          (messageId 7)
          { transactionId := "tx-1", method := "INVITE", uri := "sip:a@b", protocol := "tcp",
            source := some (.v4 ⟨10, 0, 0, 9⟩ 5060), raw := "\r\nA|B\r\n5#hello\n|" } =
        ({ entry := 1, peer := .v4 ⟨127, 0, 0, 1⟩ 4000,
            wire := { written := [0x31, 0x23, 0x78] ++ bytes } }, .ok ()) ∧
      Carries bytes
        ⟨"00000000-0000-4000-8000-000000000007", "sip", ["tx-1", "10.0.0.9:5060", "tcp"],
          some "\r\nA|B\r\n5#hello\n|"⟩ := by
  have htransaction : IsField "tx-1" := by decide
  have hprotocol : IsField "tcp" := by decide
  refine ⟨isUuid_messageId 7, htransaction, hprotocol, ?_⟩
  exact (deliver_carries (isUuid_messageId 7) htransaction hprotocol rfl ⟨rfl, rfl⟩).2
    (by decide +kernel)

end FramedLink

end CallDispatch
