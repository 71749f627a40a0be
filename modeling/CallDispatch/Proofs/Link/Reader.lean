import CallDispatch.Link.Reader
import CallDispatch.Proofs.Frame.Responses
import CallDispatch.Proofs.Link.Stream
import CallDispatch.Proofs.Registry.Slots

/-!
# The reader of a connection

What the reader does when it reads once, said once (`Intake.reads_step`): it passes a frame on,
answers a `route` frame, waits for more bytes, or stops for good. It stops where no frame stands
(`Halts`) and behind a `route` frame whose answer does not fit into a frame; the method of that
frame is noted nevertheless.

## Main definitions

* `Frame.asks`, `Frame.answer`, `Frame.answerable`: what a frame wants from the server.
* `Registry.heed`: noting the method for which an application asks.
* `Halts`: bytes at which the reader stops.
* `Intake.Reads`: what reading once can do.
-/

namespace CallDispatch

open Text CallDispatch.Frame

/-! ## Requests for methods -/

namespace Frame

/-- The method for which a frame asks; a `route` frame asks for none that cannot be routed. -/
def asks (frame : Frame) : Option String :=
  (frame.routeVerb.filter Sip.isRoutable).map upper

/-- The answer to a `route` frame. -/
def answer (id : String) (frame : Frame) (verb : String) : Frame :=
  if Sip.isRoutable verb then .response id frame.id true none
  else .response id frame.id false (some "Route request includes unsupported verb")

/-- Whether the answer to the frame fits into a frame, if the frame is answered at all. -/
def answerable (frame : Frame) : Bool :=
  frame.routeVerb.all fun verb => fits (answer (messageId 0) frame verb).payload

variable {frame : Frame} {verb : String}

/-- Nothing but the id of an answer depends on its id. -/
lemma behindId_answer (id : String) (frame : Frame) (verb : String) :
    (answer id frame verb).behindId = (answer "" frame verb).behindId := by
  unfold answer
  by_cases hroutable : Sip.isRoutable verb = true
  · rw [if_pos hroutable, if_pos hroutable]
    exact behindId_response id frame.id true none
  · rw [if_neg hroutable, if_neg hroutable]
    exact behindId_response id frame.id false _

lemma id_answer (id : String) (frame : Frame) (verb : String) : (answer id frame verb).id = id := by
  unfold answer
  by_cases hroutable : Sip.isRoutable verb = true
  · rw [if_pos hroutable]
    rfl
  · rw [if_neg hroutable]
    rfl

/-- Whether an answer fits into a frame does not depend on its id. -/
lemma answerable_eq (hverb : frame.routeVerb = some verb) (n : Nat) :
    frame.answerable = fits (answer (messageId n) frame verb).payload := by
  have hsize : (answer (messageId 0) frame verb).payload.utf8ByteSize =
      (answer (messageId n) frame verb).payload.utf8ByteSize := by
    refine utf8ByteSize_payload_congr ?_ ?_
    · rw [id_answer, id_answer, utf8ByteSize_messageId, utf8ByteSize_messageId]
    · rw [behindId_answer, behindId_answer (messageId n)]
  rw [answerable, hverb, Option.all_some, Bool.eq_iff_iff, fits_payload_iff, fits_payload_iff,
    hsize]

/-- A frame that is passed on needs no answer. -/
lemma answerable_of_none (hverb : frame.routeVerb = none) : frame.answerable = true := by
  rw [answerable, hverb, Option.all_none]

lemma asks_of_none (hverb : frame.routeVerb = none) : frame.asks = none := by
  rw [asks, hverb]
  rfl

end Frame

namespace Registry

variable {registry : Registry} {id : EntryId} {slot : Slot}

/-- The slot of a connection that has just been registered. -/
lemma find?_insertSlot (slot : Slot) {slots : List Slot}
    (hnew : ∀ other ∈ slots, other.id ≠ slot.id) :
    (insertSlot slot slots).find? (·.id == slot.id) = some slot := by
  induction slots with
  | nil => simp [insertSlot]
  | cons other rest ih =>
    have hother : other.id ≠ slot.id := hnew other List.mem_cons_self
    have hrest := ih fun s hs => hnew s (List.mem_cons_of_mem _ hs)
    unfold insertSlot
    by_cases hlt : slot.id < other.id
    · rw [if_pos hlt]
      exact List.find?_cons_of_pos (beq_self_eq_true slot.id)
    · rw [if_neg hlt, List.find?_cons_of_neg (by simpa using hother)]
      exact hrest

/-- Notes the method that an application asks for, if it can be routed. -/
def heed (registry : Registry) (id : EntryId) (verb : String) : Registry :=
  if Sip.isRoutable verb then (registry.subscribe id verb).1 else registry

/-- Only the methods of the connection change. -/
lemma find?_heed {frame : Frame} {verb : String} (hfind : registry.find? id = some slot)
    (hverb : frame.routeVerb = some verb) :
    (registry.heed id verb).find? id =
      some { slot with methods := frame.asks.toList.foldl TextSet.insert slot.methods } := by
  unfold heed Frame.asks
  rw [hverb]
  by_cases hroutable : Sip.isRoutable verb = true
  · rw [if_pos hroutable, Option.filter_some_pos hroutable]
    simp only [subscribe, hfind]
    refine (find?_update ?_).trans (congrArg (Option.map _) hfind)
    exact fun _ => rfl
  · rw [if_neg hroutable, Option.filter_some_neg (Bool.not_eq_true _ ▸ hroutable)]
    exact hfind

end Registry

/-! ## One step -/

/-- Bytes at which the reader stops: no frame stands there, or the stream ends. -/
inductive Halts (ended : Bool) (left : Bytes) : Prop
  | malformed {text : String} {rest : Bytes} (hstarts : Starts left (.text text rest))
      (herror : ∀ frame, Frame.parse text ≠ .ok frame)
  | noText {rest : Bytes} (hstarts : Starts left (.noText rest))
  | noLength (hstarts : Starts left .noLength)
  | finished (hstarts : Starts left .unfinished) (hended : ended = true)

/-- At the bytes at which the reader stops, the next text is no frame. -/
lemma Halts.parse_ne {ended : Bool} {left : Bytes} {text : String} {texts : List String}
    {ending : Ending} (h : Halts ended left) (hreading : Reading left (text :: texts) ending)
    (frame : Frame) : Frame.parse text ≠ .ok frame := by
  obtain ⟨rest, hstarts⟩ : ∃ rest, Starts left (.text text rest) := by
    cases hreading with
    | text hstarts _ => exact ⟨_, hstarts⟩
  cases h with
  | malformed hleft herror =>
    cases hstarts.unique hleft
    exact herror frame
  | noText hleft => exact nomatch hstarts.unique hleft
  | noLength hleft => exact nomatch hstarts.unique hleft
  | finished hleft hended => exact nomatch hstarts.unique hleft

/-- Where no text follows, the stream ends, or what follows is an error. -/
lemma Halts.ends {ended : Bool} {left : Bytes} {ending : Ending} (h : Halts ended left)
    (hreading : Reading left [] ending) : ended = true ∨ ending.isError = true := by
  cases h with
  | malformed hleft herror =>
    cases hreading with
    | noText hstarts | noLength hstarts | unfinished hstarts => exact nomatch hstarts.unique hleft
  | noText hleft =>
    cases hreading with
    | noText hstarts => exact .inr rfl
    | noLength hstarts | unfinished hstarts => exact nomatch hstarts.unique hleft
  | noLength hleft =>
    cases hreading with
    | noLength hstarts => exact .inr rfl
    | noText hstarts | unfinished hstarts => exact nomatch hstarts.unique hleft
  | finished hleft hended => exact .inl hended

/-- The reader stops at the same bytes when more have arrived. -/
lemma Halts.append {left : Bytes} (h : Halts false left) (more : Bytes) :
    Halts false (left ++ more) := by
  cases h with
  | malformed hstarts herror => exact .malformed (hstarts.append (by simp) more) herror
  | noText hstarts => exact .noText (hstarts.append (by simp) more)
  | noLength hstarts => exact .noLength (hstarts.append (by simp) more)
  | finished _ hended => exact nomatch hended

/-- The reader stops at the same bytes when the stream has ended behind them. -/
lemma Halts.finish {ended : Bool} {left : Bytes} (h : Halts ended left) : Halts true left := by
  cases h with
  | malformed hstarts herror => exact .malformed hstarts herror
  | noText hstarts => exact .noText hstarts
  | noLength hstarts => exact .noLength hstarts
  | finished hstarts _ => exact .finished hstarts rfl

namespace Intake

/-- What reading once does, where the inbox stands for the bytes `left`. -/
inductive Reads (entry : EntryId) (intake : Intake) (left : Bytes) : Intake × Verdict → Prop
  | forward {text : String} {rest : Bytes} {frame : Frame}
      (hstarts : Starts left (.text text rest)) (hparse : Frame.parse text = .ok frame)
      (hverb : frame.routeVerb = none) :
    Reads entry intake left
      ({ intake with
          wire := { intake.wire with inbox := ⟨rest, none⟩ }
          mailbox := intake.mailbox.post ⟨entry, frame⟩ }, .goOn)
  | answer {text : String} {rest : Bytes} {frame : Frame} {verb : String}
      (hstarts : Starts left (.text text rest)) (hparse : Frame.parse text = .ok frame)
      (hverb : frame.routeVerb = some verb) (hfits : frame.answerable = true) :
    Reads entry intake left
      ({ intake with
          registry := intake.registry.heed entry verb
          wire := { intake.wire with
            inbox := ⟨rest, none⟩
            written := intake.wire.written ++
              framed (frame.answer (messageId intake.nextMessage) verb).payload }
          nextMessage := intake.nextMessage + 1 }, .goOn)
  /-- The answer does not fit into a frame. -/
  | giveUp {text : String} {rest : Bytes} {frame : Frame} {verb : String}
      (hstarts : Starts left (.text text rest)) (hparse : Frame.parse text = .ok frame)
      (hverb : frame.routeVerb = some verb) (hlarge : frame.answerable = false) :
    Reads entry intake left
      ({ intake with
          registry := intake.registry.heed entry verb
          wire := { intake.wire with inbox := ⟨rest, none⟩ }
          nextMessage := intake.nextMessage + 1 }, .stop)
  | wait {inbox : Inbox} (hopen : intake.wire.ended = false) (hwaits : inbox.Waits left) :
    Reads entry intake left ({ intake with wire := { intake.wire with inbox } }, .wait)
  | halt (inbox : Inbox) (h : Halts intake.wire.ended left) :
    Reads entry intake left ({ intake with wire := { intake.wire with inbox } }, .stop)

variable {intake : Intake} {entry : EntryId} {slot : Slot} {left : Bytes}

/-- A `route` frame of a registered connection is heeded and answered. -/
lemma subscribe_eq (intake : Intake) (hfind : intake.registry.find? entry = some slot)
    (hwritable : intake.wire.Writable) (frame : Frame) (verb : String) :
    intake.subscribe entry frame verb =
      let answer := frame.answer (messageId intake.nextMessage) verb
      ({ intake with
          registry := intake.registry.heed entry verb
          wire := { intake.wire with written := (write intake.wire.written answer.payload).1 }
          nextMessage := intake.nextMessage + 1 },
        (write intake.wire.written answer.payload).2) := by
  unfold subscribe Frame.answer Registry.heed
  by_cases hroutable : Sip.isRoutable verb = true
  · simp only [if_pos hroutable, Registry.subscribe, hfind, Wire.send_eq hwritable]
  · simp only [if_neg hroutable, Wire.send_eq hwritable]

/-- Taking a frame of a registered connection. -/
lemma reads_takeFrame {text : String} {rest : Bytes} {frame : Frame}
    (hstarts : Starts left (.text text rest)) (hparse : Frame.parse text = .ok frame)
    (hfind : intake.registry.find? entry = some slot) (hwritable : intake.wire.Writable) :
    Reads entry intake left
      ({ intake with wire := { intake.wire with inbox := ⟨rest, none⟩ } }.takeFrame entry frame) := by
  unfold takeFrame
  cases hverb : frame.routeVerb with
  | none => exact .forward hstarts hparse hverb
  | some verb =>
    have hstill : ({ intake.wire with inbox := ⟨rest, none⟩ } : Wire).Writable :=
      ⟨hwritable.gone, hwritable.shut⟩
    have hanswerable := Frame.answerable_eq hverb intake.nextMessage
    have hsubscribe :=
      subscribe_eq { intake with wire := { intake.wire with inbox := ⟨rest, none⟩ } } hfind hstill
        frame verb
    simp only [hsubscribe]
    cases hfits : fits (frame.answer (messageId intake.nextMessage) verb).payload with
    | true =>
      simp only [write_of_fits hfits]
      exact .answer hstarts hparse hverb (hanswerable.trans hfits)
    | false =>
      obtain ⟨e, hwrite⟩ := write_of_not_fits hfits intake.wire.written
      simp only [hwrite]
      exact .giveUp hstarts hparse hverb (hanswerable.trans hfits)

/-- What reading once does for a registered connection to which the server can write. -/
lemma reads_step (hfind : intake.registry.find? entry = some slot)
    (hwritable : intake.wire.Writable) (hholds : intake.wire.inbox.Holds left) :
    Reads entry intake left (intake.step entry) := by
  obtain ⟨token, hstarts⟩ := exists_starts left
  unfold step
  cases token with
  | text text rest =>
    rw [Wire.read_text hstarts hholds]
    cases hparse : Frame.parse text with
    | ok frame =>
      simp only [hparse]
      exact reads_takeFrame hstarts hparse hfind hwritable
    | error e =>
      simp only [hparse]
      exact .halt _ (.malformed hstarts fun frame hframe => nomatch hparse.symm.trans hframe)
  | noText rest =>
    obtain ⟨inbox, e, hread⟩ := Wire.read_broken hstarts (.inr ⟨rest, rfl⟩) hholds
    rw [hread]
    exact .halt inbox (.noText hstarts)
  | noLength =>
    obtain ⟨inbox, e, hread⟩ := Wire.read_broken hstarts (.inl rfl) hholds
    rw [hread]
    exact .halt inbox (.noLength hstarts)
  | unfinished =>
    obtain ⟨inbox, hwaits, hread⟩ := Wire.read_unfinished hstarts hholds
    rw [hread]
    -- at the end of the stream an unfinished frame is an error, if there is anything of it
    by_cases hended : intake.wire.ended = true
    · have hhalts : Halts intake.wire.ended left := .finished hstarts hended
      rcases Wire.pause_true inbox with hpause | ⟨e, hpause⟩
      · rw [← hended] at hpause
        rw [hpause]
        exact .halt inbox hhalts
      · rw [← hended] at hpause
        rw [hpause]
        exact .halt inbox hhalts
    · have hopen : intake.wire.ended = false := Bool.not_eq_true _ ▸ hended
      have hpause : Wire.pause intake.wire.ended inbox = .nothing := by
        rw [hopen]
        rfl
      rw [hpause]
      exact .wait hopen hwaits

end Intake

end CallDispatch
