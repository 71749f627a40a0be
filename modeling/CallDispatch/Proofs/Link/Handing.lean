import CallDispatch.Proofs.Link.Delivery

/-!
# Handing a request to a link

A link that leaves the registry alone is called quiet. What such a link makes of a request is said
here without the program (`Link.Takes`): on a live stream one frame with the request is written
behind what has been written, and every other answer has its reason. Handing a request over on the
switchboard is nothing else (`Switchboard.exists_deliver_eq`): the link changes in that way, and no
other link does.

## Main definitions

* `Link.isQuiet`: a link that leaves the registry alone while it takes a request.
* `Link.Takes`: what a quiet link makes of a request.
* `Switchboard.Hands`: what becomes of a request at the link with a number.
-/

namespace CallDispatch

open Text CallDispatch.Frame

/-! ## Links -/

/-- The id of a frame does not matter for how a stream answers. -/
lemma FramedLink.answer_congr (link : FramedLink) (n m : Nat) (request : Request) :
    (link.deliver (messageId n) request).2 = (link.deliver (messageId m) request).2 := by
  have hsize : (Frame.sip (messageId n) request).payload.utf8ByteSize =
      (Frame.sip (messageId m) request).payload.utf8ByteSize :=
    utf8ByteSize_payload_congr
      ((utf8ByteSize_messageId n).trans (utf8ByteSize_messageId m).symm) rfl
  cases halive : link.alive with
  | false => rw [deliver_of_dead halive, deliver_of_dead halive]
  | true =>
    by_cases hfits : fits (Frame.sip (messageId n) request).payload = true
    · have hfits' : fits (Frame.sip (messageId m) request).payload = true := by
        rwa [fits_payload_iff, ← hsize, ← fits_payload_iff]
      by_cases hwire : link.wire.Writable
      · rw [deliver_of_fits halive hwire hfits, deliver_of_fits halive hwire hfits']
      · rw [deliver_of_broken halive hwire hfits, deliver_of_broken halive hwire hfits']
    · have hlarge := large_of_not_fits hfits
      have hlarge' : maxLength < (Frame.sip (messageId m) request).payload.utf8ByteSize := by
        rwa [← hsize]
      rw [deliver_of_large halive hlarge, deliver_of_large halive hlarge', hsize]

namespace Link

variable {link taken : Link} {frameId : String} {request : Request}
  {answer : Option (Except LinkError Unit)}

/-- Whether a link leaves the registry alone while it takes a request. -/
def isQuiet : Link → Bool
  | .scripted link =>
    match link.script with
    | .removeFirst _ | .drainFirst _ => false
    | .accept | .fail _ | .findTooLarge | .hang => true
  | .framed _ => true

/-- Hands a request to a quiet link, in a frame with the given id. -/
def take (frameId : String) (request : Request) : Link → Link × Option (Except LinkError Unit)
  | framed link => (framed (link.deliver frameId request).1, some (link.deliver frameId request).2)
  | scripted link =>
    match link.script with
    | .accept =>
      (scripted { link with accepted := link.accepted ++ [request.transactionId] }, some (.ok ()))
    | .fail error => (scripted link, some (.error error))
    | .findTooLarge => (scripted link, some (.error (.tooLarge request.raw.utf8ByteSize)))
    | .hang | .removeFirst _ | .drainFirst _ => (scripted link, none)

/-- How many messages a link needs for a request. -/
def messages : Link → Nat
  | framed _ => 1
  | scripted _ => 0

/-- The id of a frame does not matter for how a link answers. -/
lemma take_snd_congr (link : Link) (n m : Nat) (request : Request) :
    (link.take (messageId n) request).2 = (link.take (messageId m) request).2 := by
  cases link with
  | framed link => exact congrArg some (link.answer_congr n m request)
  | scripted link => rfl

/-- What a quiet link is when it has been handed a request in a frame with the given id, and how it
answers; no answer means that it does not answer yet. -/
inductive Takes (frameId : String) (request : Request) :
    Link → Link → Option (Except LinkError Unit) → Prop
  /-- The frame with the request is written behind what has been written. -/
  | written {link : FramedLink} (halive : link.alive = true) (hwire : link.wire.Writable)
      (hsmall : (Frame.sip frameId request).payload.utf8ByteSize ≤ 99999) :
      Takes frameId request (framed link)
        (framed { link with wire := { link.wire with
          written := link.wire.written ++
            Frame.framed (Frame.sip frameId request).payload } })
        (some (.ok ()))
  | tooLarge {link : FramedLink} (halive : link.alive = true)
      (hlarge : 99999 < (Frame.sip frameId request).payload.utf8ByteSize) :
      Takes frameId request (framed link) (framed link)
        (some (.error (.tooLarge (Frame.sip frameId request).payload.utf8ByteSize)))
  /-- The frame cannot be written: from now on the peer counts as gone. -/
  | broken {link : FramedLink} (halive : link.alive = true) (hwire : ¬link.wire.Writable)
      (hsmall : (Frame.sip frameId request).payload.utf8ByteSize ≤ 99999) :
      Takes frameId request (framed link) (framed { link with alive := false })
        (some (.error (.io "broken pipe")))
  | dead {link : FramedLink} (hdead : link.alive = false) :
      Takes frameId request (framed link) (framed link) (some (.error .closed))
  | accepts {link : ScriptedLink} (hscript : link.script = .accept) :
      Takes frameId request (scripted link)
        (scripted { link with accepted := link.accepted ++ [request.transactionId] })
        (some (.ok ()))
  | fails {link : ScriptedLink} {error : LinkError} (hscript : link.script = .fail error) :
      Takes frameId request (scripted link) (scripted link) (some (.error error))
  | findsTooLarge {link : ScriptedLink} (hscript : link.script = .findTooLarge) :
      Takes frameId request (scripted link) (scripted link)
        (some (.error (.tooLarge request.raw.utf8ByteSize)))
  | hangs {link : ScriptedLink} (hscript : link.script = .hang) :
      Takes frameId request (scripted link) (scripted link) none

/-- A link that has taken a request is as quiet as it was. -/
lemma Takes.isQuiet_eq (h : link.Takes frameId request taken answer) :
    taken.isQuiet = link.isQuiet := by
  cases h <;> rfl

/-- What a framed link makes of a request. -/
lemma takes_deliver (link : FramedLink) (frameId : String) (request : Request) :
    (framed link).Takes frameId request (framed (link.deliver frameId request).1)
      (some (link.deliver frameId request).2) := by
  cases halive : link.alive with
  | false =>
    rw [FramedLink.deliver_of_dead halive]
    exact .dead halive
  | true =>
    by_cases hfits : fits (Frame.sip frameId request).payload = true
    · have hsmall := fits_payload_iff.1 hfits
      by_cases hwire : link.wire.Writable
      · rw [FramedLink.deliver_of_fits halive hwire hfits]
        exact .written halive hwire hsmall
      · rw [FramedLink.deliver_of_broken halive hwire hfits]
        exact .broken halive hwire hsmall
    · have hlarge := large_of_not_fits hfits
      rw [FramedLink.deliver_of_large halive hlarge]
      exact .tooLarge halive hlarge

/-- What a quiet link makes of a request. -/
lemma takes_take (hquiet : link.isQuiet = true) (frameId : String) (request : Request) :
    link.Takes frameId request (link.take frameId request).1 (link.take frameId request).2 := by
  cases link with
  | framed link => exact takes_deliver link frameId request
  | scripted link =>
    obtain ⟨entry, script, alive, accepted⟩ := link
    cases script with
    | accept => exact .accepts rfl
    | fail error => exact .fails rfl
    | findTooLarge => exact .findsTooLarge rfl
    | hang => exact .hangs rfl
    | removeFirst accepts | drainFirst accepts => cases hquiet

end Link

/-! ## Links on the switchboard -/

namespace Switchboard

variable {board board' : Switchboard} {id : LinkId} {link : Link} {request : Request}

/-- What the link with a number is when the request has been handed to it, and how it answers. Where
there is no such link, nobody takes the request. -/
inductive Hands (board : Switchboard) (id : LinkId) (request : Request) :
    Option Link → Option (Except LinkError Unit) → Prop
  | nobody (hnone : board.links[id]? = none) : Hands board id request none (some (.error .closed))
  | taken {link taken : Link} {answer : Option (Except LinkError Unit)}
      (hlink : board.links[id]? = some link)
      (htakes : link.Takes (messageId board.nextMessage) request taken answer) :
      Hands board id request (some taken) answer

lemma deliver_of_none (hnone : board.links[id]? = none) (now : Nat) (request : Request) :
    board.deliver now id request = (board, some (.error .closed)) := by
  rw [deliver, hnone]

/-- Handing a request over on the switchboard is handing it to one link. -/
lemma deliver_of_some (hlink : board.links[id]? = some link) (hquiet : link.isQuiet = true)
    (now : Nat) (request : Request) :
    board.deliver now id request =
      ({ board with
          links := board.links.set id (link.take (messageId board.nextMessage) request).1
          nextMessage := board.nextMessage + link.messages },
        (link.take (messageId board.nextMessage) request).2) := by
  rw [deliver, hlink]
  cases link with
  | framed link => rfl
  | scripted link =>
    have hkept : ({ board with links := board.links.set id (.scripted link) } : Switchboard) =
        board := by
      obtain ⟨hlt, hget⟩ := List.getElem?_eq_some_iff.1 hlink
      rw [← hget, List.set_getElem_self hlt]
    obtain ⟨entry, script, alive, accepted⟩ := link
    cases script with
    | accept => rfl
    | fail error | findTooLarge | hang => exact congrArg (·, _) hkept.symm
    | removeFirst accepts | drainFirst accepts => cases hquiet

section Quiet

variable (hquiet : ∀ link, board.links[id]? = some link → link.isQuiet = true)

include hquiet

/-- Handing a request over changes one link, and the number of the next message at most. -/
lemma exists_deliver_eq (now : Nat) (request : Request) :
    ∃ links nextMessage answer,
      board.deliver now id request = ({ board with links, nextMessage }, answer) ∧
      board.Hands id request links[id]? answer ∧
      ∀ other, other ≠ id → links[other]? = board.links[other]? := by
  cases hlink : board.links[id]? with
  | none =>
    refine ⟨_, _, _, deliver_of_none hlink now request, ?_, fun _ _ => rfl⟩
    rw [hlink]
    exact .nobody hlink
  | some link =>
    have hthis := hquiet link hlink
    refine ⟨_, _, _, deliver_of_some hlink hthis now request, ?_, fun other hne => ?_⟩
    · rw [List.getElem?_set_self (List.getElem?_eq_some_iff.1 hlink).1]
      exact .taken hlink (Link.takes_take hthis _ request)
    · exact List.getElem?_set_ne (Ne.symm hne)

/-- A quiet link takes a request whatever the state of the dispatcher is, and leaves it alone. -/
lemma deliver_of_quiet (now : Nat) (request : Request) (dispatcher : Dispatcher) :
    deliver { board with dispatcher } now id request =
      ({ (board.deliver now id request).1 with dispatcher },
        (board.deliver now id request).2) := by
  cases hlink : board.links[id]? with
  | none =>
    rw [deliver_of_none hlink, @deliver_of_none { board with dispatcher } id hlink]
  | some link =>
    have hthis := hquiet link hlink
    rw [deliver_of_some hlink hthis,
      @deliver_of_some { board with dispatcher } id link hlink hthis]

/-- How a quiet link answers depends on nothing but the link. -/
lemma deliver_snd_congr (hsame : board'.links[id]? = board.links[id]?) (now : Nat)
    (request : Request) :
    (board'.deliver now id request).2 = (board.deliver now id request).2 := by
  cases hlink : board.links[id]? with
  | none => rw [deliver_of_none hlink, deliver_of_none (hsame.trans hlink)]
  | some link =>
    have hthis := hquiet link hlink
    rw [deliver_of_some hlink hthis, deliver_of_some (hsame.trans hlink) hthis]
    exact link.take_snd_congr _ _ request

end Quiet

end Switchboard

end CallDispatch
