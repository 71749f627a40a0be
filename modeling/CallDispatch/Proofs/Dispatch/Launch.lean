import CallDispatch.Proofs.Dispatch.Walk
import CallDispatch.Proofs.Link.Handing
import CallDispatch.Proofs.Server.Refusals

/-!
# Dispatches on the switchboard

There are two ways to run a whole dispatch. `Dispatcher.dispatch` takes the answers of the links as
given. `Switchboard.launch` asks the links one after another, and what a link answers depends on
what has been asked before: a stream on which a frame could not be written is dead from then on.
Where links are quiet and answer, the two are the same (`Switchboard.launch_eq_dispatch`): a
dispatch goes on only behind a dead peer, a peer that was found dead stays dead, and why it is dead
does not matter to the dispatch.

## Main definitions

* `Alike`: answers behind which a dispatch goes on in the same way.
* `Switchboard.Answering`: a switchboard on which links answer a request as expected.
-/

namespace CallDispatch

open Text

/-! ## Answers -/

/-- Two answers of a link are equal, or both say that its peer is dead. -/
def Alike (answer expected : Except LinkError Unit) : Prop :=
  answer = expected ∨ peerFailed answer = true ∧ peerFailed expected = true

/-- An answer that is like that of a dead peer is that of a dead peer. -/
lemma Alike.peerFailed_eq {answer expected : Except LinkError Unit} (h : Alike answer expected) :
    peerFailed answer = peerFailed expected := by
  rcases h with rfl | ⟨hfailed, hexpected⟩
  · rfl
  · rw [hfailed, hexpected]

namespace Dispatcher

variable {dispatcher after : Dispatcher} {now : Nat} {attempt next : Attempt}
  {answer expected : Except LinkError Unit}

/-- Why a peer is dead does not matter to a dispatch. -/
lemma settle_congr (h : Alike answer expected) :
    dispatcher.settle now attempt answer = dispatcher.settle now attempt expected := by
  rcases h with rfl | ⟨hfailed, hexpected⟩
  · rfl
  · rw [settle_of_peerFailed hfailed, settle_of_peerFailed hexpected]

/-- A dispatch goes on only behind a dead peer. -/
lemma peerFailed_of_settle
    (h : dispatcher.settle now attempt answer = (after, .waiting next)) :
    peerFailed answer = true := by
  by_contra hlives
  rcases peerFailed_eq_false_iff.1 (Bool.eq_false_iff.2 hlives) with rfl | ⟨length, rfl⟩
  · cases congrArg Prod.snd h
  · cases congrArg Prod.snd h

end Dispatcher

/-! ## Links -/

/-- A link that found its peer dead finds it dead again. -/
lemma Link.Takes.again {link taken taken' : Link} {frameId frameId' : String} {request : Request}
    {answer : Except LinkError Unit} {answer' : Option (Except LinkError Unit)}
    (h : link.Takes frameId request taken (some answer)) (hfailed : peerFailed answer = true)
    (h' : taken.Takes frameId' request taken' answer') :
    ∃ again, answer' = some again ∧ peerFailed again = true := by
  cases h with
  | written | accepts => cases hfailed
  | tooLarge | findsTooLarge => cases hfailed
  | broken =>
    cases h' with
    | dead => exact ⟨_, rfl, rfl⟩
    | written halive | tooLarge halive | broken halive => cases halive
  | dead hdead =>
    cases h' with
    | dead => exact ⟨_, rfl, rfl⟩
    | written halive | tooLarge halive | broken halive => cases hdead.symm.trans halive
  | fails hscript =>
    cases h' with
    | fails hscript' =>
      cases hscript.symm.trans hscript'
      exact ⟨_, rfl, hfailed⟩
    | accepts hscript' | findsTooLarge hscript' | hangs hscript' =>
      cases hscript.symm.trans hscript'

namespace Switchboard

variable {board : Switchboard} {now : Nat} {request : Request} {outcome : Outcome}
  {answers : Handle → Except LinkError Unit}

/-- Where nobody took a request because the peer was dead, nobody takes it later. -/
lemma Hands.again {board board' : Switchboard} {id : LinkId} {left left' : Option Link}
    {answer : Except LinkError Unit} {answer' : Option (Except LinkError Unit)}
    (h : board.Hands id request left (some answer)) (hfailed : peerFailed answer = true)
    (hleft : board'.links[id]? = left) (h' : board'.Hands id request left' answer') :
    ∃ again, answer' = some again ∧ peerFailed again = true := by
  cases h with
  | nobody =>
    cases h' with
    | nobody => exact ⟨_, rfl, rfl⟩
    | taken hlink' => cases hleft.symm.trans hlink'
  | taken hlink htakes =>
    cases h' with
    | nobody hnone' => cases hleft.symm.trans hnone'
    | taken hlink' htakes' =>
      cases hleft.symm.trans hlink'
      exact htakes.again hfailed htakes'

/-- All links are quiet and answer the request, as expected up to the reason why a peer is dead. -/
structure Answering (board : Switchboard) (now : Nat) (request : Request)
    (answers : Handle → Except LinkError Unit) : Prop where
  quiet : ∀ (id : LinkId) (link : Link), board.links[id]? = some link → link.isQuiet = true
  alike : ∀ handle : Handle, ∃ answer,
    (board.deliver now handle.link request).2 = some answer ∧ Alike answer (answers handle)

/-- Links go on answering as expected behind one that found its peer dead. -/
lemma Answering.deliver (h : board.Answering now request answers) {id : LinkId}
    {links : List Link} {nextMessage : Nat} {answer : Except LinkError Unit}
    (hdeliver : board.deliver now id request = ({ board with links, nextMessage }, some answer))
    (hhands : board.Hands id request links[id]? (some answer))
    (hothers : ∀ other, other ≠ id → links[other]? = board.links[other]?)
    (hfailed : peerFailed answer = true) (dispatcher : Dispatcher) :
    Answering { board with links, nextMessage, dispatcher } now request answers := by
  have hquiet : ∀ (other : LinkId) (link : Link), links[other]? = some link →
      link.isQuiet = true := by
    intro other link hlink
    by_cases hother : other = id
    · subst hother
      rw [hlink] at hhands
      cases hhands with
      | taken hbefore htakes => rw [htakes.isQuiet_eq, h.quiet _ _ hbefore]
    · exact h.quiet other link (hothers other hother ▸ hlink)
  refine ⟨hquiet, fun handle => ?_⟩
  obtain ⟨expected, hexpected, halike⟩ := h.alike handle
  by_cases hasked : handle.link = id
  · -- the link that was asked: its peer is dead, and so it is expected to be
    subst hasked
    obtain ⟨links', nextMessage', answer', hagain, hhands', -⟩ :=
      @exists_deliver_eq { board with links, nextMessage, dispatcher } handle.link
        (hquiet handle.link) now request
    obtain ⟨again, rfl, hdead⟩ := hhands.again hfailed rfl hhands'
    rw [hdeliver] at hexpected
    cases hexpected
    exact ⟨again, by rw [hagain], .inr ⟨hdead, halike.peerFailed_eq ▸ hfailed⟩⟩
  · refine ⟨expected, ?_, halike⟩
    rw [← hexpected]
    exact deliver_snd_congr (h.quiet handle.link) (hothers handle.link hasked) now request

/-- Asking the links one after another is taking their answers as given. -/
lemma pursue_eq (tries : Nat) {attempt : Attempt} (h : board.Answering now request answers)
    (hreaches : Dispatcher.Reaches request outcome (.waiting attempt)) :
    ((pursue now tries board attempt).1.dispatcher, (pursue now tries board attempt).2) =
      Dispatcher.pursue now answers tries (board.dispatcher, .waiting attempt) := by
  -- by induction on the tries that are left: links go on answering as expected
  induction tries generalizing board attempt with
  | zero => rfl
  | succ tries ih =>
    have hrequest : attempt.request = request := hreaches.regular.2
    obtain ⟨answer, hanswer, halike⟩ := h.alike attempt.reservation.handle
    obtain ⟨links, nextMessage, answer', hdeliver, hhands, hothers⟩ :=
      exists_deliver_eq (h.quiet attempt.reservation.handle.link) now request
    rw [hdeliver] at hanswer
    obtain rfl : answer' = some answer := hanswer
    rw [pursue, hrequest, hdeliver, Dispatcher.pursue, ← Dispatcher.settle_congr halike]
    have hstage := hreaches.settle board.dispatcher now answer
    dsimp only
    rcases hsettle : board.dispatcher.settle now attempt answer with ⟨after, result | next⟩
    · rw [Dispatcher.pursue_finished]
    · rw [hsettle] at hstage
      exact ih (h.deliver hdeliver hhands hothers (Dispatcher.peerFailed_of_settle hsettle) after)
        hstage

/-- **One dispatch.** Where links are quiet and answer the request, a dispatch on the switchboard
leaves the dispatcher in the state in which a dispatch with these answers leaves it, and ends in the
same way. -/
theorem launch_eq_dispatch (hquiet : ∀ link ∈ board.links, link.isQuiet = true)
    (hanswers : ∀ handle : Handle,
      (board.deliver now handle.link request).2 = some (answers handle)) (outcome : Outcome) :
    ((board.launch now request outcome).1.dispatcher, (board.launch now request outcome).2) =
      board.dispatcher.dispatch now answers request outcome := by
  have hreaches := Dispatcher.reaches_begin board.dispatcher request outcome
  unfold launch Dispatcher.dispatch
  rcases hbegin : board.dispatcher.begin request outcome with ⟨begun, result | attempt⟩
  · rfl
  · rw [hbegin] at hreaches
    have h : Answering { board with dispatcher := begun } now request answers := by
      refine ⟨fun id link hlink => hquiet link (List.mem_of_getElem? hlink), fun handle => ?_⟩
      refine ⟨answers handle, ?_, .inl rfl⟩
      rw [deliver_of_quiet fun link hlink => hquiet link (List.mem_of_getElem? hlink)]
      exact hanswers handle
    exact pursue_eq attempt.bound h hreaches

end Switchboard

end CallDispatch
