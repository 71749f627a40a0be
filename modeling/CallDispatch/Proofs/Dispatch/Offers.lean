import CallDispatch.Proofs.Dispatch.Attempts
import CallDispatch.Proofs.Link.Handing
import CallDispatch.Switchboard.Flights

/-!
# Offering a request to a dialed application

A request that is routed to a uri goes to the connection found there or to nobody. It is not even
offered if the transport of the connection cannot carry it (`Switchboard.Submitted`). If it is, its
one attempt counts a call against that connection, the link of that connection and no other takes
the request (`Switchboard.Hands`), and its answer decides what is left of the attempt: a call that
is bound to the transaction, a connection that drains, or nothing. All others are as they were,
except that a connection which handled the transaction before loses that call (`Dispatcher.Bound`).

A link might change the registry by itself while it is asked; then something else happens during the
dispatch. So the link is quiet here.

## Main definitions

* `Dispatcher.Bound`, `Dispatcher.Settled`: what the answer of a link leaves.
* `Switchboard.Offered`, `Switchboard.Submitted`: a request at the connection found at a uri.
-/

namespace CallDispatch

open Text

/-! ## Registries -/

namespace Registry

variable {registry : Registry} {uri : String} {handle : Handle}

/-- A call can be reserved on a connection that is found at a uri. -/
lemma reserveEntry_of_findTarget (h : registry.Ascending)
    (hfound : registry.findTarget uri = some handle) :
    (registry.reserveEntry handle.id).2 = some ⟨handle⟩ := by
  obtain ⟨slot, hslot, hactive, rfl⟩ := exists_of_findTarget hfound
  have hfind : registry.find? slot.handle.id = some slot := (find?_eq_some_iff h).2 ⟨hslot, rfl⟩
  rw [reserveEntry, hfind]
  simp only [EntryState.isSelectable_iff.2 hactive, if_true]

end Registry

/-! ## What the answer of a link leaves -/

namespace Dispatcher

/-- A transaction has been bound to a connection: the call counts there, and no longer on the
connection that handled the transaction before. -/
structure Bound (before : Dispatcher) (transactionId : String) (handle : Handle)
    (after : Dispatcher) : Prop where
  calls_eq : after.calls =
    (transactionId, handle.id) :: before.calls.filter (·.1 ≠ transactionId)
  /-- The connection has one call more, unless it handled the transaction already. -/
  own : ∃ slot, before.registry.find? handle.id = some slot ∧ slot.state = .active ∧
    after.registry.find? handle.id = some { slot with
      calls := if before.callOf transactionId = some handle.id then slot.calls
        else slot.calls + 1 }
  others : ∀ id, id ≠ handle.id → after.registry.find? id =
    if before.callOf transactionId = some id then (before.registry.find? id).bind Slot.released
    else before.registry.find? id
  outbound_iff : ∀ uri id, (uri, id) ∈ after.registry.outbound ↔
    (uri, id) ∈ before.registry.outbound ∧ after.registry.contains id = true
  lastSeq_eq : after.registry.lastSeq = before.registry.lastSeq

/-- What becomes of a request that was offered to the connection found at a uri, by the answer of
the link; no answer means that the dispatch was given up. -/
inductive Settled (before : Dispatcher) (now : Nat) (request : Request) (uri : String)
    (handle : Handle) :
    Option (Except LinkError Unit) → Dispatcher → Option DispatchResult → Prop
  | taken {after : Dispatcher} (h : Bound before request.transactionId handle after) :
    Settled before now request uri handle (some (.ok ())) after (some (.delivered handle))
  | tooLarge (length : Nat) :
    Settled before now request uri handle (some (.error (.tooLarge length))) before
      (some (.rejected (.messageTooLarge length)))
  /-- The peer is dead: the connection is told to drain, and the request is refused. -/
  | dead {error : LinkError} (h : error.isPeerFailure = true) :
    Settled before now request uri handle (some (.error error))
      { before with registry := (before.registry.beginDrain now handle.id).1 }
      (some (.rejected (.noSuchTarget uri)))
  | unanswered : Settled before now request uri handle none before none

variable {before : Dispatcher} {request : Request} {uri transactionId : String} {handle : Handle}

/-- Binding a transaction takes a call off the connection that handled it before. -/
lemma find?_bind (h : before.registry.Ascending) (transactionId : String) (id other : EntryId) :
    (before.bind transactionId id).registry.find? other =
      if before.callOf transactionId = some other then
        (before.registry.find? other).bind Slot.released
      else before.registry.find? other := by
  unfold bind
  cases before.callOf transactionId with
  | none => rfl
  | some previous =>
    dsimp only
    rw [Registry.release_eq_become h]
    by_cases hprevious : previous = other
    · subst hprevious
      rw [if_pos rfl, Registry.find?_become Registry.keepsHandle_released]
    · rw [if_neg fun hsame => hprevious (Option.some.inj hsame),
        Registry.find?_become_of_ne h Registry.keepsHandle_released (Ne.symm hprevious)]

/-- Binding a transaction ends a call at most. -/
lemma registry_bind_cases (before : Dispatcher) (transactionId : String) (id : EntryId) :
    (before.bind transactionId id).registry = before.registry ∨
      ∃ previous, (before.bind transactionId id).registry =
        (before.registry.release previous).1 := by
  unfold bind
  cases before.callOf transactionId with
  | none => exact Or.inl rfl
  | some previous => exact Or.inr ⟨previous, rfl⟩

/-- Binding a transaction stamps no connection. -/
lemma lastSeq_bind (before : Dispatcher) (transactionId : String) (id : EntryId) :
    (before.bind transactionId id).registry.lastSeq = before.registry.lastSeq := by
  rcases registry_bind_cases before transactionId id with hkept | ⟨previous, hreleased⟩
  · rw [hkept]
  · rw [hreleased, Registry.lastSeq_release]

/-- A transaction is bound to the connection on which a call was reserved for it. -/
lemma bound_bind (h : before.registry.Consistent)
    (hreserve : (before.registry.reserveEntry handle.id).2 = some ⟨handle⟩)
    (transactionId : String) :
    Bound before transactionId handle
      (bind { before with registry := (before.registry.reserveEntry handle.id).1 } transactionId
        handle.id) := by
  obtain ⟨slot, hfind, hactive, hengaged⟩ :=
    Registry.exists_of_reserveEntry_eq_some hreserve
  have hid : ∀ s : Slot, ({ s with calls := s.calls + 1 } : Slot).id = s.id := fun _ => rfl
  have hreserved : (before.registry.reserveEntry handle.id).1.Consistent := h.reserveEntry handle.id
  -- reserving a call neither opens nor closes a connection
  have huris : ∀ uri id, (uri, id) ∈ (before.registry.reserveEntry handle.id).1.outbound ↔
      (uri, id) ∈ before.registry.outbound ∧
        (before.registry.reserveEntry handle.id).1.contains id = true := by
    intro uri id
    rw [hengaged, Registry.contains_update hid]
    exact h.mem_outbound_iff uri id
  refine ⟨?_, ⟨slot, hfind, hactive, ?_⟩, fun id hne => ?_, ?_, ?_⟩
  · unfold bind
    cases callOf _ transactionId <;> rfl
  · rw [find?_bind hreserved.ascending]
    dsimp only
    rw [hengaged, Registry.find?_update hid, hfind, Option.map_some]
    show (if before.callOf transactionId = some handle.id then _ else _) = _
    by_cases hsame : before.callOf transactionId = some handle.id
    · -- the call that is taken off is the one that has just been counted
      rw [if_pos hsame, if_pos hsame, Option.bind_some, Slot.released, if_neg]
      · rfl
      · simp [hactive]
    · rw [if_neg hsame, if_neg hsame]
  · rw [find?_bind hreserved.ascending]
    dsimp only
    rw [hengaged, Registry.find?_update_of_ne hid hne]
    rfl
  · rcases registry_bind_cases { before with registry := (before.registry.reserveEntry handle.id).1 }
      transactionId handle.id with hkept | ⟨previous, hreleased⟩
    · rw [hkept]
      exact huris
    · rw [hreleased]
      exact ((Registry.waning_keepsUris before.registry).release previous ⟨hreserved, huris⟩).2
  · rw [lastSeq_bind]
    dsimp only
    rw [hengaged]
    rfl

/-- The answer of a link settles the only attempt of a dispatch to a uri. -/
lemma settled_of_answer (h : before.registry.Consistent)
    (hreserve : (before.registry.reserveEntry handle.id).2 = some ⟨handle⟩) (now : Nat)
    (request : Request) (uri : String) (answer : Except LinkError Unit) :
    ∃ after result,
      settle { before with registry := (before.registry.reserveEntry handle.id).1 } now
        ⟨request, .direct uri, ⟨handle⟩⟩ answer = (after, .finished result) ∧
      Settled before now request uri handle (some answer) after (some result) := by
  cases hanswer : peerFailed answer with
  | false =>
    rcases peerFailed_eq_false_iff.1 hanswer with rfl | ⟨length, rfl⟩
    · exact ⟨_, _, rfl, .taken (bound_bind h hreserve request.transactionId)⟩
    · refine ⟨before, _, ?_, .tooLarge length⟩
      rw [settle]
      dsimp only
      rw [Registry.rollBack_reserveEntry hreserve]
  | true =>
    refine ⟨{ before with registry := (before.registry.beginDrain now handle.id).1 },
      .rejected (.noSuchTarget uri), ?_, ?_⟩
    · rw [settle_of_peerFailed hanswer, afterFailure]
      dsimp only
      rw [Registry.abandonDead, Registry.rollBack_reserveEntry hreserve]
    · cases answer with
      | ok => cases hanswer
      | error error => exact .dead hanswer

end Dispatcher

namespace Switchboard

variable {before : Switchboard} {request : Request} {uri : String} {handle : Handle}

/-! ## Offering a request -/

/-- A request that is routed to a uri has been offered to one connection. -/
structure Offered (before : Switchboard) (now : Nat) (request : Request) (uri : String)
    (handle : Handle) (after : Switchboard) (result : Option DispatchResult) : Prop where
  /-- The only attempt of the dispatch is at that connection. -/
  begins : before.dispatcher.begin request (.routeByUri uri) =
    ({ before.dispatcher with registry := (before.registry.reserveEntry handle.id).1 },
      .waiting ⟨request, .direct uri, ⟨handle⟩⟩)
  settled : before.dispatcher.Settled now request uri handle
    (before.deliver now handle.link request).2 after.dispatcher result
  /-- The application of the connection gets what its link makes of the request. -/
  handed : before.Hands handle.link request after.links[handle.link]?
    (before.deliver now handle.link request).2
  link_eq : after.links[handle.link]? =
    (before.deliver now handle.link request).1.links[handle.link]?
  /-- No other application gets anything. -/
  links_eq : ∀ id, id ≠ handle.link → after.links[id]? = before.links[id]?
  /-- Besides, there is another number for the next message at most. -/
  rest_eq : after = { before with
    dispatcher := after.dispatcher, links := after.links, nextMessage := after.nextMessage }

/-- A request is refused with a status. -/
def Refused (status : Nat) (result : Option DispatchResult) : Prop :=
  ∃ error : DispatchError, result = some (.rejected error) ∧ error.status = status

/-- A request that is routed to a uri has been handled by the connection found there: it was offered
to it if its transport can carry the request, and refused otherwise. -/
structure Submitted (before : Switchboard) (now : Nat) (request : Request) (uri : String)
    (handle : Handle) (after : Switchboard) (result : Option DispatchResult) : Prop where
  offered : handle.transport.satisfies request.requiredTransport = true →
    Offered before now request uri handle after result
  unfit : handle.transport.satisfies request.requiredTransport = false →
    after = before ∧ Refused 500 result

/-- A dispatch to a uri where nobody is found changes nothing. -/
lemma dispatch_of_findTarget_eq_none (hnone : before.registry.findTarget uri = none) (now : Nat)
    (request : Request) :
    before.dispatch now request (.routeByUri uri) =
      (before, some (.rejected (.noSuchTarget uri))) := by
  have hlocate : before.dispatcher.locate request uri = .error (.noSuchTarget uri) := by
    rw [Dispatcher.locate, show before.dispatcher.registry.findTarget uri = none from hnone]
  rw [dispatch, launch, Dispatcher.begin, Dispatcher.beginDirect, hlocate]

section OneAttempt

variable {reserved : Dispatcher} {reservation : Reservation} {asked : Switchboard} {now : Nat}
  (hbegin : before.dispatcher.begin request (.routeByUri uri) =
    (reserved, .waiting ⟨request, .direct uri, reservation⟩))
  (hquiet : ∀ link, before.links[reservation.handle.link]? = some link → link.isQuiet = true)

include hbegin hquiet

/-- A dispatch that begins with an attempt at a quiet link waits for the answer of that link. -/
lemma launch_of_begin : before.launch now request (.routeByUri uri) =
    match before.deliver now reservation.handle.link request with
    | (asked, none) =>
      ({ asked with dispatcher := reserved }, .waiting ⟨request, .direct uri, reservation⟩)
    | (asked, some answer) =>
      match reserved.settle now ⟨request, .direct uri, reservation⟩ answer with
      | (after, .finished result) => ({ asked with dispatcher := after }, .finished result)
      | (after, .waiting next) => ({ asked with dispatcher := after }, .waiting next) := by
  rw [launch, hbegin]
  dsimp only [Attempt.bound]
  rw [pursue]
  dsimp only
  rw [deliver_of_quiet hquiet]
  rcases before.deliver now reservation.handle.link request with ⟨asked, _ | answer⟩
  · rfl
  · dsimp only
    rcases reserved.settle now ⟨request, .direct uri, reservation⟩ answer with ⟨after, result | next⟩
    · rfl
    · rfl

/-- A link that does not answer ends the dispatch without a result. -/
lemma dispatch_of_unanswered
    (hdeliver : before.deliver now reservation.handle.link request = (asked, none)) :
    before.dispatch now request (.routeByUri uri) =
      ({ asked with dispatcher := reserved.cancel ⟨request, .direct uri, reservation⟩ }, none) := by
  rw [dispatch, launch_of_begin hbegin hquiet, hdeliver]
  rfl

/-- The answer of a link that settles the attempt ends the dispatch. -/
lemma dispatch_of_answer {answer : Except LinkError Unit} {after : Dispatcher}
    {result : DispatchResult}
    (hdeliver : before.deliver now reservation.handle.link request = (asked, some answer))
    (hsettle : reserved.settle now ⟨request, .direct uri, reservation⟩ answer =
      (after, .finished result)) :
    before.dispatch now request (.routeByUri uri) =
      ({ asked with dispatcher := after }, some result) := by
  rw [dispatch, launch_of_begin hbegin hquiet, hdeliver]
  dsimp only
  rw [hsettle]

end OneAttempt

/-- Where a connection is found at a uri, its transport decides. -/
lemma locate_of_findTarget (hfound : before.registry.findTarget uri = some handle)
    (request : Request) :
    before.dispatcher.locate request uri =
      if handle.transport.satisfies request.requiredTransport then .ok handle
      else .error (.transportUnavailable (handle.transport.text ++
        " cannot carry a request requiring " ++
        Dispatcher.describeRequired request.requiredTransport)) := by
  rw [Dispatcher.locate, show before.dispatcher.registry.findTarget uri = some handle from hfound]

/-- A dispatch that begins with an attempt at a connection offers it the request. -/
lemma offered_dispatch (h : before.registry.Consistent)
    (hquiet : ∀ link, before.links[handle.link]? = some link → link.isQuiet = true)
    (hreserve : (before.registry.reserveEntry handle.id).2 = some ⟨handle⟩)
    (hbegin : before.dispatcher.begin request (.routeByUri uri) =
      ({ before.dispatcher with registry := (before.registry.reserveEntry handle.id).1 },
        .waiting ⟨request, .direct uri, ⟨handle⟩⟩)) (now : Nat) :
    Offered before now request uri handle (before.dispatch now request (.routeByUri uri)).1
      (before.dispatch now request (.routeByUri uri)).2 := by
  obtain ⟨links, nextMessage, answer, hdeliver, hhands, hlinks⟩ :=
    exists_deliver_eq hquiet now request
  -- the link takes the request in the same way whatever has been reserved meanwhile
  have hanswer : (before.deliver now handle.link request).2 = answer := by rw [hdeliver]
  have hlink : (before.deliver now handle.link request).1.links = links := by rw [hdeliver]
  cases answer with
  | none =>
    have hcancel : Dispatcher.cancel
        { before.dispatcher with registry := (before.registry.reserveEntry handle.id).1 }
        ⟨request, .direct uri, ⟨handle⟩⟩ = before.dispatcher := by
      rw [Dispatcher.cancel]
      dsimp only
      rw [Registry.rollBack_reserveEntry hreserve]
      rfl
    rw [dispatch_of_unanswered hbegin hquiet hdeliver, hcancel]
    exact ⟨hbegin, hanswer ▸ .unanswered, hanswer ▸ hhands, hlink ▸ rfl, hlinks, rfl⟩
  | some answer =>
    obtain ⟨after, result, hsettle, hsettled⟩ :=
      Dispatcher.settled_of_answer h hreserve now request uri answer
    rw [dispatch_of_answer hbegin hquiet hdeliver hsettle]
    exact ⟨hbegin, hanswer ▸ hsettled, hanswer ▸ hhands, hlink ▸ rfl, hlinks, rfl⟩

/-- A dispatch to a uri is left to the connection that is found there. -/
lemma submitted_dispatch (h : before.registry.Consistent)
    (hquiet : ∀ link, before.links[handle.link]? = some link → link.isQuiet = true)
    (hfound : before.registry.findTarget uri = some handle) (now : Nat) (request : Request) :
    Submitted before now request uri handle (before.dispatch now request (.routeByUri uri)).1
      (before.dispatch now request (.routeByUri uri)).2 := by
  have hlocate := locate_of_findTarget hfound request
  refine ⟨fun hfits => ?_, fun hunfit => ?_⟩
  · have hreserve := Registry.reserveEntry_of_findTarget h.ascending hfound
    refine offered_dispatch h hquiet hreserve ?_ now
    rw [Dispatcher.begin, Dispatcher.beginDirect, hlocate, if_pos hfits]
    exact Dispatcher.tryLocated_of_reserveEntry_eq_some hreserve
  · rw [hunfit, if_neg Bool.false_ne_true] at hlocate
    rw [dispatch, launch, Dispatcher.begin, Dispatcher.beginDirect, hlocate]
    exact ⟨rfl, _, rfl, rfl⟩

/-! ## Everybody else -/

section Others

variable {now : Nat} {after : Switchboard} {result : Option DispatchResult}

/-- A connection that was not offered the request is as it was, unless it loses the transaction. -/
lemma Offered.find?_of_ne (h : before.registry.Consistent)
    (hoffered : Offered before now request uri handle after result) {id : EntryId}
    (hne : id ≠ handle.id) (hcall : before.dispatcher.callOf request.transactionId ≠ some id) :
    after.registry.find? id = before.registry.find? id := by
  have hsettled := hoffered.settled
  unfold registry
  generalize after.dispatcher = left at hsettled
  generalize (before.deliver now handle.link request).2 = answer at hsettled
  cases hsettled with
  | taken hbound => exact (hbound.others id hne).trans (if_neg hcall)
  | dead herror => exact Registry.find?_beginDrain_of_ne h.ascending now hne
  | tooLarge | unanswered => rfl

/-- No connection is stamped. -/
lemma Offered.lastSeq_eq (hoffered : Offered before now request uri handle after result) :
    after.registry.lastSeq = before.registry.lastSeq := by
  have hsettled := hoffered.settled
  unfold registry
  generalize after.dispatcher = left at hsettled
  generalize (before.deliver now handle.link request).2 = answer at hsettled
  cases hsettled with
  | taken hbound => exact hbound.lastSeq_eq
  | dead herror => exact Registry.lastSeq_beginDrain _ now handle.id
  | tooLarge | unanswered => rfl

lemma Submitted.find?_of_ne (h : before.registry.Consistent)
    (hsubmitted : Submitted before now request uri handle after result) {id : EntryId}
    (hne : id ≠ handle.id) (hcall : before.dispatcher.callOf request.transactionId ≠ some id) :
    after.registry.find? id = before.registry.find? id := by
  cases hfits : handle.transport.satisfies request.requiredTransport with
  | true => exact (hsubmitted.offered hfits).find?_of_ne h hne hcall
  | false => rw [(hsubmitted.unfit hfits).1]

lemma Submitted.lastSeq_eq (hsubmitted : Submitted before now request uri handle after result) :
    after.registry.lastSeq = before.registry.lastSeq := by
  cases hfits : handle.transport.satisfies request.requiredTransport with
  | true => exact (hsubmitted.offered hfits).lastSeq_eq
  | false => rw [(hsubmitted.unfit hfits).1]

end Others

end Switchboard

end CallDispatch
