import CallDispatch.Proofs.Dispatch.Attempts

/-!
# Dispatches that do not deliver

A dispatch that is rejected, or given up while a link is being asked, has touched connections all
the same: each attempt counts a call, and some peers may have turned out to be dead. Here it is
shown that no call is left behind (`Traceless`). Nothing is assumed about the links, each of which
may answer anything at any time; only nothing else happens in between.

The proof follows the dispatch reply by reply. While it waits, all links asked so far have turned
out to be dead, and one call is reserved in the registry that they left (`Awaits`). The next reply
ends the wait, and the dispatch is over or waits again (`tracked_settle`).

## Main definitions

* `Reply`: the answer of a link, and when it came.
* `Dispatcher.Replied`: a dispatch with the replies that it has got.
* `Dispatcher.Undelivered`: a dispatch that was rejected or given up.
* `Dispatcher.Traceless`: what it leaves behind.
-/

namespace CallDispatch

open Text

/-- The answer of a link to a request, and when it came. -/
structure Reply where
  handle : Handle
  time : Nat
  answer : Except LinkError Unit

/-- The connections whose peers turned out to be dead, with the times of that. -/
def deadAmong (replies : List Reply) : List (Handle × Nat) :=
  (replies.filter (peerFailed ·.answer)).map fun reply => (reply.handle, reply.time)

section Replies

variable {replies : List Reply} {reply : Reply}

lemma mem_deadAmong {pair : Handle × Nat} : pair ∈ deadAmong replies ↔
    ∃ reply ∈ replies, peerFailed reply.answer = true ∧ (reply.handle, reply.time) = pair := by
  simp [deadAmong, and_assoc]

/-- A reply of a dead peer adds one to the dead connections. -/
lemma deadAmong_append_of_failed (hfailed : peerFailed reply.answer = true) :
    deadAmong (replies ++ [reply]) = deadAmong replies ++ [(reply.handle, reply.time)] := by
  simp [deadAmong, hfailed]

lemma deadAmong_append_of_not_failed (hlives : peerFailed reply.answer = false) :
    deadAmong (replies ++ [reply]) = deadAmong replies := by
  simp [deadAmong, hlives]

end Replies

namespace Dispatcher

/-- A dispatch that began like this, and has got these replies since, the last one at the end, while
nothing else happened. -/
inductive Replied (begun : Dispatcher × Progress) : List Reply → Dispatcher × Progress → Prop
  | begun : Replied begun [] begun
  | settle {replies : List Reply} {dispatcher : Dispatcher} {attempt : Attempt}
      (h : Replied begun replies (dispatcher, .waiting attempt)) (time : Nat)
      (answer : Except LinkError Unit) :
      Replied begun (replies ++ [⟨attempt.reservation.handle, time, answer⟩])
        (dispatcher.settle time attempt answer)

/-- A dispatch that is over and has not delivered its request, with the connections that it asked:
it was rejected, or given up while the last link was being asked. -/
inductive Undelivered (before : Dispatcher) (request : Request) (outcome : Outcome) :
    List Reply → List Handle → Dispatcher → Prop
  | rejected {replies : List Reply} {after : Dispatcher} {error : DispatchError}
      (h : Replied (before.begin request outcome) replies (after, .finished (.rejected error))) :
      Undelivered before request outcome replies (replies.map Reply.handle) after
  | cancelled {replies : List Reply} {dispatcher : Dispatcher} {attempt : Attempt}
      (h : Replied (before.begin request outcome) replies (dispatcher, .waiting attempt)) :
      Undelivered before request outcome replies
        (replies.map Reply.handle ++ [attempt.reservation.handle]) (dispatcher.cancel attempt)

/-- What a dispatch leaves behind that asked these connections, of which those turned out to be dead
at some times, and delivered to none. -/
structure Traceless (outcome : Outcome) (asked : List Handle) (dead : List (Handle × Nat))
    (before after : Dispatcher) : Prop where
  calls_eq : after.calls = before.calls
  /-- Nothing happens to a connection that is not asked. -/
  of_not_asked : ∀ id, (∀ handle ∈ asked, handle.id ≠ id) →
    after.registry.find? id = before.registry.find? id
  /-- A connection that is asked and not dead has at most another stamp, if it is one of a pool. -/
  of_asked : ∀ handle ∈ asked, (∀ pair ∈ dead, pair.1.id ≠ handle.id) →
    ∃ slot stamp, before.registry.find? handle.id = some slot ∧
      after.registry.find? handle.id = some { slot with lastUsed := stamp } ∧
      (outcome.selector? = none → stamp = slot.lastUsed)
  /-- A dead connection drains if it has other calls, and is closed otherwise. -/
  of_dead : ∀ pair ∈ dead, ∃ slot stamp, before.registry.find? pair.1.id = some slot ∧
    slot.state = .active ∧
    after.registry.find? pair.1.id = (if slot.calls = 0 then none else some { slot with
      state := .draining
      drainingSince := some pair.2
      lastUsed := stamp }) ∧
    (outcome.selector? = none → stamp = slot.lastUsed)
  /-- The uris of those that closed are forgotten, and no others. -/
  outbound_iff : ∀ uri id, (uri, id) ∈ after.registry.outbound ↔
    (uri, id) ∈ before.registry.outbound ∧ after.registry.contains id = true
  lastSeq_le : before.registry.lastSeq ≤ after.registry.lastSeq
  lastSeq_eq : outcome.selector? = none → after.registry.lastSeq = before.registry.lastSeq

variable {before after dispatcher : Dispatcher} {request : Request} {outcome : Outcome}
  {replies : List Reply} {asked : List Handle} {dead : List (Handle × Nat)} {handle : Handle}
  {slot : Slot} {attempt : Attempt} {selector : Selector}

/-! ## What is left -/

/-- Asking registered connections and giving the calls back leaves nothing. -/
lemma traceless_self (h : before.registry.Consistent)
    (hasked : ∀ handle ∈ asked, ∃ slot, before.registry.find? handle.id = some slot) :
    Traceless outcome asked [] before before where
  calls_eq := rfl
  of_not_asked _ _ := rfl
  of_asked handle hhandle _ := by
    obtain ⟨slot, hfind⟩ := hasked handle hhandle
    exact ⟨slot, slot.lastUsed, hfind, hfind, fun _ => rfl⟩
  of_dead := by simp
  outbound_iff := h.mem_outbound_iff
  lastSeq_le := Nat.le_refl _
  lastSeq_eq _ := rfl

/-- A connection that was reserved by its id and whose peer is dead is told to drain. -/
lemma traceless_beginDrain (h : before.registry.Consistent)
    (hfind : before.registry.find? handle.id = some slot) (hactive : slot.state = .active)
    (time : Nat) :
    Traceless outcome [handle] [(handle, time)] before
      { before with registry := (before.registry.beginDrain time handle.id).1 } where
  calls_eq := rfl
  of_not_asked id hnot := by
    have hne : id ≠ handle.id := (hnot handle List.mem_cons_self).symm
    exact Registry.find?_beginDrain_of_ne h.ascending time hne
  of_asked other hother hnot := by
    rw [List.mem_singleton.1 hother] at hnot
    exact absurd rfl (hnot (handle, time) List.mem_cons_self)
  of_dead pair hpair := by
    rw [List.mem_singleton.1 hpair]
    refine ⟨slot, slot.lastUsed, hfind, hactive, ?_, fun _ => rfl⟩
    have hdrained := Slot.drained_stamped hactive slot.lastUsed time
    rw [Registry.find?_beginDrain h.ascending, hfind, Option.bind_some]
    exact hdrained
  outbound_iff := ((Registry.waning_keepsUris before.registry).beginDrain time handle.id
    ⟨h, h.mem_outbound_iff⟩).2
  lastSeq_le := Nat.le_of_eq (Registry.lastSeq_beginDrain _ _ _).symm
  lastSeq_eq _ := Registry.lastSeq_beginDrain _ _ _

/-- A search of a pool that ends without another attempt. -/
lemma traceless_of_searched {now : Registry} (h : before.registry.Searched dead now)
    (hselector : outcome.selector? = some selector) (hasked : asked = dead.map Prod.fst) :
    Traceless outcome asked dead before { before with registry := now } where
  calls_eq := rfl
  of_not_asked id hnot := h.of_not_dead id fun pair hpair =>
    hnot pair.1 (hasked ▸ List.mem_map_of_mem hpair)
  of_asked handle hhandle hnot := by
    rw [hasked] at hhandle
    obtain ⟨pair, hpair, rfl⟩ := List.mem_map.1 hhandle
    exact absurd rfl (hnot pair hpair)
  of_dead pair hpair := by
    obtain ⟨slot, stamp, hfind, hactive, hnow⟩ := h.exists_of_mem hpair
    refine ⟨slot, stamp, hfind, hactive, hnow, fun hnone => ?_⟩
    rw [hselector] at hnone
    cases hnone
  outbound_iff := h.outbound_iff
  lastSeq_le := by
    show before.registry.lastSeq ≤ now.lastSeq
    rw [h.lastSeq_eq]
    exact Nat.le_add_right _ _
  lastSeq_eq hnone := by
    rw [hselector] at hnone
    cases hnone

/-- A search of a pool that ends with a connection from which the call is taken back. -/
lemma traceless_of_mark {now : Registry} (h : before.registry.Searched dead now)
    (hselector : outcome.selector? = some selector)
    (hasked : asked = dead.map Prod.fst ++ [handle]) (hfind : now.find? handle.id = some slot)
    (hactive : slot.state = .active) :
    Traceless outcome asked dead before
      { before with registry := now.mark handle.id Slot.stamped } := by
  -- the connection asked last is active, so it is none of the dead and is as it was before
  obtain ⟨hlive, hbefore⟩ := h.find?_of_active hfind hactive
  have hnotNone : outcome.selector? ≠ none := by
    rw [hselector]
    simp
  refine ⟨rfl, fun id hnot => ?_, fun other hother hnot => ?_, fun pair hpair => ?_,
    h.outbound_mark Slot.id_stamped _, ?_, fun hnone => absurd hnone hnotNone⟩
  · simp only [hasked, List.mem_append, List.mem_map, List.mem_singleton] at hnot
    have hne : id ≠ handle.id := (hnot handle (Or.inr rfl)).symm
    have hkept : (now.mark handle.id Slot.stamped).find? id = now.find? id :=
      Registry.find?_mark_of_ne Slot.id_stamped hne
    exact hkept.trans (h.of_not_dead id fun pair hpair => hnot pair.1 (Or.inl ⟨pair, hpair, rfl⟩))
  · rw [hasked, List.mem_append, List.mem_singleton] at hother
    rcases hother with hother | rfl
    · obtain ⟨pair, hpair, rfl⟩ := List.mem_map.1 hother
      exact absurd rfl (hnot pair hpair)
    · exact ⟨slot, _, hbefore, Registry.find?_mark Slot.id_stamped hfind,
        fun hnone => absurd hnone hnotNone⟩
  · obtain ⟨old, stamp, hold, holdActive, hnow⟩ := h.exists_of_mem hpair
    have hkept : (now.mark handle.id Slot.stamped).find? pair.1.id = now.find? pair.1.id :=
      Registry.find?_mark_of_ne Slot.id_stamped (hlive pair hpair)
    exact ⟨old, stamp, hold, holdActive, hkept.trans hnow, fun hnone => absurd hnone hnotNone⟩
  · show before.registry.lastSeq ≤ now.lastSeq + 1
    rw [h.lastSeq_eq]
    omega

/-! ## What a dispatch waits for -/

/-- A dispatch that waits has only found dead peers so far, and holds one call. -/
inductive Awaits (before : Dispatcher) (outcome : Outcome) (replies : List Reply)
    (attempt : Attempt) : Dispatcher → Prop
  | pooled {now : Registry} {selector : Selector} {method : Option String}
      {excluded : List EntryId} {tries : Nat} (hselector : outcome.selector? = some selector)
      (hroute : attempt.route = .pooled selector tries excluded)
      (hall : replies.map Reply.handle = (deadAmong replies).map Prod.fst)
      (hsearched : before.registry.Searched (deadAmong replies) now)
      (hreserve : (now.reserve selector method excluded).2 = some attempt.reservation) :
      Awaits before outcome replies attempt
        { before with registry := (now.reserve selector method excluded).1 }
  | direct {uri : String} {id : EntryId} (hselector : outcome.selector? = none)
      (hroute : attempt.route = .direct uri) (hnone : replies = [])
      (hreserve : (before.registry.reserveEntry id).2 = some attempt.reservation) :
      Awaits before outcome replies attempt
        { before with registry := (before.registry.reserveEntry id).1 }

/-- What holds of a dispatch with the replies that it has got, while nothing else happens. -/
def Tracked (before : Dispatcher) (outcome : Outcome) (replies : List Reply) :
    Dispatcher × Progress → Prop
  | (dispatcher, .waiting attempt) => Awaits before outcome replies attempt dispatcher
  | (dispatcher, .finished (.rejected _)) =>
    Traceless outcome (replies.map Reply.handle) (deadAmong replies) before dispatcher
  | (_, .finished (.delivered _)) => True

/-- The next attempt at a pool, or the end of the search. -/
lemma tracked_tryNext (hselector : outcome.selector? = some selector)
    (hall : replies.map Reply.handle = (deadAmong replies).map Prod.fst) {now : Registry}
    (hsearched : before.registry.Searched (deadAmong replies) now) (tries : Nat)
    (failed : List EntryId) :
    Tracked before outcome replies
      (tryNext { before with registry := now } request selector tries failed) := by
  cases tries with
  | zero => exact traceless_of_searched hsearched hselector hall
  | succ triesLeft =>
    cases hreserve : (now.reserve selector (some request.method) failed).2 with
    | none =>
      rw [tryNext_of_reserve_eq_none hreserve]
      exact traceless_of_searched hsearched hselector hall
    | some reservation =>
      rw [tryNext_of_reserve_eq_some hreserve]
      exact Awaits.pooled hselector rfl hall hsearched hreserve

/-- A dispatch begins with nothing to answer for. -/
lemma tracked_begin (h : before.registry.Consistent) (request : Request) (outcome : Outcome) :
    Tracked before outcome [] (before.begin request outcome) := by
  have hnothing : Traceless outcome [] [] before before := traceless_self h (by simp)
  have hpool : ∀ selector, outcome.selector? = some selector →
      Tracked before outcome [] (before.beginPooled request selector) := by
    intro selector hselector
    rw [beginPooled]
    split
    · exact hnothing
    · cases before.observe request selector with
      | error e => exact hnothing
      | ok tries => exact tracked_tryNext hselector rfl (Registry.Searched.refl h) tries []
  cases outcome with
  | reject status => exact hnothing
  | routeByTag tag => exact hpool (.tag tag) rfl
  | routeDefault => exact hpool .untagged rfl
  | routeByUri uri =>
    rw [begin, beginDirect]
    cases before.locate request uri with
    | error e => exact hnothing
    | ok target =>
      show Tracked before (.routeByUri uri) [] (before.tryLocated request uri target.id)
      cases hreserve : (before.registry.reserveEntry target.id).2 with
      | none =>
        rw [tryLocated_of_reserveEntry_eq_none hreserve]
        exact hnothing
      | some reservation =>
        rw [tryLocated_of_reserveEntry_eq_some hreserve]
        exact Awaits.direct rfl rfl rfl hreserve

/-- Giving up the wait leaves no call behind. -/
lemma traceless_cancel (h : before.registry.Consistent)
    (hawaits : Awaits before outcome replies attempt dispatcher) :
    Traceless outcome (replies.map Reply.handle ++ [attempt.reservation.handle])
      (deadAmong replies) before (dispatcher.cancel attempt) := by
  cases hawaits with
  | @pooled now selector method excluded tries hselector hroute hall hsearched hreserve =>
    obtain ⟨slot, hfind, -, hactive, -⟩ :=
      Registry.exists_of_reserve_eq_some hsearched.consistent.ascending hreserve
    rw [cancel, Registry.rollBack_reserve hsearched.consistent.ascending hreserve, hall]
    exact traceless_of_mark hsearched hselector rfl hfind hactive
  | direct hselector hroute hnone hreserve =>
    obtain ⟨slot, hfind, -⟩ := Registry.exists_of_reserveEntry_eq_some hreserve
    rw [cancel, Registry.rollBack_reserveEntry hreserve, hnone]
    refine traceless_self h fun other hother => ?_
    rw [List.mem_singleton.1 hother]
    exact ⟨slot, hfind⟩

/-- The reply that a dispatch waits for ends it or leads to the next attempt. -/
lemma tracked_settle (h : before.registry.Consistent)
    (hawaits : Awaits before outcome replies attempt dispatcher) (time : Nat)
    (answer : Except LinkError Unit) :
    Tracked before outcome (replies ++ [⟨attempt.reservation.handle, time, answer⟩])
      (dispatcher.settle time attempt answer) := by
  cases hanswer : peerFailed answer with
  | false =>
    rcases peerFailed_eq_false_iff.1 hanswer with rfl | ⟨length, rfl⟩
    · exact trivial
    · -- a request that is too large is given up like a wait
      have hcancel := traceless_cancel h hawaits
      show Traceless outcome _ _ before (dispatcher.cancel attempt)
      rw [deadAmong_append_of_not_failed hanswer, List.map_append]
      exact hcancel
  | true =>
    rw [settle_of_peerFailed hanswer, afterFailure]
    cases hawaits with
    | @pooled now selector method excluded tries hselector hroute hall hsearched hreserve =>
      have hdead : deadAmong (replies ++ [⟨attempt.reservation.handle, time, answer⟩]) =
          deadAmong replies ++ [(attempt.reservation.handle, time)] :=
        deadAmong_append_of_failed hanswer
      have hmore := hsearched.fail hreserve time
      rw [← hdead] at hmore
      rw [hroute]
      -- the search goes on among those that are left
      refine tracked_tryNext hselector ?_ hmore _ _
      rw [hdead, List.map_append, List.map_append, hall]
      rfl
    | direct hselector hroute hnone hreserve =>
      obtain ⟨slot, hfind, hactive, -⟩ := Registry.exists_of_reserveEntry_eq_some hreserve
      rw [hroute, hnone]
      -- the call is given back, and then the connection is told to drain
      show Traceless outcome _ _ before _
      rw [deadAmong_append_of_failed hanswer, Registry.abandonDead,
        Registry.rollBack_reserveEntry hreserve]
      exact traceless_beginDrain h hfind hactive time

/-- What holds of a dispatch holds whatever replies it gets. -/
lemma tracked_replied (h : before.registry.Consistent) {state : Dispatcher × Progress}
    (hreplied : Replied (before.begin request outcome) replies state) :
    Tracked before outcome replies state := by
  -- by induction on the replies: each of them ends a wait
  induction hreplied with
  | begun => exact tracked_begin h request outcome
  | settle _ time answer ih => exact tracked_settle h ih time answer

/-- A dispatch that does not deliver leaves no trace of the call. -/
lemma traceless_of_undelivered (h : before.registry.Consistent)
    (hundelivered : Undelivered before request outcome replies asked after) :
    Traceless outcome asked (deadAmong replies) before after := by
  cases hundelivered with
  | rejected hreplied => exact tracked_replied h hreplied
  | cancelled hreplied => exact traceless_cancel h (tracked_replied h hreplied)

/-! ## The calls of those that are left -/

/-- A connection that is registered afterwards has the calls and the methods that it had. -/
lemma Traceless.exists_same (h : Traceless outcome asked dead before after) {id : EntryId}
    {slot' : Slot} (hfind : after.registry.find? id = some slot') :
    ∃ slot, before.registry.find? id = some slot ∧ slot'.handle = slot.handle ∧
      slot'.calls = slot.calls ∧ slot'.methods = slot.methods := by
  by_cases hdead : ∃ pair ∈ dead, pair.1.id = id
  · obtain ⟨pair, hpair, rfl⟩ := hdead
    obtain ⟨slot, stamp, hbefore, -, hafter, -⟩ := h.of_dead pair hpair
    rw [hfind] at hafter
    split at hafter
    · cases hafter
    · cases hafter
      exact ⟨slot, hbefore, rfl, rfl, rfl⟩
  · by_cases hasked : ∃ handle ∈ asked, handle.id = id
    · obtain ⟨handle, hhandle, rfl⟩ := hasked
      obtain ⟨slot, stamp, hbefore, hafter, -⟩ := h.of_asked handle hhandle (by simpa using hdead)
      rw [hfind] at hafter
      cases hafter
      exact ⟨slot, hbefore, rfl, rfl, rfl⟩
    · rw [h.of_not_asked id (by simpa using hasked)] at hfind
      exact ⟨slot', hfind, rfl, rfl, rfl⟩

/-- A connection that is not active any more is one of those that turned out to be dead. -/
lemma Traceless.exists_dead (h : Traceless outcome asked dead before after) {id : EntryId}
    (hfind : before.registry.find? id = some slot) (hactive : slot.state = .active)
    (hgone : ∀ slot', after.registry.find? id = some slot' → slot'.state ≠ .active) :
    ∃ pair ∈ dead, pair.1.id = id := by
  by_contra hdead
  by_cases hasked : ∃ handle ∈ asked, handle.id = id
  · obtain ⟨handle, hhandle, rfl⟩ := hasked
    obtain ⟨old, stamp, hbefore, hafter, -⟩ := h.of_asked handle hhandle (by simpa using hdead)
    rw [hfind] at hbefore
    cases hbefore
    exact hgone _ hafter hactive
  · have hkept := h.of_not_asked id (by simpa using hasked)
    exact hgone slot (hkept.trans hfind) hactive

/-! ## Whole dispatches -/

/-- A dispatch that is over as soon as it begins gets no replies. -/
lemma replied_of_finished {begun state : Dispatcher × Progress}
    (hreplied : Replied begun replies state) {result : DispatchResult}
    (hbegun : begun.2 = .finished result) : replies = [] ∧ state = begun := by
  induction hreplied with
  | begun => exact ⟨rfl, rfl⟩
  | settle _ time answer ih =>
    rw [← ih.2] at hbegun
    cases hbegun

/-- Pursuing a dispatch is getting replies to it. -/
lemma exists_replied_pursue {begun : Dispatcher × Progress} (time : Nat)
    (answers : Handle → Except LinkError Unit) (tries : Nat) {state : Dispatcher × Progress}
    (hreplied : Replied begun replies state) :
    ∃ replies, Replied begun replies (pursue time answers tries state) := by
  induction tries generalizing replies state with
  | zero => exact ⟨replies, hreplied⟩
  | succ tries ih =>
    obtain ⟨dispatcher, progress⟩ := state
    cases progress with
    | finished result => exact ⟨replies, hreplied⟩
    | waiting attempt => exact ih (hreplied.settle time (answers attempt.reservation.handle))

/-- A whole dispatch that ends as rejected does not deliver. -/
lemma exists_undelivered_of_dispatch {time : Nat} {answers : Handle → Except LinkError Unit}
    {error : DispatchError}
    (hdispatch : before.dispatch time answers request outcome =
      (after, .finished (.rejected error))) :
    ∃ replies asked, Undelivered before request outcome replies asked after := by
  have hreplied : ∃ replies, Replied (before.begin request outcome) replies
      (before.dispatch time answers request outcome) := by
    rw [dispatch]
    cases hbegin : before.begin request outcome with
    | mk begun progress =>
      cases progress with
      | finished result => exact ⟨[], .begun⟩
      | waiting attempt => exact exists_replied_pursue time answers _ .begun
  obtain ⟨replies, hreplied⟩ := hreplied
  rw [hdispatch] at hreplied
  exact ⟨replies, _, .rejected hreplied⟩

/-! ## The main result -/

/-- **No trace.** In every state that is reached, a dispatch during which nothing else happens and
that is rejected, or given up while a link is being asked, leaves the transactions as they are.
Every connection registered afterwards has the calls and the methods that it had, and those that are
not active any more are connections whose links answered this request with a failure of the peer:
they drain if they had other calls, and are closed otherwise. The uris of those that closed are
forgotten, the connections of a pool that were asked have new stamps, and nothing else has changed.
A request rejected by the policy changes nothing at all. -/
theorem undelivered_traceless {acts : List Act} {before : Dispatcher}
    (hbefore : before = (({} : Traffic).run acts).dispatcher) {request : Request}
    {outcome : Outcome} {replies : List Reply} {asked : List Handle} {after : Dispatcher}
    (hundelivered : Undelivered before request outcome replies asked after) :
    Traceless outcome asked (deadAmong replies) before after ∧
      (∀ id slot', after.registry.find? id = some slot' →
        ∃ slot, before.registry.find? id = some slot ∧ slot'.handle = slot.handle ∧
          slot'.calls = slot.calls ∧ slot'.methods = slot.methods) ∧
      (∀ id slot, before.registry.find? id = some slot → slot.state = .active →
        (∀ slot', after.registry.find? id = some slot' → slot'.state ≠ .active) →
        ∃ reply ∈ replies, reply.handle.id = id ∧ peerFailed reply.answer = true) ∧
      ∀ status, outcome = .reject status → after = before := by
  have h : before.registry.Consistent := hbefore ▸ Traffic.consistent_registry_run acts
  have htraceless := traceless_of_undelivered h hundelivered
  refine ⟨htraceless, fun id slot' hfind => htraceless.exists_same hfind,
    fun id slot hfind hactive hgone => ?_, fun status hreject => ?_⟩
  · obtain ⟨pair, hpair, hid⟩ := htraceless.exists_dead hfind hactive hgone
    obtain ⟨reply, hreply, hfailed, rfl⟩ := mem_deadAmong.1 hpair
    exact ⟨reply, hreply, hid, hfailed⟩
  · have hbegin : (before.begin request outcome) =
        (before, .finished (.rejected (.policyRejected status))) := by
      rw [hreject, begin]
    cases hundelivered with
    | rejected hreplied =>
      obtain ⟨-, hstate⟩ := replied_of_finished hreplied (congrArg Prod.snd hbegin)
      rw [hbegin] at hstate
      cases hstate
      rfl
    | cancelled hreplied =>
      obtain ⟨-, hstate⟩ := replied_of_finished hreplied (congrArg Prod.snd hbegin)
      rw [hbegin] at hstate
      cases hstate

/-- An application is dialed. -/
def oneDialed : List Act :=
  [.operate (.add ⟨⟨1, .outbound, .plain, .empty, some "sip:app", none, 1⟩, .connecting⟩)]

theorem undelivered_traceless_oneDialed :
    let before := (({} : Traffic).run oneDialed).dispatcher
    let request : Request := { transactionId := "t", method := "INVITE", uri := "sip:callee" }
    ∃ after, before.dispatch 5 (fun _ => .error .closed) request (.routeByUri "sip:app") =
        (after, .finished (.rejected (.noSuchTarget "sip:app"))) ∧
      ∃ replies asked, Undelivered before request (.routeByUri "sip:app") replies asked after ∧
        after.calls = before.calls ∧ after.registry.lastSeq = before.registry.lastSeq := by
  intro before request
  have hdispatch : before.dispatch 5 (fun _ => .error .closed) request (.routeByUri "sip:app") =
      ({}, .finished (.rejected (.noSuchTarget "sip:app"))) := by rfl
  obtain ⟨replies, asked, hundelivered⟩ := exists_undelivered_of_dispatch hdispatch
  obtain ⟨htraceless, -⟩ := undelivered_traceless (rfl : before = _) hundelivered
  exact ⟨_, hdispatch, replies, asked, hundelivered, htraceless.calls_eq,
    htraceless.lastSeq_eq rfl⟩

end Dispatcher

end CallDispatch
