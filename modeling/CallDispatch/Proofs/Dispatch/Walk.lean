import CallDispatch.Proofs.Dispatch.Accounting
import CallDispatch.Proofs.Dispatch.Attempts

/-!
# A dispatch as one walk

A dispatch to a pool selects anew before every attempt, from the registry as the attempts before
have left it, and it stops after as many attempts as the pool had connections. While nothing else
happens, this is no more than one walk along the snapshot that the pool had at first: a connection
whose peer is dead leaves the pool and the others keep their order, so that the snapshot loses its
head (`snapshot_abandonDead`), and the next selection takes the head of the rest. The walk ends with
the first connection whose peer is not dead.

## Main definitions

* `deadAhead`, `decider?`: the connections of a queue that a walk passes, and the one where it ends.
* `Registry.Traversed`: what a walk leaves of a registry.
* `Dispatcher.Walked`: how a walk ends, and what it leaves behind.
-/

namespace CallDispatch

open Text

/-- The connections at the head of a queue whose peers are dead. -/
def deadAhead (answers : Handle → Except LinkError Unit) (queue : List Handle) : List Handle :=
  queue.takeWhile fun handle => peerFailed (answers handle)

/-- The first connection of a queue whose peer is not dead. -/
def decider? (answers : Handle → Except LinkError Unit) (queue : List Handle) : Option Handle :=
  queue.find? fun handle => !peerFailed (answers handle)

section Queue

variable {answers : Handle → Except LinkError Unit} {passed : List Handle}

/-- Nobody decides where all peers are dead. -/
lemma decider?_eq_none (hpassed : ∀ handle ∈ passed, peerFailed (answers handle) = true) :
    decider? answers passed = none := by
  simpa [decider?] using hpassed

/-- A walk ends with the first connection whose peer is not dead. -/
lemma deadAhead_append_cons (hpassed : ∀ handle ∈ passed, peerFailed (answers handle) = true)
    {handle : Handle} (hlives : peerFailed (answers handle) = false) (rest : List Handle) :
    deadAhead answers (passed ++ handle :: rest) = passed := by
  rw [deadAhead, List.takeWhile_append_of_pos hpassed,
    List.takeWhile_cons_of_neg (by rw [hlives]; simp), List.append_nil]

lemma decider?_append_cons (hpassed : ∀ handle ∈ passed, peerFailed (answers handle) = true)
    {handle : Handle} (hlives : peerFailed (answers handle) = false) (rest : List Handle) :
    decider? answers (passed ++ handle :: rest) = some handle := by
  have hnone : passed.find? (fun handle => !peerFailed (answers handle)) = none :=
    decider?_eq_none hpassed
  rw [decider?, List.find?_append, hnone, Option.none_or,
    List.find?_cons_of_pos (by rw [hlives]; rfl)]

end Queue

namespace Registry

variable {registry : Registry} {selector : Selector} {method : Option String}
  {excluded : List EntryId} {handle : Handle} {rest : List Handle}

/-! ## Selecting from the live registry -/

/-- A selection takes the head of the snapshot, if it excludes nobody of the pool. -/
lemma reserve_of_snapshot_eq_cons (hsnapshot : registry.snapshot selector method = handle :: rest)
    (hexcluded : ∀ id ∈ excluded, id ∉ registry.members selector method) :
    (registry.reserve selector method excluded).2 = some ⟨handle⟩ := by
  have hmember : handle.id ∈ registry.members selector method := by
    rw [snapshot_eq] at hsnapshot
    obtain ⟨chosen, slots, hqueue, rfl, -⟩ := List.map_eq_cons_iff.1 hsnapshot
    have hchosen : chosen ∈ registry.queue selector method := by
      rw [hqueue]
      exact List.mem_cons_self
    exact mem_members.2 ⟨chosen, mem_queue.1 hchosen, rfl⟩
  have hnot : handle.id ∉ excluded := fun hmem => hexcluded handle.id hmem hmember
  rw [reserve_eq_find?, hsnapshot, List.find?_cons_of_pos (by simpa using hnot), Option.map_some]

/-- A connection whose peer is dead has left the pool, and nobody else has come or gone. -/
lemma mem_pool_abandonDead (h : registry.Consistent)
    (hreserve : (registry.reserve selector method excluded).2 = some ⟨handle⟩) (time : Nat)
    {slot : Slot} :
    slot ∈ ((registry.reserve selector method excluded).1.abandonDead time ⟨handle⟩).pool
        selector method ↔
      slot ∈ registry.pool selector method ∧ slot.id ≠ handle.id := by
  have hafter : ((registry.reserve selector method excluded).1.abandonDead time
      ⟨handle⟩).Consistent :=
    (h.reserve selector method excluded).abandonDead time _
  rw [mem_pool, mem_pool, and_right_comm]
  refine and_congr_left fun hinPool => ?_
  have hactive : slot.state = .active := Slot.active_of_inPool hinPool
  by_cases hsame : slot.id = handle.id
  · -- the dead connection is not active afterwards
    refine iff_of_false (fun hslot => ?_) fun hslot => hslot.2 hsame
    obtain ⟨old, hfind, -, hold, -⟩ := exists_of_reserve_eq_some h.ascending hreserve
    have hdrained := find?_abandonDead_reserve h hreserve hfind time
    rw [(find?_eq_some_iff hafter.ascending).2 ⟨hslot, hsame⟩, Slot.drained_stamped hold] at hdrained
    split at hdrained
    · cases hdrained
    · cases hdrained
      cases hactive
  · -- the others are found where they were
    have hkept := find?_abandonDead_reserve_of_ne h hreserve hsame time
    have hmem : ∀ {other : Registry}, other.Ascending →
        (slot ∈ other.slots ↔ other.find? slot.id = some slot) := by
      intro other hother
      rw [find?_eq_some_iff hother, and_iff_left rfl]
    rw [hmem hafter.ascending, hkept, ← hmem h.ascending, and_iff_left hsame]

/-- When the connection at the head of the snapshot is dead, the rest is left of the snapshot. -/
lemma snapshot_abandonDead (h : registry.Consistent)
    (hsnapshot : registry.snapshot selector method = handle :: rest)
    (hreserve : (registry.reserve selector method excluded).2 = some ⟨handle⟩) (time : Nat) :
    ((registry.reserve selector method excluded).1.abandonDead time ⟨handle⟩).snapshot
      selector method = rest := by
  rw [snapshot_eq] at hsnapshot
  obtain ⟨chosen, slots, hqueue, rfl, rfl⟩ := List.map_eq_cons_iff.1 hsnapshot
  have hafter : ((registry.reserve selector method excluded).1.abandonDead time
      ⟨chosen.handle⟩).Consistent :=
    (h.reserve selector method excluded).abandonDead time _
  have hturns : ((registry.queue selector method).map Slot.turn).Pairwise Precedes :=
    pairwise_queue h.ascending
  rw [hqueue, List.map_cons, List.pairwise_cons] at hturns
  have hrest : ∀ slot, slot ∈ registry.pool selector method ∧ slot.id ≠ chosen.id ↔
      slot ∈ slots := by
    intro slot
    rw [← mem_queue, hqueue, List.mem_cons]
    constructor
    · rintro ⟨rfl | hslot, hne⟩
      · exact absurd rfl hne
      · exact hslot
    · exact fun hslot => ⟨Or.inr hslot, id_ne_of_queue_eq_cons h.ascending hqueue hslot⟩
  -- the turns of the rest are in order, and they are just those of the pool afterwards
  rw [snapshot_eq_of_turns hafter.ascending hturns.2 fun turn => ?_, List.map_map]
  · rfl
  · simp only [mem_pool_abandonDead h hreserve time, List.mem_map]
    exact exists_congr fun slot => and_congr_left fun _ => (hrest slot).symm

/-! ## What a walk leaves of a registry -/

/-- What is left of a registry when some connections of it turned out to be dead, one after another,
and the one asked last, if any, was changed as the number of its selection says. -/
structure Traversed (time : Nat) (dead : List Handle) (last : Option Handle)
    (change : Nat → Slot → Slot) (before after : Registry) : Prop where
  /-- A dead connection without calls is closed, and one with calls drains. -/
  of_dead : ∀ k handle, dead[k]? = some handle →
    ∃ slot, before.find? handle.id = some slot ∧ slot.state = .active ∧
      after.find? handle.id = if slot.calls = 0 then none else some { slot with
        state := .draining
        drainingSince := some time
        lastUsed := before.lastSeq + k + 1 }
  of_last : ∀ handle, last = some handle →
    ∃ slot, before.find? handle.id = some slot ∧ slot.state = .active ∧
      after.find? handle.id = some (change (before.lastSeq + dead.length + 1) slot)
  /-- Nothing happens to the others. -/
  of_other : ∀ id, (∀ handle ∈ dead, handle.id ≠ id) → (∀ handle, last = some handle →
    handle.id ≠ id) → after.find? id = before.find? id
  lastSeq_eq : after.lastSeq = before.lastSeq + dead.length + last.toList.length
  /-- The uris of those that closed are forgotten. -/
  outbound_iff : ∀ uri id, (uri, id) ∈ after.outbound ↔
    (uri, id) ∈ before.outbound ∧ after.contains id = true

namespace Searched

variable {before now : Registry} {dead : List Handle} {time : Nat} {change : Nat → Slot → Slot}

/-- A search that ends without another attempt. -/
lemma traversed (h : before.Searched (dead.map (·, time)) now) :
    Traversed time dead none change before now where
  of_dead k handle hk := h.of_dead k handle time (by rw [List.getElem?_map, hk, Option.map_some])
  of_last := by simp
  of_other id hnot _ := h.of_not_dead id (by simpa using hnot)
  lastSeq_eq := by simpa using h.lastSeq_eq
  outbound_iff := h.outbound_iff

/-- A search that ends with an attempt at another connection. -/
lemma traversed_mark (h : before.Searched (dead.map (·, time)) now)
    (hid : ∀ seq slot, (change seq slot).id = slot.id) {slot : Slot}
    (hfind : now.find? handle.id = some slot) (hactive : slot.state = .active) :
    Traversed time dead (some handle) change before (now.mark handle.id change) := by
  obtain ⟨hnot, hbefore⟩ := h.find?_of_active hfind hactive
  have hlive : ∀ other ∈ dead, other.id ≠ handle.id := by simpa using hnot
  refine ⟨fun k other hk => ?_, ?_, fun id hdead hlast => ?_, ?_, h.outbound_mark hid _⟩
  · rw [find?_mark_of_ne hid (hlive other (List.mem_of_getElem? hk))]
    exact h.of_dead k other time (by rw [List.getElem?_map, hk, Option.map_some])
  · rintro other ⟨⟩
    refine ⟨slot, hbefore, hactive, ?_⟩
    rw [find?_mark hid hfind, h.lastSeq_eq, List.length_map]
  · rw [find?_mark_of_ne hid (hlast handle rfl).symm]
    exact h.of_not_dead id (by simpa using hdead)
  · show now.lastSeq + 1 = _
    rw [h.lastSeq_eq, List.length_map]
    rfl

end Searched

end Registry

/-! ## A dispatch to a pool -/

namespace Dispatcher

/-- How a walk along a queue ends, and what it leaves behind. -/
structure Walked (time : Nat) (answers : Handle → Except LinkError Unit) (transactionId : String)
    (queue : List Handle) (before after : Dispatcher) (result : DispatchResult) : Prop where
  /-- The first connection whose peer is not dead takes the request, and has a call more. -/
  accepted : ∀ handle, decider? answers queue = some handle → answers handle = .ok () →
    result = .delivered handle ∧ after.calls = (transactionId, handle.id) :: before.calls ∧
      Registry.Traversed time (deadAhead answers queue) (some handle) Slot.selected
        before.registry after.registry
  /-- The request is too large for it. -/
  refused : ∀ handle length, decider? answers queue = some handle →
    answers handle = .error (.tooLarge length) →
    result = .rejected (.messageTooLarge length) ∧ after.calls = before.calls ∧
      Registry.Traversed time (deadAhead answers queue) (some handle) Slot.stamped
        before.registry after.registry
  /-- All peers are dead. -/
  exhausted : decider? answers queue = none →
    result = .rejected .noAppsConnected ∧ after.calls = before.calls ∧
      Registry.Traversed time queue none Slot.stamped before.registry after.registry

variable {before : Dispatcher} {time : Nat} {answers : Handle → Except LinkError Unit}
  {request : Request} {selector : Selector}

section Ends

variable {transactionId : String} {queue : List Handle} {after : Dispatcher} {handle : Handle}

/-- A walk ends with a connection that takes the request. -/
lemma walked_of_accepted (hdecider : decider? answers queue = some handle)
    (hanswer : answers handle = .ok ())
    (hcalls : after.calls = (transactionId, handle.id) :: before.calls)
    (htraversed : Registry.Traversed time (deadAhead answers queue) (some handle) Slot.selected
      before.registry after.registry) :
    Walked time answers transactionId queue before after (.delivered handle) where
  accepted other hother _ := by
    rw [hdecider] at hother
    cases hother
    exact ⟨rfl, hcalls, htraversed⟩
  refused other length hother hlarge := by
    rw [hdecider] at hother
    cases hother
    rw [hanswer] at hlarge
    cases hlarge
  exhausted hnone := by
    rw [hdecider] at hnone
    cases hnone

/-- A walk ends with a connection for which the request is too large. -/
lemma walked_of_refused {length : Nat} (hdecider : decider? answers queue = some handle)
    (hanswer : answers handle = .error (.tooLarge length)) (hcalls : after.calls = before.calls)
    (htraversed : Registry.Traversed time (deadAhead answers queue) (some handle) Slot.stamped
      before.registry after.registry) :
    Walked time answers transactionId queue before after
      (.rejected (.messageTooLarge length)) where
  accepted other hother hok := by
    rw [hdecider] at hother
    cases hother
    rw [hanswer] at hok
    cases hok
  refused other length' hother hlarge := by
    rw [hdecider] at hother
    cases hother
    rw [hanswer] at hlarge
    cases hlarge
    exact ⟨rfl, hcalls, htraversed⟩
  exhausted hnone := by
    rw [hdecider] at hnone
    cases hnone

/-- A walk passes everybody. -/
lemma walked_of_exhausted (hdecider : decider? answers queue = none)
    (hcalls : after.calls = before.calls)
    (htraversed : Registry.Traversed time queue none Slot.stamped before.registry
      after.registry) :
    Walked time answers transactionId queue before after (.rejected .noAppsConnected) where
  accepted other hother _ := by
    rw [hdecider] at hother
    cases hother
  refused other length hother _ := by
    rw [hdecider] at hother
    cases hother
  exhausted _ := ⟨rfl, hcalls, htraversed⟩

end Ends

/-- A dispatch that has ended is not pursued any further. -/
lemma pursue_finished (dispatcher : Dispatcher) (tries : Nat) (result : DispatchResult) :
    pursue time answers tries (dispatcher, .finished result) = (dispatcher, .finished result) := by
  cases tries <;> rfl

/-- Binding a transaction that is not bound yet adds it and does nothing else. -/
lemma bind_of_lookup_eq_none {calls : List (String × EntryId)} {transactionId : String}
    (hnew : calls.lookup transactionId = none) (registry : Registry) (id : EntryId) :
    ({ registry, calls } : Dispatcher).bind transactionId id =
      { registry, calls := (transactionId, id) :: calls } := by
  simp only [bind, callOf, hnew, filter_of_lookup_eq_none hnew]

/-- A dispatch that has passed some dead connections walks along what is left of the snapshot. -/
lemma exists_walked (hnew : before.callOf request.transactionId = none) (queue : List Handle)
    {passed : List Handle} (hpassed : ∀ handle ∈ passed, peerFailed (answers handle) = true)
    {now : Registry} (hsearched : before.registry.Searched (passed.map (·, time)) now)
    (hsnapshot : now.snapshot selector (some request.method) = queue) {failed : List EntryId}
    (hfailed : ∀ id ∈ failed, ∃ handle ∈ passed, handle.id = id) :
    ∃ after result, pursue time answers queue.length
        (tryNext { before with registry := now } request selector queue.length failed) =
          (after, .finished result) ∧
      Walked time answers request.transactionId (passed ++ queue) before after result := by
  -- by induction on what is left: its head is the next connection to be selected
  induction queue generalizing passed now failed with
  | nil =>
    rw [List.append_nil]
    exact ⟨_, _, rfl, walked_of_exhausted (decider?_eq_none hpassed) rfl hsearched.traversed⟩
  | cons handle rest ih =>
    -- those that failed are in no pool any more, so that excluding them makes no difference
    have hexcluded : ∀ id ∈ failed, id ∉ now.members selector (some request.method) := by
      intro id hid
      obtain ⟨dead, hdead, rfl⟩ := hfailed id hid
      exact hsearched.not_mem_members (List.mem_map_of_mem (f := (·, time)) hdead)
    have hreserve : (now.reserve selector (some request.method) failed).2 = some ⟨handle⟩ :=
      Registry.reserve_of_snapshot_eq_cons hsnapshot hexcluded
    obtain ⟨slot, hfind, -, hactive, hselected⟩ :=
      Registry.exists_of_reserve_eq_some hsearched.consistent.ascending hreserve
    rw [List.length_cons, tryNext_of_reserve_eq_some hreserve, pursue]
    cases hanswer : peerFailed (answers handle) with
    | true =>
      rw [settle_of_peerFailed hanswer, afterFailure]
      have hmore : before.registry.Searched ((passed ++ [handle]).map (·, time))
          ((now.reserve selector (some request.method) failed).1.abandonDead time ⟨handle⟩) := by
        rw [List.map_append]
        exact hsearched.fail hreserve time
      have hpassed' : ∀ other ∈ passed ++ [handle], peerFailed (answers other) = true := by
        intro other hother
        rcases List.mem_append.1 hother with hother | hother
        · exact hpassed other hother
        · rw [List.mem_singleton.1 hother]
          exact hanswer
      have hfailed' : ∀ id ∈ handle.id :: failed, ∃ other ∈ passed ++ [handle], other.id = id := by
        refine List.forall_mem_cons.2 ⟨⟨handle, by simp, rfl⟩, fun id hid => ?_⟩
        obtain ⟨other, hother, hsame⟩ := hfailed id hid
        exact ⟨other, List.mem_append_left _ hother, hsame⟩
      have hrest := Registry.snapshot_abandonDead hsearched.consistent hsnapshot hreserve time
      have hwalk := ih hpassed' hmore hrest hfailed'
      rwa [List.append_assoc] at hwalk
    | false =>
      have hdead := deadAhead_append_cons hpassed hanswer rest
      have hdecider := decider?_append_cons hpassed hanswer rest
      rcases peerFailed_eq_false_iff.1 hanswer with hok | ⟨length, hlarge⟩
      · -- the request is delivered
        simp only [settle, hok, pursue_finished, bind_of_lookup_eq_none hnew]
        refine ⟨_, _, rfl, walked_of_accepted hdecider hok rfl ?_⟩
        rw [hdead, hselected]
        exact hsearched.traversed_mark Slot.id_selected hfind hactive
      · -- the call is given back
        have hback := Registry.rollBack_reserve hsearched.consistent.ascending hreserve
        simp only [settle, hlarge, pursue_finished, hback]
        refine ⟨_, _, rfl, walked_of_refused hdecider hlarge rfl ?_⟩
        rw [hdead]
        exact hsearched.traversed_mark Slot.id_stamped hfind hactive

/-- Somebody is active where a pool is not empty. -/
lemma activeCount_ne_zero {registry : Registry} {method : Option String} {handle : Handle}
    (hmem : handle ∈ registry.snapshot selector method) : registry.activeCount ≠ 0 := by
  rw [Registry.snapshot_eq] at hmem
  obtain ⟨slot, hslot, -⟩ := List.mem_map.1 hmem
  obtain ⟨hslot, hinPool⟩ := Registry.mem_pool.1 (Registry.mem_queue.1 hslot)
  simp only [Slot.inPool, Bool.and_eq_true] at hinPool
  exact Nat.ne_of_gt (List.countP_pos_iff.2 ⟨slot, hslot, hinPool.1.1.1⟩)

/-- An outcome that leads to a pool begins a dispatch to it. -/
lemma begin_of_selector {outcome : Outcome} (hselector : outcome.selector? = some selector)
    (dispatcher : Dispatcher) (request : Request) :
    dispatcher.begin request outcome = dispatcher.beginPooled request selector := by
  cases outcome with
  | routeDefault =>
    cases hselector
    rfl
  | routeByTag tag =>
    cases hselector
    rfl
  | _ => cases hselector

/-- A dispatch to a pool that is not empty may ask as many connections as there are. -/
lemma dispatch_of_snapshot_eq_cons {outcome : Outcome}
    (hselector : outcome.selector? = some selector) {handle : Handle} {rest : List Handle}
    (hsnapshot : before.registry.snapshot selector (some request.method) = handle :: rest) :
    before.dispatch time answers request outcome =
      pursue time answers (handle :: rest).length
        (before.tryNext request selector (handle :: rest).length []) := by
  have hactive : before.registry.activeCount ≠ 0 :=
    activeCount_ne_zero (hsnapshot ▸ List.mem_cons_self)
  have hobserve : before.observe request selector = .ok (rest.length + 1) := by
    rw [observe, hsnapshot]
    rfl
  have hreserve : (before.registry.reserve selector (some request.method) []).2 = some ⟨handle⟩ :=
    Registry.reserve_of_snapshot_eq_cons hsnapshot (by simp)
  have hbegin : before.begin request outcome =
      before.tryNext request selector (rest.length + 1) [] := by
    rw [begin_of_selector hselector, beginPooled, if_neg hactive, hobserve]
  rw [dispatch, hbegin, List.length_cons, tryNext_of_reserve_eq_some hreserve]
  rfl

/-- **One walk.** In every state that is reached, a dispatch to a pool whose transaction is not
bound yet, with the answer of every link fixed and nothing in between, ends as follows. If nobody is
active, or nobody is in the pool, it is rejected at once and nothing has changed. Otherwise it walks
along the snapshot of the pool: the first connection whose peer is not dead decides, by taking the
request or by finding it too large, and if there is none, nobody is connected. Those passed are
closed if they had no calls and drain with their calls otherwise, the deciding one stays active and
has a call more exactly if the request is delivered, those asked are stamped one after another,
everybody else is as before, and the transaction is bound exactly if it is delivered. -/
theorem dispatch_eq_walk {acts : List Act} {before : Dispatcher}
    (hbefore : before = (({} : Traffic).run acts).dispatcher) {request : Request}
    {outcome : Outcome} {selector : Selector} (hselector : outcome.selector? = some selector)
    (hnew : before.callOf request.transactionId = none) (time : Nat)
    (answers : Handle → Except LinkError Unit) :
    (before.registry.activeCount = 0 → before.dispatch time answers request outcome =
        (before, .finished (.rejected .noAppsConnected))) ∧
      (before.registry.activeCount ≠ 0 →
        before.registry.snapshot selector (some request.method) = [] →
        before.dispatch time answers request outcome =
          (before, .finished (.rejected (emptyPool selector)))) ∧
      (before.registry.snapshot selector (some request.method) ≠ [] →
        ∃ after result,
          before.dispatch time answers request outcome = (after, .finished result) ∧
          Walked time answers request.transactionId
            (before.registry.snapshot selector (some request.method)) before after result) := by
  have h : before.registry.Consistent := hbefore ▸ Traffic.consistent_registry_run acts
  refine ⟨fun hnobody => ?_, fun hsomebody hempty => ?_, fun hnonempty => ?_⟩
  · rw [dispatch, begin_of_selector hselector, beginPooled, if_pos hnobody]
  · have hobserve : before.observe request selector = .error (emptyPool selector) := by
      rw [observe, hempty]
      rfl
    rw [dispatch, begin_of_selector hselector, beginPooled, if_neg hsomebody, hobserve]
  · cases hsnapshot : before.registry.snapshot selector (some request.method) with
    | nil => exact absurd hsnapshot hnonempty
    | cons handle rest =>
      rw [dispatch_of_snapshot_eq_cons hselector hsnapshot]
      -- nobody has been asked yet
      have hpassed : ∀ other ∈ ([] : List Handle), peerFailed (answers other) = true := by simp
      exact exists_walked hnew (handle :: rest) hpassed (Registry.Searched.refl h) hsnapshot
        (by simp)

/-- Two applications connect. -/
def twoConnected : List Act :=
  [.operate (.add ⟨⟨1, .inbound, .plain, .empty, none, none, 1⟩, .connecting⟩),
    .operate (.add ⟨⟨2, .inbound, .plain, .empty, none, none, 2⟩, .connecting⟩)]

/-- The peer of the first one is dead, and the second one takes requests. -/
def firstDead (handle : Handle) : Except LinkError Unit :=
  if handle.id = 1 then .error .closed else .ok ()

theorem dispatch_eq_walk_firstDead :
    let before := (({} : Traffic).run twoConnected).dispatcher
    let request : Request := { transactionId := "t", method := "INVITE", uri := "sip:callee" }
    Outcome.routeDefault.selector? = some .untagged ∧
      before.callOf request.transactionId = none ∧
      ∃ after, before.dispatch 0 firstDead request .routeDefault =
          (after, .finished (.delivered ⟨2, .inbound, .plain, .empty, none, none, 2⟩)) ∧
        after.calls = [("t", 2)] ∧ after.registry.find? 1 = none ∧
        after.registry.lastSeq = 2 := by
  intro before request
  have hsnapshot : before.registry.snapshot .untagged (some request.method) =
      [⟨1, .inbound, .plain, .empty, none, none, 1⟩,
        ⟨2, .inbound, .plain, .empty, none, none, 2⟩] := by cbv
  obtain ⟨-, -, hwalk⟩ := dispatch_eq_walk (rfl : before = _) (rfl :
    Outcome.routeDefault.selector? = some .untagged) (rfl :
      before.callOf request.transactionId = none) 0 firstDead
  rw [hsnapshot] at hwalk
  obtain ⟨after, result, hdispatch, hwalked⟩ := hwalk (by simp)
  obtain ⟨rfl, hcalls, htraversed⟩ := hwalked.accepted _ rfl rfl
  refine ⟨rfl, rfl, after, hdispatch, hcalls, ?_, htraversed.lastSeq_eq⟩
  obtain ⟨slot, hfind, -, hafter⟩ := htraversed.of_dead 0 _ rfl
  have hjoined : before.registry.find? 1 =
      some { handle := ⟨1, .inbound, .plain, .empty, none, none, 1⟩ } := rfl
  obtain rfl : slot = _ := Option.some.inj (hfind.symm.trans hjoined)
  exact hafter.trans (if_pos rfl)

end Dispatcher

end CallDispatch
