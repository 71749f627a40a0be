import CallDispatch.Proofs.Dispatch.Traffic
import CallDispatch.Proofs.Registry.Cache

/-!
# One sweep

A sweep drains the connections whose links are dead, closes those that drain for too long, and
forgets the calls of those that are closed. Its first two parts collect the ids they are about
before they do anything, and draining may close connections on the way. Since ids are distinct and
draining twice is draining once, each part nevertheless does to every slot what that slot alone
calls for (`Consistent.slots_prune`, `Ascending.mem_slots_expire`). What is left is therefore
nothing that a sweep at the same time would find (`sweep_settles`).

## Main definitions

* `Slot.isLost`: the sweep has to drain a connection.
* `Registry.swept`: what a sweep leaves of a registry.
* `Dispatcher.Swept`: what a sweep leaves of a dispatcher, said of each connection and each call.
-/

namespace CallDispatch

namespace Slot

/-- Whether a connection is active with a dead link. -/
def isLost (isAlive : Handle → Bool) (slot : Slot) : Bool :=
  slot.state.isSelectable && !isAlive slot.handle

variable {slot slot' : Slot} {now : Nat} {isAlive : Handle → Bool}

lemma isLost_iff :
    slot.isLost isAlive = true ↔ slot.state = .active ∧ isAlive slot.handle = false := by
  rw [isLost, Bool.and_eq_true, EntryState.isSelectable_iff, Bool.not_eq_true']

/-- A connection that stays registered when it is told to drain is left alone the next time. -/
lemma drained_of_drained (h : slot.drained now = some slot') : slot'.drained now = some slot' := by
  rcases drained_cases h with ⟨hcannot, rfl⟩ | rfl
  · exact h
  · rfl

/-- An active connection that stays registered when it is told to drain drains since then. -/
lemma draining_of_drained (hactive : slot.state = .active) (h : slot.drained now = some slot') :
    slot'.state = .draining ∧ slot'.drainingSince = some now := by
  rcases drained_cases h with ⟨hcannot, -⟩ | rfl
  · rw [hactive] at hcannot
    cases hcannot
  · exact ⟨rfl, rfl⟩

end Slot

namespace Registry

variable {registry : Registry} {slot : Slot} {now timeout : Nat} {isAlive : Handle → Bool}

/-! ## Collecting ids -/

/-- An id is among those of some slots exactly if its own slot is among them. -/
lemma Ascending.id_mem_map_filter (h : registry.Ascending) {p : Slot → Bool}
    (hslot : slot ∈ registry.slots) :
    slot.id ∈ (registry.slots.filter p).map Slot.id ↔ p slot = true := by
  rw [List.mem_map]
  constructor
  · rintro ⟨other, hother, hid⟩
    obtain ⟨hmem, hp⟩ := List.mem_filter.1 hother
    rwa [← h.eq_of_id_eq hmem hslot hid]
  · exact fun hp => ⟨slot, List.mem_filter.2 ⟨hslot, hp⟩, rfl⟩

/-! ## Draining dead connections -/

/-- Each of the connections is drained, however often it is listed. -/
lemma Consistent.slots_drainAll (h : registry.Consistent) (now : Nat) (ids : List EntryId) :
    (registry.drainAll now ids).slots =
      registry.slots.filterMap fun slot => if slot.id ∈ ids then slot.drained now else some slot := by
  induction ids generalizing registry with
  | nil => simp [drainAll]
  | cons id rest ih =>
    show ((registry.beginDrain now id).1.drainAll now rest).slots = _
    rw [ih (h.beginDrain now id), slots_beginDrain h.ascending, alter, List.filterMap_filterMap]
    refine List.filterMap_congr fun slot _ => ?_
    by_cases hid : slot.id = id
    · -- it is drained now, and the rest of the list does not change it any more
      rw [if_pos hid, if_pos (hid ▸ List.mem_cons_self)]
      cases hdrained : slot.drained now with
      | none => rfl
      | some slot' =>
        rw [Option.bind_some, Slot.drained_of_drained hdrained, ite_self]
    · have hrest : slot.id ∈ id :: rest ↔ slot.id ∈ rest := by simp [hid]
      rw [if_neg hid, Option.bind_some]
      simp only [hrest]

/-- The active connections with dead links are drained, and nothing happens to the others. -/
lemma Consistent.slots_prune (h : registry.Consistent) :
    (registry.prune now isAlive).1.slots =
      registry.slots.filterMap fun slot =>
        if slot.isLost isAlive = true then slot.drained now else some slot := by
  refine (h.slots_drainAll now (registry.dead isAlive)).trans ?_
  refine List.filterMap_congr fun slot hslot => ?_
  have hdead : slot.id ∈ registry.dead isAlive ↔ slot.isLost isAlive = true :=
    h.ascending.id_mem_map_filter hslot
  simp only [hdead]

lemma Consistent.prune (h : registry.Consistent) (now : Nat) (isAlive : Handle → Bool) :
    (registry.prune now isAlive).1.Consistent :=
  kept_consistent.after (.prune now isAlive) h

/-! ## Closing overdue connections -/

lemma mem_slots_closeAll {ids : List EntryId} :
    slot ∈ (registry.closeAll ids).1.slots ↔ slot ∈ registry.slots ∧ slot.id ∉ ids := by
  induction ids generalizing registry with
  | nil => simp [closeAll]
  | cons id rest ih =>
    show slot ∈ ((registry.close id).1.closeAll rest).1.slots ↔ _
    rw [ih, mem_slots_close, List.mem_cons, not_or, and_assoc]

/-- A connection that began to drain at some time is not overdue before the timeout. -/
lemma isOverdue_eq_false_iff {since : Nat} (hsince : slot.drainingSince = some since) :
    isOverdue now timeout slot = false ↔ now - since < timeout := by
  rw [isOverdue, hsince]
  simp

/-- An active connection is not overdue. -/
lemma isOverdue_of_active (hsound : slot.Sound) (hactive : slot.state = .active) :
    isOverdue now timeout slot = false := by
  have hsince : slot.drainingSince = none := by
    rw [← Option.not_isSome_iff_eq_none, hsound.isSome_since, hactive]
    exact EntryState.noConfusion
  rw [isOverdue, hsince]
  rfl

/-- The connections that drain for too long are closed, and nothing happens to the others. -/
lemma Ascending.mem_slots_expire (h : registry.Ascending) :
    slot ∈ (registry.expire now timeout).1.slots ↔
      slot ∈ registry.slots ∧ isOverdue now timeout slot = false := by
  rw [expire, mem_slots_closeAll]
  refine and_congr_right fun hslot => ?_
  rw [h.id_mem_map_filter hslot, Bool.not_eq_true]

/-! ## Both, one after the other -/

/-- What a sweep leaves of a registry. -/
def swept (registry : Registry) (now timeout : Nat) (isAlive : Handle → Bool) : Registry :=
  ((registry.prune now isAlive).1.expire now timeout).1

/-- A connection is registered after a sweep if it is not overdue, nor was before, or has only begun
to drain. -/
lemma Consistent.mem_slots_swept (h : registry.Consistent) :
    slot ∈ (registry.swept now timeout isAlive).slots ↔
      (slot ∈ registry.slots ∧ slot.isLost isAlive = false ∨
        ∃ old ∈ registry.slots, old.isLost isAlive = true ∧ old.drained now = some slot) ∧
      isOverdue now timeout slot = false := by
  rw [swept, (h.prune now isAlive).ascending.mem_slots_expire, h.slots_prune, List.mem_filterMap]
  refine and_congr_left fun _ => ?_
  constructor
  · rintro ⟨old, hold, hleft⟩
    split at hleft
    · next hlost => exact Or.inr ⟨old, hold, hlost, hleft⟩
    · next hkept =>
      cases hleft
      exact Or.inl ⟨hold, Bool.eq_false_iff.2 hkept⟩
  · rintro (⟨hslot, hkept⟩ | ⟨old, hold, hlost, hdrained⟩)
    · exact ⟨slot, hslot, if_neg (Bool.eq_false_iff.1 hkept)⟩
    · exact ⟨old, hold, (if_pos hlost).trans hdrained⟩

lemma Consistent.swept (h : registry.Consistent) (now timeout : Nat) (isAlive : Handle → Bool) :
    (registry.swept now timeout isAlive).Consistent :=
  kept_consistent.after (.expire now timeout) (h.prune now isAlive)

/-- What draining and closing keeps is kept by a sweep. -/
lemma Closing.swept {P : Registry → Prop} (h : Closing P) (hP : P registry) :
    P (registry.swept now timeout isAlive) :=
  h.closeAll _ (h.drainAll now _ hP)

/-- After a sweep no connection has a dead link any more. -/
lemma Consistent.isLost_swept (h : registry.Consistent)
    (hslot : slot ∈ (registry.swept now timeout isAlive).slots) : slot.isLost isAlive = false := by
  obtain ⟨⟨-, hkept⟩ | ⟨old, -, hlost, hdrained⟩, -⟩ := h.mem_slots_swept.1 hslot
  · exact hkept
  · have hdraining := Slot.draining_of_drained (Slot.isLost_iff.1 hlost).1 hdrained
    rw [Slot.isLost, hdraining.1]
    rfl

/-- Nobody is drained where no active connection has a dead link. -/
lemma prune_of_not_isLost (h : ∀ slot ∈ registry.slots, slot.isLost isAlive = false) :
    registry.prune now isAlive = (registry, []) := by
  have hnone : registry.slots.filter (Slot.isLost isAlive) = [] :=
    List.filter_eq_nil_iff.2 fun slot hslot => Bool.eq_false_iff.1 (h slot hslot)
  have hdead : registry.dead isAlive = [] := congrArg (List.map Slot.id) hnone
  rw [prune, hdead]
  rfl

/-- Nobody is closed where no connection drains for too long. -/
lemma expire_of_not_isOverdue (h : ∀ slot ∈ registry.slots, isOverdue now timeout slot = false) :
    registry.expire now timeout = (registry, []) := by
  have hnone : registry.slots.filter (isOverdue now timeout) = [] :=
    List.filter_eq_nil_iff.2 fun slot hslot => Bool.eq_false_iff.1 (h slot hslot)
  rw [expire, hnone]
  rfl

end Registry

namespace Dispatcher

open Registry

variable {before after : Dispatcher} {now timeout : Nat} {isAlive : Handle → Bool}

/-- What a sweep does to a dispatcher, part by part. -/
lemma sweep_eq (dispatcher : Dispatcher) (now timeout : Nat) (isAlive : Handle → Bool) :
    dispatcher.sweep now timeout isAlive =
      (({ dispatcher with registry := dispatcher.registry.swept now timeout isAlive } :
          Dispatcher).purgeClosed.1,
        ((dispatcher.registry.prune now isAlive).1.expire now timeout).2,
        ({ dispatcher with registry := dispatcher.registry.swept now timeout isAlive } :
          Dispatcher).purgeClosed.2) := rfl

/-- What a sweep leaves of a dispatcher. -/
structure Swept (now timeout : Nat) (isAlive : Handle → Bool) (before after : Dispatcher) :
    Prop where
  /-- Every active connection has a link that is alive. -/
  alive : ∀ slot ∈ after.registry.slots, slot.state = .active → isAlive slot.handle = true
  /-- No connection has been draining for as long as the timeout. -/
  recent : ∀ slot ∈ after.registry.slots, slot.state = .draining →
    ∃ since, slot.drainingSince = some since ∧ now - since < timeout
  /-- Exactly the calls of registered connections are left. -/
  calls_eq : after.calls = before.calls.filter (after.registry.contains ·.2)
  /-- An active connection whose link is alive is as it was. -/
  of_alive : ∀ slot ∈ before.registry.slots, slot.state = .active → isAlive slot.handle = true →
    slot ∈ after.registry.slots
  /-- A connection that has not been draining for as long as the timeout is as it was. -/
  of_recent : ∀ slot ∈ before.registry.slots, slot.state = .draining → ∀ since,
    slot.drainingSince = some since → now - since < timeout → slot ∈ after.registry.slots
  /-- The uris of registered connections lead where they led. -/
  outbound_iff : ∀ uri id, (uri, id) ∈ after.registry.outbound ↔
    (uri, id) ∈ before.registry.outbound ∧ after.registry.contains id = true

/-- A sweep leaves every slot active, or draining with calls left. -/
lemma sound_sweep (h : before.registry.Consistent) :
    ∀ slot ∈ (before.sweep now timeout isAlive).1.registry.slots, slot.Sound :=
  (h.swept now timeout isAlive).sound

/-- A sweep leaves what it should of a dispatcher whose registry is consistent. -/
lemma swept_of_sweep (h : before.registry.Consistent)
    (hafter : (before.sweep now timeout isAlive).1 = after) :
    Swept now timeout isAlive before after := by
  have hregistry : after.registry = before.registry.swept now timeout isAlive := by
    rw [← hafter]
    rfl
  have hcalls : after.calls = before.calls.filter (after.registry.contains ·.2) := by
    rw [← hafter]
    rfl
  have hsound : ∀ slot ∈ after.registry.slots, slot.Sound := hafter ▸ sound_sweep h
  refine ⟨fun slot hslot hactive => ?_, fun slot hslot hdraining => ?_, hcalls,
    fun slot hslot hactive halive => ?_, fun slot hslot hdraining since hsince hrecent => ?_, ?_⟩
  · rw [hregistry] at hslot
    have hkept := h.isLost_swept hslot
    rw [Slot.isLost, EntryState.isSelectable_iff.2 hactive] at hkept
    simpa using hkept
  · obtain ⟨since, hsince⟩ :=
      Option.isSome_iff_exists.1 ((hsound slot hslot).isSome_since.2 hdraining)
    rw [hregistry] at hslot
    exact ⟨since, hsince, (isOverdue_eq_false_iff hsince).1 (h.mem_slots_swept.1 hslot).2⟩
  · rw [hregistry, h.mem_slots_swept]
    refine ⟨Or.inl ⟨hslot, ?_⟩, isOverdue_of_active (h.sound slot hslot) hactive⟩
    rw [Slot.isLost, halive, Bool.not_true, Bool.and_false]
  · rw [hregistry, h.mem_slots_swept, isOverdue_eq_false_iff hsince]
    refine ⟨Or.inl ⟨hslot, ?_⟩, hrecent⟩
    rw [Slot.isLost, hdraining]
    rfl
  · rw [hregistry]
    exact ((waning_keepsUris before.registry).toClosing.swept ⟨h, h.mem_outbound_iff⟩).2

/-- Nothing is purged where every call is that of a registered connection. -/
lemma purgeClosed_of_registered {dispatcher : Dispatcher}
    (h : ∀ call ∈ dispatcher.calls, dispatcher.registry.contains call.2 = true) :
    dispatcher.purgeClosed = (dispatcher, 0) := by
  simp only [purgeClosed, List.filter_eq_self.2 h, Nat.sub_self]

/-- A sweep that finds nothing due changes nothing. -/
lemma Swept.sweep_eq_self (h : Swept now timeout isAlive before after)
    (hsound : ∀ slot ∈ after.registry.slots, slot.Sound) :
    after.registry.prune now isAlive = (after.registry, []) ∧
      after.sweep now timeout isAlive = (after, [], 0) := by
  have hprune : after.registry.prune now isAlive = (after.registry, []) := by
    refine prune_of_not_isLost fun slot hslot => Bool.eq_false_iff.2 fun hlost => ?_
    obtain ⟨hactive, hdead⟩ := Slot.isLost_iff.1 hlost
    rw [h.alive slot hslot hactive] at hdead
    cases hdead
  have hexpire : after.registry.expire now timeout = (after.registry, []) := by
    refine expire_of_not_isOverdue fun slot hslot => ?_
    rcases (hsound slot hslot).active_or_draining with hactive | hdraining
    · exact isOverdue_of_active (hsound slot hslot) hactive
    · obtain ⟨since, hsince, hrecent⟩ := h.recent slot hslot hdraining
      exact (isOverdue_eq_false_iff hsince).2 hrecent
  have hpurge : after.purgeClosed = (after, 0) := by
    refine purgeClosed_of_registered fun call hcall => ?_
    rw [h.calls_eq] at hcall
    exact (List.mem_filter.1 hcall).2
  refine ⟨hprune, ?_⟩
  have hswept : after.registry.swept now timeout isAlive = after.registry := by
    rw [swept, hprune, hexpire]
  rw [sweep_eq, hswept, hprune, hexpire, hpurge]

/-- **One sweep.** In every state that is reached, with the time and the answer of every link fixed,
a sweep leaves no active connection whose link is dead and none that has been draining for the
timeout or longer. The calls of registered connections are left, and no others, and the sweep says
how many it has dropped. The active connections with links that are alive, and those that have been
draining for less than the timeout, are as they were. Another sweep at once drains, closes and drops
nothing, and changes nothing. -/
theorem sweep_settles {acts : List Act} (hbefore : before = (({} : Traffic).run acts).dispatcher)
    {expired : List Handle} {purged : Nat}
    (hsweep : before.sweep now timeout isAlive = (after, expired, purged)) :
    Swept now timeout isAlive before after ∧
      purged + after.calls.length = before.calls.length ∧
      after.registry.prune now isAlive = (after.registry, []) ∧
      after.sweep now timeout isAlive = (after, [], 0) := by
  have h : before.registry.Consistent := hbefore ▸ Traffic.consistent_registry_run acts
  have hafter : (before.sweep now timeout isAlive).1 = after := congrArg Prod.fst hsweep
  have hpurged : before.calls.length - after.calls.length = purged := by
    rw [← hafter]
    exact congrArg (fun results => results.2.2) hsweep
  have hswept := swept_of_sweep h hafter
  have hle : after.calls.length ≤ before.calls.length := by
    rw [hswept.calls_eq]
    exact List.length_filter_le _ _
  have hsound : ∀ slot ∈ after.registry.slots, slot.Sound := hafter ▸ sound_sweep h
  refine ⟨hswept, ?_, hswept.sweep_eq_self hsound⟩
  rw [← hpurged, Nat.sub_add_cancel hle]

/-- Four applications connect; a call is delivered to the first of them, which drains then, and
another one is reserved on the second. -/
def fourConnected : List Act :=
  [.operate (.add ⟨⟨1, .outbound, .plain, .empty, some "sip:app", none, 1⟩, .connecting⟩),
    .start { transactionId := "t", method := "INVITE", uri := "sip:callee" }
      (.routeByUri "sip:app"),
    .flight 0 .step,
    .flight 0 .step,
    .flight 0 (.answer 0 (.ok ())),
    .operate (.beginDrain 5 1),
    .operate (.add ⟨⟨2, .inbound, .plain, .empty, none, none, 2⟩, .connecting⟩),
    .operate (.reserveEntry 2),
    .operate (.add ⟨⟨3, .inbound, .plain, .empty, none, none, 3⟩, .connecting⟩),
    .operate (.add ⟨⟨4, .inbound, .plain, .empty, none, none, 4⟩, .connecting⟩)]

/-- The second and the third one have dead links when the first one is overdue. -/
theorem sweep_settles_fourConnected :
    let before := (({} : Traffic).run fourConnected).dispatcher
    let isAlive : Handle → Bool := fun handle => handle.id ∉ [2, 3]
    let swept := before.sweep 15 10 isAlive
    before.calls = [("t", 1)] ∧ swept.1.calls = [] ∧ swept.2.2 = 1 ∧
      swept.1.registry.slots.map (fun slot => (slot.id, slot.state)) =
        [(2, .draining), (4, .active)] ∧
      swept.1.sweep 15 10 isAlive = (swept.1, [], 0) := by
  intro before isAlive swept
  obtain ⟨-, -, -, hagain⟩ := sweep_settles (rfl : before = _)
    (Prod.mk.eta.symm : before.sweep 15 10 isAlive = _)
  exact ⟨by decide, by decide, by decide, by decide, hagain⟩

end Dispatcher

end CallDispatch
