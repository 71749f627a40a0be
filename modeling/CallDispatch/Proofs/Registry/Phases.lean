import CallDispatch.Proofs.Registry.Ageing
import CallDispatch.Proofs.Registry.Balance

/-!
# Phases of a connection

A connection that has been registered is active, then drains, and is closed once it is not
registered any more. No operation takes it a step back, unless it registers the id anew
(`rank_phase_le_after`). Only active connections are found: by a look at a pool, by a selection, by
their id, by their uri and by the sweep (`Consistent.hidden`). So from the moment a connection is
not active, its calls can only end (`callsOf_after_le`); and what ends a call or settles a
reservation on a closed connection has no effect (`after_of_closed`).

## Main definitions

* `Registry.phase`, `Registry.callsOf`: how far a connection has come, and the calls it has.
* `Registry.Hidden`: nothing that looks for connections comes upon this one.
* `Op.SettlesOn`: an operation that ends a call or settles a reservation on a connection.
-/

namespace CallDispatch

open Text

lemma EntryState.rank_le_closed (state : EntryState) : state.rank ≤ closed.rank := by
  cases state <;> decide

/-- There is nothing behind the end. -/
lemma EntryState.eq_closed_of_rank_le {state : EntryState} (h : closed.rank ≤ state.rank) :
    state = closed := by
  cases state with
  | closed => rfl
  | _ => exact absurd h (by decide)

namespace Registry

/-- How far a connection has come that was registered once: if it is not registered any more, it is
closed. -/
def phase (registry : Registry) (id : EntryId) : EntryState :=
  (registry.find? id).elim .closed Slot.state

/-- How many calls are counted against a connection. -/
def callsOf (registry : Registry) (id : EntryId) : Nat :=
  (registry.find? id).elim 0 Slot.calls

/-- An operation that ends a call or settles a reservation on a connection. -/
def Op.SettlesOn (op : Op) (id : EntryId) : Prop :=
  op.released? = some id ∨ ∃ reservation, op = .commit reservation ∧ reservation.handle.id = id

/-- Nothing that looks for connections comes upon this one, and no call is reserved on it. -/
structure Hidden (registry : Registry) (id : EntryId) : Prop where
  not_mem_snapshot : ∀ selector method, ∀ handle ∈ registry.snapshot selector method,
    handle.id ≠ id
  not_reserved : ∀ op reservation, registry.reserved? op = some reservation →
    reservation.handle.id ≠ id
  not_findTarget : ∀ uri handle, registry.findTarget uri = some handle → handle.id ≠ id
  not_pruned : ∀ now isAlive, id ∉ (registry.prune now isAlive).2

variable {registry : Registry} {id : EntryId} {slot : Slot}

/-! ## Looking up -/

lemma phase_of_find? (h : registry.find? id = some slot) : registry.phase id = slot.state := by
  rw [phase, h]
  rfl

lemma phase_of_find?_eq_none (h : registry.find? id = none) : registry.phase id = .closed := by
  rw [phase, h]
  rfl

lemma phase_of_mem (h : registry.Ascending) (hslot : slot ∈ registry.slots) :
    registry.phase slot.id = slot.state :=
  phase_of_find? ((find?_eq_some_iff h).2 ⟨hslot, rfl⟩)

lemma callsOf_of_mem (h : registry.Ascending) (hslot : slot ∈ registry.slots) :
    registry.callsOf slot.id = slot.calls := by
  rw [callsOf, (find?_eq_some_iff h).2 ⟨hslot, rfl⟩]
  rfl

/-- A connection that was registered is active, drains or is closed. -/
lemma Consistent.phase_cases (h : registry.Consistent) (id : EntryId) :
    registry.phase id = .active ∨ registry.phase id = .draining ∨
      registry.phase id = .closed := by
  cases hfind : registry.find? id with
  | none => exact Or.inr (Or.inr (phase_of_find?_eq_none hfind))
  | some slot =>
    rw [phase_of_find? hfind]
    rcases (h.sound slot (mem_of_find? hfind)).active_or_draining with hactive | hdraining
    · exact Or.inl hactive
    · exact Or.inr (Or.inl hdraining)

/-- A connection that is not active has come further than that. -/
lemma Consistent.rank_active_lt (h : registry.Consistent) (hphase : registry.phase id ≠ .active) :
    EntryState.active.rank < (registry.phase id).rank := by
  rcases h.phase_cases id with hstate | hstate | hstate
  · exact absurd hstate hphase
  · rw [hstate]
    decide
  · rw [hstate]
    decide

/-- A connection is closed if and only if it is not registered. -/
lemma Consistent.phase_eq_closed_iff (h : registry.Consistent) :
    registry.phase id = .closed ↔ registry.find? id = none := by
  constructor
  · intro hclosed
    cases hfind : registry.find? id with
    | none => rfl
    | some slot =>
      rw [phase_of_find? hfind] at hclosed
      have hstate := (h.sound slot (mem_of_find? hfind)).active_or_draining
      rw [hclosed] at hstate
      rcases hstate with hactive | hdraining
      · cases hactive
      · cases hdraining
  · exact phase_of_find?_eq_none

/-! ## Who is found -/

/-- Calls are reserved on active connections only. -/
lemma phase_of_reserved (h : registry.Consistent) {op : Op} {reservation : Reservation}
    (hreserved : registry.reserved? op = some reservation) :
    registry.phase reservation.handle.id = .active := by
  obtain ⟨slot, hslot, hactive, hhandle⟩ := exists_active_of_reserved hreserved
  rw [← hhandle]
  exact (phase_of_mem h.ascending hslot).trans hactive

/-- A snapshot shows active connections only. -/
lemma phase_of_mem_snapshot (h : registry.Consistent) {selector : Selector}
    {method : Option String} {handle : Handle} (hmem : handle ∈ registry.snapshot selector method) :
    registry.phase handle.id = .active := by
  rw [snapshot_eq] at hmem
  obtain ⟨slot, hqueue, rfl⟩ := List.mem_map.1 hmem
  obtain ⟨hslot, hinPool⟩ := mem_pool.1 (mem_queue.1 hqueue)
  exact (phase_of_mem h.ascending hslot).trans (Slot.active_of_inPool hinPool)

/-- The connection that is found at a uri has the slot of its id, and is active. -/
lemma exists_of_findTarget {uri : String} {handle : Handle}
    (h : registry.findTarget uri = some handle) :
    ∃ slot ∈ registry.slots, slot.state = .active ∧ slot.handle = handle := by
  obtain ⟨slot, hfind, hhandle⟩ := Option.bind_eq_some_iff.1 h
  obtain ⟨id, -, hslot⟩ := Option.bind_eq_some_iff.1 hfind
  split at hhandle
  · next hactive =>
    exact ⟨slot, mem_of_find? hslot, EntryState.isSelectable_iff.1 hactive,
      Option.some.inj hhandle⟩
  · cases hhandle

/-- The sweep drains active connections only. -/
lemma phase_of_mem_dead (h : registry.Consistent) {isAlive : Handle → Bool}
    (hmem : id ∈ registry.dead isAlive) : registry.phase id = .active := by
  obtain ⟨slot, hdead, rfl⟩ := List.mem_map.1 hmem
  obtain ⟨hslot, hactive⟩ := List.mem_filter.1 hdead
  rw [Bool.and_eq_true] at hactive
  exact (phase_of_mem h.ascending hslot).trans (EntryState.isSelectable_iff.1 hactive.1)

/-- A connection that is not active is hidden. -/
lemma Consistent.hidden (h : registry.Consistent) (hphase : registry.phase id ≠ .active) :
    registry.Hidden id where
  not_mem_snapshot := by
    rintro selector method handle hmem rfl
    exact hphase (phase_of_mem_snapshot h hmem)
  not_reserved := by
    rintro op reservation hreserved rfl
    exact hphase (phase_of_reserved h hreserved)
  not_findTarget := by
    rintro uri handle hfound rfl
    obtain ⟨slot, hslot, hactive, rfl⟩ := exists_of_findTarget hfound
    exact hphase ((phase_of_mem h.ascending hslot).trans hactive)
  not_pruned now isAlive hmem := hphase (phase_of_mem_dead h hmem)

/-- No call is reserved on a connection that is hidden. -/
lemma Hidden.reserves_eq_zero (h : registry.Hidden id) (op : Option Op) :
    registry.reserves op id = 0 := by
  rw [reserves, if_neg]
  intro hreserves
  obtain ⟨reservation, hreserved, hid⟩ := Option.map_eq_some_iff.1 hreserves
  obtain ⟨made, -, hmade⟩ := Option.bind_eq_some_iff.1 hreserved
  exact h.not_reserved made reservation hmade hid

/-! ## One operation -/

/-- A connection that is registered after an operation was so before, unless the operation
registered it: it has come no less far, and it has no more calls if it was not active. -/
lemma exists_younger (h : registry.Consistent) {op : Op}
    (hadded : registry.added? op ≠ some id) {slot' : Slot}
    (hfind : (registry.after op).find? id = some slot') :
    ∃ slot ∈ registry.slots, slot.id = id ∧ slot.state.rank ≤ slot'.state.rank ∧
      (slot.state ≠ .active → slot'.calls ≤ slot.calls) := by
  have hid : slot'.id = id := id_of_find? hfind
  cases origin h op (mem_of_find? hfind) with
  | aged slot hslot hages =>
    exact ⟨slot, hslot, hages.id_eq.symm.trans hid, hages.rank_le, fun _ => hages.calls_le⟩
  | engaged slot hslot hactive _ hslot' =>
    subst hslot'
    exact ⟨slot, hslot, hid, Nat.le_refl _, fun hnot => absurd hactive hnot⟩
  | selected slot hslot hactive _ _ hslot' =>
    subst hslot'
    exact ⟨slot, hslot, hid, Nat.le_refl _, fun hnot => absurd hactive hnot⟩
  | added entry _ hnew _ hslot' =>
    subst hslot'
    exact absurd (hnew.trans (congrArg some hid)) hadded

/-- No operation takes a connection a step back, unless it registers it. -/
lemma rank_phase_le_after (h : registry.Consistent) {op : Op}
    (hadded : registry.added? op ≠ some id) :
    (registry.phase id).rank ≤ ((registry.after op).phase id).rank := by
  cases hfind : (registry.after op).find? id with
  | none =>
    rw [phase_of_find?_eq_none hfind]
    exact EntryState.rank_le_closed _
  | some slot' =>
    obtain ⟨slot, hslot, rfl, hrank, -⟩ := exists_younger h hadded hfind
    rw [phase_of_find? hfind, phase_of_mem h.ascending hslot]
    exact hrank

/-- The calls of a connection that is not active can only end. -/
lemma callsOf_after_le (h : registry.Consistent) {op : Op}
    (hadded : registry.added? op ≠ some id) (hphase : registry.phase id ≠ .active) :
    (registry.after op).callsOf id ≤ registry.callsOf id := by
  cases hfind : (registry.after op).find? id with
  | none =>
    rw [callsOf, hfind]
    exact Nat.zero_le _
  | some slot' =>
    obtain ⟨slot, hslot, rfl, -, hcalls⟩ := exists_younger h hadded hfind
    rw [phase_of_mem h.ascending hslot] at hphase
    rw [callsOf, hfind, callsOf_of_mem h.ascending hslot]
    exact hcalls hphase

/-- Ending a call or settling a reservation on a connection that is closed has no effect. -/
lemma after_of_closed (h : registry.Consistent) (hclosed : registry.phase id = .closed) {op : Op}
    (hop : op.SettlesOn id) : registry.after op = registry := by
  have hfind : registry.find? id = none := h.phase_eq_closed_iff.1 hclosed
  have hrelease : (registry.release id).1 = registry := by
    rw [release, hfind]
  rcases hop with hreleased | ⟨reservation, rfl, -⟩
  · cases op with
    | release id' =>
      cases hreleased
      exact hrelease
    | rollBack reservation =>
      cases hreleased
      exact hrelease
    | abandonDead now reservation =>
      cases hreleased
      rw [after, abandonDead, rollBack, hrelease, beginDrain, hfind]
    | _ => cases hreleased
  · rfl

end Registry

end CallDispatch
