import CallDispatch.Proofs.Registry.Consistency

/-!
# What is left of a connection

When a connection is told to drain and calls of it end, any number of times and in any order, only
this matters in the end, apart from the time at which it began to drain: how many calls were ended,
and whether it was told to drain at all. For what is left of its slot (`Slot.settled`) the numbers
add up and the drains join (`Slot.settled_settled`), so an operation may be counted before whatever
comes behind it (`Consistent.beginDrain_settled`, `Consistent.release_settled`). A sweep that finds
no other dead link tells the connection to drain and does nothing else
(`Consistent.prune_eq_beginDrain`).

## Main definitions

* `Slot.settled`: a slot after so many calls were ended, and after it was told to drain or not.
* `Registry.DrainsSince`: a connection drains since some time, or is closed.
-/

namespace CallDispatch

/-! ## Slots -/

namespace Slot

variable {slot : Slot}

/-- What is left of a slot when so many calls were ended, and when the connection was told to drain
or not, apart from the time; none if the connection closed. -/
def settled (ended : Nat) (drains : Bool) (slot : Slot) : Option Slot :=
  if (drains = true ∨ slot.state = .draining) ∧ slot.calls ≤ ended then none
  else some { slot with
    state := if drains then .draining else slot.state
    calls := slot.calls - ended
    drainingSince := none }

/-- Ended calls add up, and being told to drain once is enough. -/
lemma settled_settled (slot : Slot) (ended ended' : Nat) (drains drains' : Bool) :
    (slot.settled ended drains).bind (settled ended' drains') =
      slot.settled (ended + ended') (drains || drains') := by
  by_cases hclosed : (drains = true ∨ slot.state = .draining) ∧ slot.calls ≤ ended
  · have hmore : ((drains || drains') = true ∨ slot.state = .draining) ∧
        slot.calls ≤ ended + ended' := by
      refine ⟨hclosed.1.imp_left fun h => by rw [h, Bool.true_or], ?_⟩
      exact Nat.le_trans hclosed.2 (Nat.le_add_right ended ended')
    rw [settled, if_pos hclosed, settled, if_pos hmore, Option.bind_none]
  · have hdrains : (drains' = true ∨ (if drains = true then EntryState.draining else slot.state) =
        .draining) ↔ ((drains || drains') = true ∨ slot.state = .draining) := by
      cases drains <;> cases drains' <;> simp
    have hcalls : slot.calls - ended ≤ ended' ↔ slot.calls ≤ ended + ended' := by
      omega
    rw [settled, if_neg hclosed, Option.bind_some, settled, settled]
    simp only [hdrains, hcalls]
    split
    · rfl
    · have hstate : (if drains' = true then EntryState.draining
          else if drains = true then .draining else slot.state) =
          if (drains || drains') = true then .draining else slot.state := by
        cases drains <;> cases drains' <;> rfl
      rw [hstate, Nat.sub_sub]

/-- Being told to drain. -/
lemma drained_bind_settled (h : slot.Sound) (now ended : Nat) (drains : Bool) :
    (slot.drained now).bind (settled ended drains) = slot.settled ended true := by
  have htold : (slot.drained now).bind (settled ended drains) =
      (slot.settled 0 true).bind (settled ended drains) := by
    unfold drained
    rcases h.active_or_draining with hactive | hdraining
    · rw [if_pos (h.canBecome_draining (by rw [hactive]; simp))]
      by_cases hidle : slot.calls = 0
      · rw [if_pos hidle, settled, if_pos ⟨Or.inl rfl, Nat.le_of_eq hidle⟩]
      · have hbusy : ¬((true = true ∨ slot.state = .draining) ∧ slot.calls ≤ 0) := by
          omega
        rw [if_neg hidle, settled, if_neg hbusy]
        rfl
    · have hbusy : ¬((true = true ∨ slot.state = .draining) ∧ slot.calls ≤ 0) := by
        have hpos := h.calls_pos hdraining
        omega
      rw [if_neg (by rw [hdraining]; decide), settled, if_neg hbusy, Option.bind_some,
        Option.bind_some, if_pos rfl, ← hdraining]
      rfl
  rw [htold, settled_settled, Nat.zero_add, Bool.true_or]

/-- Ending a call. -/
lemma released_bind_settled (slot : Slot) (ended : Nat) (drains : Bool) :
    slot.released.bind (settled ended drains) = slot.settled (ended + 1) drains := by
  have hended : slot.released.bind (settled ended drains) =
      (slot.settled 1 false).bind (settled ended drains) := by
    have hiff : (slot.state = .draining ∧ slot.calls - 1 = 0) ↔
        (false = true ∨ slot.state = .draining) ∧ slot.calls ≤ 1 := by
      rw [Bool.false_eq_true, false_or]
      exact and_congr_right fun _ => by omega
    unfold released
    by_cases hlast : slot.state = .draining ∧ slot.calls - 1 = 0
    · rw [if_pos hlast, settled, if_pos (hiff.1 hlast)]
    · rw [if_neg hlast, settled, if_neg (mt hiff.2 hlast)]
      rfl
  rw [hended, settled_settled, Nat.add_comm, Bool.false_or]

/-- A connection to which nothing happens stays, if it does not drain without a call. -/
lemma settled_zero (h : slot.Sound) :
    slot.settled 0 false = some { slot with drainingSince := none } := by
  have hstays : ¬((false = true ∨ slot.state = .draining) ∧ slot.calls ≤ 0) := by
    rintro ⟨hfalse | hdraining, hzero⟩
    · cases hfalse
    · have hpos := h.calls_pos hdraining
      omega
  rw [settled, if_neg hstays]
  rfl

end Slot

namespace Registry

variable {registry : Registry} {id : EntryId}

/-! ## Registries -/

/-- Whatever happens to a connection first, what is settled then can be settled of the slot that it
had. -/
lemma Consistent.become_settled (h : registry.Consistent) {change : Slot → Option Slot}
    (hkeeps : KeepsHandle change) {ended ended' : Nat} {drains drains' : Bool}
    (hchange : ∀ slot : Slot, slot.Sound →
      (change slot).bind (Slot.settled ended drains) = slot.settled ended' drains') :
    (registry.become id change).become id (Slot.settled ended drains) =
      registry.become id (Slot.settled ended' drains') := by
  rw [become_become h.ascending hkeeps]
  cases hfind : registry.find? id with
  | none => rw [become_of_find?_eq_none hfind, become_of_find?_eq_none hfind]
  | some slot =>
    exact become_congr h.ascending hfind (hchange slot (h.sound slot (mem_of_find? hfind)))

/-- Telling the connection to drain first. -/
lemma Consistent.beginDrain_settled (h : registry.Consistent) (now ended : Nat) (drains : Bool) :
    (registry.beginDrain now id).1.become id (Slot.settled ended drains) =
      registry.become id (Slot.settled ended true) := by
  rw [beginDrain_eq_become h.ascending]
  exact h.become_settled (keepsHandle_drained now) fun slot hsound =>
    Slot.drained_bind_settled hsound now ended drains

/-- Ending a call first. -/
lemma Consistent.release_settled (h : registry.Consistent) (ended : Nat) (drains : Bool) :
    (registry.release id).1.become id (Slot.settled ended drains) =
      registry.become id (Slot.settled (ended + 1) drains) := by
  rw [release_eq_become h.ascending]
  exact h.become_settled keepsHandle_released fun slot _ =>
    slot.released_bind_settled ended drains

/-- If nothing has happened to a connection, only the time is forgotten at which it began to
drain. -/
lemma Consistent.become_settled_zero (h : registry.Consistent) (id : EntryId) :
    registry.become id (Slot.settled 0 false) =
      registry.update id fun slot => { slot with drainingSince := none } := by
  cases hfind : registry.find? id with
  | none =>
    rw [become_of_find?_eq_none hfind]
    refine (update_of_keep fun slot hslot hid => ?_).symm
    exact absurd hid (find?_eq_none_iff.1 hfind slot hslot)
  | some slot =>
    have hsettled : slot.settled 0 false = some { slot with drainingSince := none } :=
      Slot.settled_zero (h.sound slot (mem_of_find? hfind))
    rw [become_of_eq_some hfind hsettled]
    apply update_congr
    intro other hother hid
    rw [h.ascending.eq_of_find? hfind hother hid, hsettled, Option.getD_some]

/-- If the link of one connection only is dead, a sweep finds that connection if it is active, and
nothing otherwise. -/
lemma mem_dead_of_only {isAlive : Handle → Bool}
    (hdead : ∀ slot ∈ registry.slots, isAlive slot.handle = decide (slot.id ≠ id))
    {other : EntryId} :
    other ∈ registry.dead isAlive ↔
      other = id ∧ ∃ slot ∈ registry.slots, slot.id = id ∧ slot.state = .active := by
  simp only [dead, List.mem_map, List.mem_filter, Bool.and_eq_true, Bool.not_eq_true']
  constructor
  · rintro ⟨slot, ⟨hslot, hactive, hnot⟩, rfl⟩
    rw [hdead slot hslot, decide_eq_false_iff_not, not_not] at hnot
    exact ⟨hnot, slot, hslot, hnot, EntryState.isSelectable_iff.1 hactive⟩
  · rintro ⟨rfl, slot, hslot, hid, hactive⟩
    refine ⟨slot, ⟨hslot, EntryState.isSelectable_iff.2 hactive, ?_⟩, hid⟩
    rw [hdead slot hslot, decide_eq_false_iff_not, not_not]
    exact hid

/-- A connection that is not active does not begin to drain. -/
lemma Consistent.beginDrain_eq_self (h : registry.Consistent) (now : Nat)
    (hnone : ¬∃ slot ∈ registry.slots, slot.id = id ∧ slot.state = .active) :
    (registry.beginDrain now id).1 = registry := by
  cases hfind : registry.find? id with
  | none => rw [Registry.beginDrain, hfind]
  | some slot =>
    have hslot := mem_of_find? hfind
    have hdraining : slot.state = .draining := (h.sound slot hslot).active_or_draining.resolve_left
      fun hactive => hnone ⟨slot, hslot, id_of_find? hfind, hactive⟩
    simp only [Registry.beginDrain, hfind, if_pos hdraining]

/-- The sweep drains a connection if it is the only one whose link is dead. -/
lemma Consistent.prune_eq_beginDrain (h : registry.Consistent) (now : Nat) {isAlive : Handle → Bool}
    (hdead : ∀ slot ∈ registry.slots, isAlive slot.handle = decide (slot.id ≠ id)) :
    (registry.prune now isAlive).1 = (registry.beginDrain now id).1 := by
  have hprune : (registry.prune now isAlive).1 =
      registry.drainAll now (registry.dead isAlive) := rfl
  rw [hprune]
  by_cases hactive : ∃ slot ∈ registry.slots, slot.id = id ∧ slot.state = .active
  · have hnodup : (registry.dead isAlive).Nodup :=
      h.ascending.nodup_ids.sublist (List.filter_sublist.map Slot.id)
    have hone : registry.dead isAlive = [id] := by
      apply List.perm_singleton.1
      refine (List.perm_ext_iff_of_nodup hnodup (List.nodup_singleton id)).2 fun other => ?_
      rw [mem_dead_of_only hdead, List.mem_singleton]
      exact and_iff_left hactive
    rw [hone]
    rfl
  · have hnone : registry.dead isAlive = [] :=
      List.eq_nil_iff_forall_not_mem.2 fun other hother =>
        hactive ((mem_dead_of_only hdead).1 hother).2
    rw [hnone, h.beginDrain_eq_self now hactive]
    rfl

/-! ## When it began to drain -/

/-- A connection drains since some time, or is closed. -/
def DrainsSince (registry : Registry) (id : EntryId) (since : Option Nat) : Prop :=
  ∀ slot ∈ registry.slots, slot.id = id → slot.state = .draining ∧ slot.drainingSince = since

/-- Nothing that ends calls, drains and closes changes the time since which a connection drains. -/
lemma waning_drainsSince (id : EntryId) (since : Option Nat) :
    Waning fun registry => registry.Consistent ∧ registry.DrainsSince id since := by
  refine ⟨⟨fun {registry} other h => ⟨h.1.close other, fun slot hslot => ?_⟩,
    fun {registry} now other h => ⟨h.1.beginDrain now other, fun slot hslot hid => ?_⟩⟩,
    fun {registry} other h => ⟨h.1.release other, fun slot hslot hid => ?_⟩⟩
  · exact h.2 slot (mem_slots_close.1 hslot).1
  · rw [slots_beginDrain h.1.ascending] at hslot
    rcases mem_alter.1 hslot with ⟨hmem, -⟩ | ⟨old, hold, hother, hdrained⟩
    · exact h.2 slot hmem hid
    · have hsame : old.id = id := by
        rw [← hid, Slot.id, Slot.id, keepsHandle_drained now old slot hdrained]
      have hdrains := h.2 old hold hsame
      -- it drains already, so it keeps its slot
      have hkeeps : old.drained now = some old := by
        rw [Slot.drained, hdrains.1, if_neg (by decide)]
      rw [hkeeps] at hdrained
      cases hdrained
      exact hdrains
  · rw [slots_release h.1.ascending] at hslot
    rcases mem_alter.1 hslot with ⟨hmem, -⟩ | ⟨old, hold, hother, hreleased⟩
    · exact h.2 slot hmem hid
    · have hsame : old.id = id := by
        rw [← hid, Slot.id, Slot.id, keepsHandle_released old slot hreleased]
      rw [Slot.eq_of_released hreleased]
      exact h.2 old hold hsame

end Registry

end CallDispatch
