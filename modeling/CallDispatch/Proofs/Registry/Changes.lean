import CallDispatch.Proofs.Registry.Slots

/-!
# Changes of one connection

Telling a connection to drain, ending a call of it and closing it all do the same: the slot of the
connection is replaced, or the connection closes, and then its uri is forgotten as well. `become` is
that change, for whatever is to become of the slot. One change after the other is a change again
(`become_become`), and what it does to the list of slots is what `alter` does (`slots_become`).

## Main definitions

* `Registry.become`: the slot of a connection is replaced, or the connection closed.
* `Registry.KeepsHandle`: a change of slots that leaves it to be the same connection.
-/

namespace CallDispatch

open Text

namespace Registry

variable {registry : Registry} {id : EntryId} {slot : Slot} {change change' : Slot → Option Slot}

/-! ## Changing a slot -/

/-- Changes of the same slot have the same effect where they agree on it. -/
lemma update_congr {f g : Slot → Slot}
    (h : ∀ slot ∈ registry.slots, slot.id = id → f slot = g slot) :
    registry.update id f = registry.update id g := by
  unfold update
  congr 1
  refine List.map_congr_left fun slot hslot => ?_
  split
  · next hid => exact h slot hslot hid
  · rfl

/-- A change that keeps the slot of a connection has no effect. -/
lemma update_of_keep {f : Slot → Slot}
    (h : ∀ slot ∈ registry.slots, slot.id = id → f slot = slot) :
    registry.update id f = registry := by
  have hmap : registry.slots.map (fun slot => if slot.id = id then f slot else slot) =
      registry.slots := by
    refine (List.map_congr_left fun slot hslot => ?_).trans (List.map_id _)
    split
    · next hid => exact h slot hslot hid
    · rfl
  rw [update, hmap]

/-- One change of a slot after another one. -/
lemma update_update {f g : Slot → Slot} (hid : ∀ slot, (f slot).id = slot.id) :
    (registry.update id f).update id g = registry.update id fun slot => g (f slot) := by
  unfold update
  simp only [List.map_map]
  congr 1
  refine List.map_congr_left fun slot _ => ?_
  by_cases hslot : slot.id = id
  · simp only [Function.comp_apply, if_pos hslot, if_pos ((hid slot).trans hslot)]
  · simp only [Function.comp_apply, if_neg hslot]

/-! ## Closing -/

/-- Closing a connection drops its slot. -/
lemma slots_close (registry : Registry) (id : EntryId) :
    (registry.close id).1.slots = alter id (fun _ => none) registry.slots := by
  unfold close
  split
  · next hfind => rw [alter_of_find?_eq_none hfind]
  · show registry.slots.filter (·.id ≠ id) = _
    rw [alter, ← List.filterMap_eq_filter]
    refine List.filterMap_congr fun slot _ => ?_
    by_cases hid : slot.id = id <;> simp [Option.guard, hid]

lemma mem_slots_close {slot : Slot} :
    slot ∈ (registry.close id).1.slots ↔ slot ∈ registry.slots ∧ slot.id ≠ id := by
  rw [slots_close, mem_alter]
  simp

/-- Closing a connection whose slot has been changed. -/
lemma close_update {f : Slot → Slot} (hhandle : ∀ slot, (f slot).handle = slot.handle) :
    ((registry.update id f).close id).1 = (registry.close id).1 := by
  have hid : ∀ slot, (f slot).id = slot.id := fun slot => congrArg Handle.id (hhandle slot)
  unfold close
  rw [find?_update hid]
  cases hfind : registry.find? id with
  | none =>
    have hnone := find?_eq_none_iff.1 hfind
    exact update_of_keep fun slot hslot hsame => absurd hsame (hnone slot hslot)
  | some slot =>
    have hslots : (registry.update id f).slots.filter (·.id ≠ id) =
        registry.slots.filter (·.id ≠ id) := by
      have hsame : ∀ slot ∈ registry.slots, decide ((if slot.id = id then f slot else slot).id ≠ id) =
          decide (slot.id ≠ id) := by
        intro slot _
        split
        · rw [hid slot]
        · rfl
      rw [update, List.filter_map]
      refine (congrArg (List.map _) (List.filter_congr hsame)).trans ?_
      refine (List.map_congr_left fun slot hslot => ?_).trans (List.map_id _)
      have hne : slot.id ≠ id := by simpa using (List.mem_filter.1 hslot).2
      exact if_neg hne
    simp only [Option.map_some, hhandle, hslots]
    rfl

/-! ## Changing or closing one connection -/

/-- The registry when the slot of a connection has been changed, or the connection closed where
nothing is left of the slot. -/
def become (registry : Registry) (id : EntryId) (change : Slot → Option Slot) : Registry :=
  match registry.find? id with
  | none => registry
  | some slot =>
    if (change slot).isSome then registry.update id fun slot => (change slot).getD slot
    else (registry.close id).1

/-- A change that leaves the handle alone. -/
def KeepsHandle (change : Slot → Option Slot) : Prop :=
  ∀ slot slot', change slot = some slot' → slot'.handle = slot.handle

/-- Where nothing is left of a slot the default one stands, and else what is left of it. -/
lemma KeepsHandle.getD (h : KeepsHandle change) (slot : Slot) :
    ((change slot).getD slot).handle = slot.handle := by
  cases hchange : change slot with
  | none => rfl
  | some slot' => exact h slot slot' hchange

lemma become_of_find?_eq_none (hfind : registry.find? id = none) :
    registry.become id change = registry := by
  rw [become, hfind]

lemma become_of_eq_none (hfind : registry.find? id = some slot) (hchange : change slot = none) :
    registry.become id change = (registry.close id).1 := by
  simp only [become, hfind, hchange]
  rfl

lemma become_of_eq_some {slot' : Slot} (hfind : registry.find? id = some slot)
    (hchange : change slot = some slot') :
    registry.become id change = registry.update id fun slot => (change slot).getD slot := by
  simp only [become, hfind, hchange]
  rfl

/-- What a connection becomes is determined by its slot. -/
lemma become_congr (h : registry.Ascending) (hfind : registry.find? id = some slot)
    (heq : change slot = change' slot) : registry.become id change = registry.become id change' := by
  cases hchange : change' slot with
  | none => rw [become_of_eq_none hfind (heq.trans hchange), become_of_eq_none hfind hchange]
  | some slot' =>
    rw [become_of_eq_some hfind (heq.trans hchange), become_of_eq_some hfind hchange]
    apply update_congr
    intro other hother hid
    rw [h.eq_of_find? hfind hother hid, heq]

/-- The slot of a connection when it has been changed, if it has not been closed. -/
lemma find?_become (hchange : KeepsHandle change) :
    (registry.become id change).find? id = (registry.find? id).bind change := by
  cases hfind : registry.find? id with
  | none =>
    rw [become_of_find?_eq_none hfind, hfind]
    rfl
  | some slot =>
    rw [Option.bind_some]
    cases hleft : change slot with
    | none =>
      rw [become_of_eq_none hfind hleft, find?_eq_none_iff]
      exact fun other hother => (mem_slots_close.1 hother).2
    | some slot' =>
      have hid : ∀ other : Slot, ((change other).getD other).id = other.id :=
        fun other => congrArg Handle.id (hchange.getD other)
      rw [become_of_eq_some hfind hleft, find?_update hid, hfind, Option.map_some, hleft]
      rfl

/-- One change after the other. -/
lemma become_become (h : registry.Ascending) (hchange : KeepsHandle change) :
    (registry.become id change).become id change' =
      registry.become id fun slot => (change slot).bind change' := by
  cases hfind : registry.find? id with
  | none =>
    rw [become_of_find?_eq_none hfind, become_of_find?_eq_none hfind,
      become_of_find?_eq_none hfind]
  | some slot =>
    have hfound : (registry.become id change).find? id = change slot := by
      rw [find?_become hchange, hfind, Option.bind_some]
    cases hleft : change slot with
    | none =>
      rw [hleft] at hfound
      rw [become_of_find?_eq_none hfound, become_of_eq_none hfind hleft,
        become_of_eq_none hfind (by rw [hleft]; rfl)]
    | some slot' =>
      rw [hleft] at hfound
      cases hlast : change' slot' with
      | none =>
        rw [become_of_eq_none hfound hlast, become_of_eq_some hfind hleft,
          close_update hchange.getD, become_of_eq_none hfind (by rw [hleft]; exact hlast)]
      | some slot'' =>
        have hboth : (change slot).bind change' = some slot'' := by
          rw [hleft]
          exact hlast
        rw [become_of_eq_some hfound hlast, become_of_eq_some hfind hleft,
          become_of_eq_some hfind hboth,
          update_update fun other => congrArg Handle.id (hchange.getD other)]
        apply update_congr
        intro other hother hid
        rw [h.eq_of_find? hfind hother hid, hleft, Option.getD_some, Option.bind_some, hlast]
        rfl

/-- What becomes of a connection as a change of slots. -/
lemma slots_become (h : registry.Ascending) (id : EntryId) (change : Slot → Option Slot) :
    (registry.become id change).slots = alter id change registry.slots := by
  cases hfind : registry.find? id with
  | none => rw [become_of_find?_eq_none hfind, alter_of_find?_eq_none hfind]
  | some slot =>
    cases hleft : change slot with
    | none =>
      rw [become_of_eq_none hfind hleft, slots_close]
      exact alter_of_find? h hfind hleft.symm
    | some slot' =>
      rw [become_of_eq_some hfind hleft, slots_update]
      exact alter_of_find? h hfind (by rw [hleft, Option.getD_some])

/-- The slots stay in order. -/
lemma Ascending.become (h : registry.Ascending) (hchange : KeepsHandle change) (id : EntryId) :
    (registry.become id change).Ascending := by
  rw [Ascending, slots_become h]
  exact pairwise_alter h fun old _ _ new hnew => congrArg Handle.id (hchange old new hnew)

/-- The slot of a connection when another one has been changed or closed. -/
lemma find?_become_of_ne (h : registry.Ascending) (hchange : KeepsHandle change) {other : EntryId}
    (hne : other ≠ id) : (registry.become id change).find? other = registry.find? other := by
  ext slot
  rw [find?_eq_some_iff (h.become hchange id), find?_eq_some_iff h, slots_become h, mem_alter]
  constructor
  · rintro ⟨⟨hslot, -⟩ | ⟨old, -, hold, hnew⟩, hid⟩
    · exact ⟨hslot, hid⟩
    · have hkept : slot.id = old.id := congrArg Handle.id (hchange old slot hnew)
      exact absurd (hid.symm.trans (hkept.trans hold)) hne
  · rintro ⟨hslot, hid⟩
    exact ⟨Or.inl ⟨hslot, hid ▸ hne⟩, hid⟩

/-! ## The operations -/

lemma keepsHandle_drained (now : Nat) : KeepsHandle (Slot.drained now) := by
  intro slot slot' h
  rcases Slot.drained_cases h with ⟨-, rfl⟩ | rfl
  · rfl
  · rfl

lemma keepsHandle_released : KeepsHandle Slot.released := by
  intro slot slot' h
  rw [Slot.eq_of_released h]

/-- Telling a connection to drain. -/
lemma beginDrain_eq_become (h : registry.Ascending) (now : Nat) (id : EntryId) :
    (registry.beginDrain now id).1 = registry.become id (Slot.drained now) := by
  unfold beginDrain
  cases hfind : registry.find? id with
  | none => rw [become_of_find?_eq_none hfind]
  | some slot =>
    -- a connection that drains already, or cannot drain, keeps its slot
    have hkeep : slot.drained now = some slot →
        registry = registry.become id (Slot.drained now) := by
      intro hsame
      rw [become_of_eq_some hfind hsame]
      refine (update_of_keep fun other hother hid => ?_).symm
      rw [h.eq_of_find? hfind hother hid, hsame, Option.getD_some]
    dsimp only
    split
    · next hdraining => exact hkeep (by simp [Slot.drained, hdraining, EntryState.canBecome])
    · split
      · next hcan =>
        split
        · next hidle =>
          have hnone : slot.drained now = none := by simp [Slot.drained, hcan, hidle]
          rw [become_of_eq_none hfind hnone]
        · next hbusy =>
          have hsome : slot.drained now =
              some { slot with state := .draining, drainingSince := some now } := by
            simp [Slot.drained, hcan, hbusy]
          rw [become_of_eq_some hfind hsome]
          apply update_congr
          intro other hother hid
          rw [h.eq_of_find? hfind hother hid, hsome, Option.getD_some]
      · next hcannot => exact hkeep (by simp [Slot.drained, hcannot])

/-- The slot of a connection that has been told to drain. -/
lemma find?_beginDrain (h : registry.Ascending) (now : Nat) (id : EntryId) :
    (registry.beginDrain now id).1.find? id = (registry.find? id).bind (Slot.drained now) := by
  rw [beginDrain_eq_become h, find?_become (keepsHandle_drained now)]

/-- The slot of a connection when another one has been told to drain. -/
lemma find?_beginDrain_of_ne (h : registry.Ascending) (now : Nat) {id other : EntryId}
    (hne : other ≠ id) : (registry.beginDrain now id).1.find? other = registry.find? other := by
  rw [beginDrain_eq_become h, find?_become_of_ne h (keepsHandle_drained now) hne]

lemma slots_beginDrain (h : registry.Ascending) (now : Nat) (id : EntryId) :
    (registry.beginDrain now id).1.slots = alter id (Slot.drained now) registry.slots := by
  rw [beginDrain_eq_become h, slots_become h]

/-- Ending a call of a connection. -/
lemma release_eq_become (h : registry.Ascending) (id : EntryId) :
    (registry.release id).1 = registry.become id Slot.released := by
  unfold release
  cases hfind : registry.find? id with
  | none => rw [become_of_find?_eq_none hfind]
  | some slot =>
    by_cases hlast : slot.state = .draining ∧ slot.calls - 1 = 0
    · have hnone : slot.released = none := if_pos hlast
      simp only [if_pos hlast]
      rw [become_of_eq_none hfind hnone]
    · have hsome : slot.released = some { slot with calls := slot.calls - 1 } := if_neg hlast
      simp only [if_neg hlast]
      rw [become_of_eq_some hfind hsome]
      apply update_congr
      intro other hother hid
      rw [h.eq_of_find? hfind hother hid, hsome, Option.getD_some]

lemma slots_release (h : registry.Ascending) (id : EntryId) :
    (registry.release id).1.slots = alter id Slot.released registry.slots := by
  rw [release_eq_become h, slots_become h]

/-- Subscribing a connection to a method. -/
lemma slots_subscribe (registry : Registry) (id : EntryId) (method : String) :
    (registry.subscribe id method).1.slots =
      alter id (fun slot => some (slot.subscribed method)) registry.slots := by
  unfold subscribe
  cases hfind : registry.find? id with
  | none => rw [alter_of_find?_eq_none hfind]
  | some slot => exact slots_update _ _ _

/-- Telling a connection to drain leaves it as it is, closes it or notes when it began to drain. -/
lemma beginDrain_cases (registry : Registry) (now : Nat) (id : EntryId) :
    (registry.beginDrain now id).1 = registry ∨
      (registry.beginDrain now id).1 = (registry.close id).1 ∨
      (registry.beginDrain now id).1 =
        registry.update id fun s => { s with state := .draining, drainingSince := some now } := by
  unfold beginDrain
  split
  · exact Or.inl rfl
  · split
    · exact Or.inl rfl
    · split
      · split
        · exact Or.inr (Or.inl rfl)
        · exact Or.inr (Or.inr rfl)
      · exact Or.inl rfl

/-- Ending a call of a connection that is registered closes it or takes the call off. -/
lemma release_cases (registry : Registry) (id : EntryId) :
    (registry.release id).1 = registry ∨ (registry.release id).1 = (registry.close id).1 ∨
      (registry.release id).1 = registry.update id fun s => { s with calls := s.calls - 1 } := by
  unfold release
  split
  · exact Or.inl rfl
  · split
    · exact Or.inr (Or.inl rfl)
    · exact Or.inr (Or.inr rfl)

/-- Reserving a call on one particular connection finds none that is active and changes nothing, or
it counts a call on it. -/
lemma reserveEntry_cases (registry : Registry) (id : EntryId) :
    registry.reserveEntry id = (registry, none) ∧
        (∀ slot, registry.find? id = some slot → slot.state.isSelectable = false) ∨
      ∃ slot, registry.find? id = some slot ∧ slot.state.isSelectable = true ∧
        registry.reserveEntry id =
          (registry.update id fun s => { s with calls := s.calls + 1 }, some ⟨slot.handle⟩) := by
  unfold reserveEntry
  cases hfind : registry.find? id with
  | none => exact Or.inl ⟨rfl, fun slot hslot => by cases hslot⟩
  | some slot =>
    by_cases hactive : slot.state.isSelectable = true
    · exact Or.inr ⟨slot, rfl, hactive, if_pos hactive⟩
    · refine Or.inl ⟨if_neg hactive, fun found hfound => ?_⟩
      cases hfound
      exact Bool.eq_false_iff.2 hactive

/-- A call is reserved by its id on a connection that is active. -/
lemma exists_slot_of_reserveEntry {id : EntryId} {reservation : Reservation}
    (h : (registry.reserveEntry id).2 = some reservation) :
    ∃ slot, registry.find? id = some slot ∧ slot.state = .active ∧
      slot.handle = reservation.handle := by
  rcases reserveEntry_cases registry id with ⟨hsame, -⟩ | ⟨slot, hfind, hactive, hreserve⟩
  · rw [hsame] at h
    cases h
  · rw [hreserve] at h
    cases h
    exact ⟨slot, hfind, EntryState.isSelectable_iff.1 hactive, rfl⟩

end Registry

end CallDispatch
