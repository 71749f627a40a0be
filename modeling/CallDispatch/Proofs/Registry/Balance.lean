import CallDispatch.Proofs.Registry.Consistency

/-!
# Counting calls

How an operation changes the number of calls of a connection: it rises by the call that is reserved
on it and falls by the one that ends (`calls_after`). The fall stops at zero, so the counts say
something only as long as no more calls end than there are. `Balanced` says that each connection has
as many calls as are owed to it; operations keep the balance if what is owed is changed along with
them (`Balanced.after`), and then no fall ever stops at zero (`Balanced.calls_pos`).
-/

namespace CallDispatch

namespace Registry

variable {registry : Registry}

/-- How many calls of a connection are ended by an operation, if one is made. -/
def ends (op : Option Op) (id : EntryId) : Nat :=
  if op.bind Op.released? = some id then 1 else 0

/-- How many calls are reserved on a connection by an operation, if one is made. -/
def reserves (registry : Registry) (op : Option Op) (id : EntryId) : Nat :=
  if (op.bind registry.reserved?).map (·.handle.id) = some id then 1 else 0

lemma ends_of_released {op : Op} {ended : EntryId} (h : op.released? = some ended)
    (id : EntryId) : ends (some op) id = if ended = id then 1 else 0 := by
  simp [ends, h]

lemma reserves_of_eq_none {op : Op} (h : registry.reserved? op = none) (id : EntryId) :
    registry.reserves (some op) id = 0 := by
  simp [reserves, h]

lemma reserves_of_eq_some {op : Op} {reservation : Reservation}
    (h : registry.reserved? op = some reservation) (id : EntryId) :
    registry.reserves (some op) id = if reservation.handle.id = id then 1 else 0 := by
  simp [reserves, h]

/-- No call is reserved where one ends. -/
lemma reserves_of_released {op : Op} {ended : EntryId} (h : op.released? = some ended)
    (id : EntryId) : registry.reserves (some op) id = 0 := by
  refine reserves_of_eq_none ?_ id
  cases op with
  | rollBack | abandonDead | release => rfl
  | _ => cases h

/-- An id is registered by adding an entry with it. -/
lemma eq_add_of_added {op : Op} {id : EntryId} (h : registry.added? op = some id) :
    ∃ entry, op = .add entry ∧ entry.handle.id = id := by
  cases op with
  | add entry =>
    rcases add_cases registry entry with ⟨error, hrefused⟩ | ⟨-, hadd⟩
    · simp only [added?, hrefused] at h
      cases h
    · simp only [added?, hadd] at h
      exact ⟨entry, rfl, Option.some.inj h⟩
  | _ => cases h

/-- The slot with an id that has just been registered is a fresh one. -/
lemma eq_fresh_of_added {op : Op} {slot' : Slot} (hslot' : slot' ∈ (registry.after op).slots)
    (hadded : registry.added? op = some slot'.id) :
    ∃ entry, op = .add entry ∧ (registry.add entry).2 = .ok entry.handle ∧
      slot' = { handle := entry.handle } := by
  obtain ⟨entry, rfl, hid⟩ := eq_add_of_added hadded
  rcases add_cases registry entry with ⟨error, hrefused⟩ | ⟨hnew, hadd⟩
  · simp only [added?, hrefused] at hadded
    cases hadded
  · refine ⟨entry, rfl, by rw [hadd], ?_⟩
    rw [after, hadd] at hslot'
    rcases mem_insertSlot.1 hslot' with hfresh | hold
    · exact hfresh
    · exact absurd hid.symm (hnew slot' hold)

/-! ## Every slot comes from one with the calls counted before -/

/-- Every connection has been registered before, with as many calls as it has now. -/
def KeepsCalls (registry other : Registry) : Prop :=
  ∀ slot' ∈ other.slots, ∃ slot ∈ registry.slots, slot.id = slot'.id ∧ slot'.calls = slot.calls

/-- A connection that stays registered when it is told to drain keeps its calls. -/
lemma calls_of_drained {now : Nat} {slot slot' : Slot} (h : slot.drained now = some slot') :
    slot.id = slot'.id ∧ slot'.calls = slot.calls := by
  rcases Slot.drained_cases h with ⟨-, rfl⟩ | rfl <;> exact ⟨rfl, rfl⟩

/-- Draining and closing ends no calls of the connections that stay. -/
lemma closing_keepsCalls (registry : Registry) :
    Closing fun other => other.Consistent ∧ registry.KeepsCalls other :=
  closing_of_slots (fun slot slot' => slot.id = slot'.id ∧ slot'.calls = slot.calls)
    (fun h h' => ⟨h.1.trans h'.1, h'.2.trans h.2⟩) calls_of_drained registry

/-- Ending a call takes one from the connection, if it stays registered. -/
lemma calls_release (h : registry.Consistent) (id : EntryId) :
    ∀ slot' ∈ (registry.release id).1.slots, ∃ slot ∈ registry.slots, slot.id = slot'.id ∧
      slot'.calls = slot.calls - if id = slot.id then 1 else 0 := by
  intro slot' hslot'
  rw [slots_release h.ascending] at hslot'
  rcases mem_alter.1 hslot' with ⟨hmem, hne⟩ | ⟨old, hold, hid, hnew⟩
  · exact ⟨slot', hmem, rfl, by rw [if_neg (Ne.symm hne), Nat.sub_zero]⟩
  · obtain rfl := Slot.eq_of_released hnew
    exact ⟨old, hold, rfl, by rw [if_pos hid.symm]⟩

/-- An operation that does not wane adds a call where it reserves one. -/
lemma calls_of_arises {op : Op} {slot' : Slot} (h : registry.Arises op slot') :
    (∃ slot ∈ registry.slots, slot.id = slot'.id ∧
      slot'.calls = slot.calls + registry.reserves (some op) slot.id) ∨
    registry.added? op = some slot'.id ∧ slot'.calls = 0 := by
  cases h with
  | kept hslot _ hreserved =>
    refine Or.inl ⟨slot', hslot, rfl, ?_⟩
    cases hmade : registry.reserved? op with
    | none => rw [reserves_of_eq_none hmade, Nat.add_zero]
    | some reservation =>
      rw [reserves_of_eq_some hmade, if_neg (hreserved reservation hmade), Nat.add_zero]
  | added _ hadded => exact Or.inr ⟨hadded, rfl⟩
  | asked method hslot => exact Or.inl ⟨_, hslot, rfl, rfl⟩
  | @selected _ _ _ slot hpool hreserved =>
    have hself : slot.handle.id = slot.id := rfl
    refine Or.inl ⟨slot, (mem_pool.1 hpool).1, rfl, ?_⟩
    rw [reserves_of_eq_some hreserved, if_pos hself, Slot.selected]
  | @engaged slot hslot _ hreserved =>
    have hself : slot.handle.id = slot.id := rfl
    refine Or.inl ⟨slot, hslot, rfl, ?_⟩
    rw [reserves_of_eq_some hreserved, if_pos hself]

/-! ## All operations -/

/-- After an operation each connection has the calls it had, with the one reserved and without the
one ended, or it has just been registered and has none. -/
lemma calls_after (h : registry.Consistent) (op : Op) :
    ∀ slot' ∈ (registry.after op).slots,
      (∃ slot ∈ registry.slots, slot.id = slot'.id ∧
        slot'.calls = slot.calls + registry.reserves (some op) slot.id - ends (some op) slot.id) ∨
      registry.added? op = some slot'.id ∧ slot'.calls = 0 := by
  intro slot' hslot'
  have hsame : registry.KeepsCalls registry := fun slot hslot => ⟨slot, hslot, rfl, rfl⟩
  cases op with
  | add | subscribe | reserve | reserveEntry =>
    exact calls_of_arises (arises_of_mem_after h.ascending rfl hslot')
  | rollBack reservation =>
    obtain ⟨slot, hslot, hid, hcalls⟩ := calls_release h reservation.handle.id slot' hslot'
    refine Or.inl ⟨slot, hslot, hid, ?_⟩
    rw [reserves_of_released rfl, ends_of_released rfl, hcalls]
    rfl
  | release id =>
    obtain ⟨slot, hslot, hid, hcalls⟩ := calls_release h id slot' hslot'
    refine Or.inl ⟨slot, hslot, hid, ?_⟩
    rw [reserves_of_released rfl, ends_of_released rfl, hcalls]
    rfl
  | abandonDead now reservation =>
    have hreleased := h.release reservation.handle.id
    obtain ⟨middle, hmiddle, hid', hcalls'⟩ :=
      ((closing_keepsCalls _).beginDrain now reservation.handle.id
        ⟨hreleased, fun slot hslot => ⟨slot, hslot, rfl, rfl⟩⟩).2 slot' hslot'
    obtain ⟨slot, hslot, hid, hcalls⟩ := calls_release h reservation.handle.id middle hmiddle
    refine Or.inl ⟨slot, hslot, hid.trans hid', ?_⟩
    rw [reserves_of_released rfl, ends_of_released rfl, hcalls', hcalls]
    rfl
  | _ =>
    obtain ⟨slot, hslot, hid, hcalls⟩ :=
      ((closing_keepsCalls registry).after rfl ⟨h, hsame⟩).2 slot' hslot'
    exact Or.inl ⟨slot, hslot, hid, hcalls⟩

/-- Calls are reserved on registered connections that are active. -/
lemma exists_active_of_reserved {op : Op} {reservation : Reservation}
    (h : registry.reserved? op = some reservation) :
    ∃ slot ∈ registry.slots, slot.state = .active ∧ slot.handle = reservation.handle := by
  cases op with
  | reserve selector method excluded =>
    obtain ⟨slot, hpool, -, hhandle⟩ := exists_slot_of_reserve h
    obtain ⟨hslot, hinPool⟩ := mem_pool.1 hpool
    exact ⟨slot, hslot, Slot.active_of_inPool hinPool, hhandle⟩
  | reserveEntry id =>
    obtain ⟨slot, hfind, hactive, hhandle⟩ := exists_slot_of_reserveEntry h
    exact ⟨slot, mem_of_find? hfind, hactive, hhandle⟩
  | _ => cases h

/-! ## Balance -/

/-- The registry counts against each connection what is owed to it. -/
structure Balanced (registry : Registry) (known : List EntryId) (owed : EntryId → Nat) :
    Prop where
  calls_eq : ∀ slot ∈ registry.slots, slot.calls = owed slot.id
  /-- All registered connections are known, and all to which something is owed. -/
  known_of_mem : ∀ slot ∈ registry.slots, slot.id ∈ known
  known_of_owed : ∀ id, 0 < owed id → id ∈ known

variable {known : List EntryId} {owed owed' : EntryId → Nat}

/-- The balance is kept if what is owed changes as the operation changes the calls. To connections
that are not registered less may be owed than before. -/
lemma Balanced.after (hbalanced : registry.Balanced known owed) (h : registry.Consistent)
    (op : Option Op) (hfresh : ∀ id, op.bind registry.added? = some id → id ∉ known)
    (howed : ∀ slot ∈ registry.slots,
      owed' slot.id + ends op slot.id = owed slot.id + registry.reserves op slot.id)
    (hle : ∀ id, owed' id ≤ owed id + registry.reserves op id) :
    (registry.afterAny op).Balanced ((op.bind registry.added?).toList ++ known) owed' := by
  have hknown : ∀ id, 0 < owed' id → id ∈ known := by
    intro id hpos
    by_cases howes : 0 < owed id
    · exact hbalanced.known_of_owed id howes
    · -- the call owed has just been reserved
      have hreserves : registry.reserves op id ≠ 0 := fun hzero => by
        have := hle id
        omega
      obtain ⟨reservation, hreserved, hid⟩ : ∃ reservation,
          op.bind registry.reserved? = some reservation ∧ reservation.handle.id = id := by
        rw [reserves, ne_eq, ite_eq_right_iff, Classical.not_imp] at hreserves
        exact Option.map_eq_some_iff.1 hreserves.1
      obtain ⟨made, -, hmade⟩ := Option.bind_eq_some_iff.1 hreserved
      obtain ⟨slot, hslot, -, hhandle⟩ := exists_active_of_reserved hmade
      rw [← hid, ← hhandle]
      exact hbalanced.known_of_mem slot hslot
  cases op with
  | none =>
    refine ⟨fun slot hslot => ?_, hbalanced.known_of_mem, hknown⟩
    exact (hbalanced.calls_eq slot hslot).trans (howed slot hslot).symm
  | some op =>
    refine ⟨fun slot' hslot' => ?_, fun slot' hslot' => ?_, fun id hpos => ?_⟩
    · rcases calls_after h op slot' hslot' with ⟨slot, hslot, hid, hcalls⟩ | ⟨hadded, hcalls⟩
      · -- no fall stops at zero, since what is owed falls along
        have := howed slot hslot
        rw [hcalls, hbalanced.calls_eq slot hslot, ← hid]
        omega
      · -- nothing is owed to a connection that is not known yet
        rw [hcalls]
        by_contra hne
        exact hfresh slot'.id hadded (hknown _ (Nat.pos_of_ne_zero (Ne.symm hne)))
    · rcases calls_after h op slot' hslot' with ⟨slot, hslot, hid, -⟩ | ⟨hadded, -⟩
      · rw [← hid]
        exact List.mem_append_right _ (hbalanced.known_of_mem slot hslot)
      · refine List.mem_append_left _ ?_
        rw [Option.bind_some, hadded]
        exact List.mem_singleton_self _
    · exact List.mem_append_right _ (hknown id hpos)

/-- A connection has a call left to end if one is taken off what is owed to it. -/
lemma Balanced.calls_pos (hbalanced : registry.Balanced known owed) {op : Op} {slot : Slot}
    (hslot : slot ∈ registry.slots) (hends : op.released? = some slot.id)
    (howed : owed' slot.id + ends (some op) slot.id =
      owed slot.id + registry.reserves (some op) slot.id) : 0 < slot.calls := by
  rw [reserves_of_released hends, ends_of_released hends, if_pos rfl] at howed
  rw [hbalanced.calls_eq slot hslot]
  omega

end Registry

end CallDispatch
