import CallDispatch.Proofs.Registry.RoundRobin

/-!
# Where slots come from

Whatever happens to a registry, a slot that it has afterwards comes from one of four places
(`origin`): it was there before and has at most aged, which means that it lost calls or came closer
to its end; a call was reserved on it by its id; it was selected from a pool; or its connection has
just been registered. Calls are reserved on active connections only, so a connection that drains can
do nothing but age, and a stamp that was not there before is that of the last selection.

## Main definitions

* `Slot.Ages`: a slot is what is left of another one when nothing was reserved on it.
* `Registry.Origin`: where a slot after an operation comes from.
-/

namespace CallDispatch

open Text

/-- A connection only becomes what lies ahead of it. -/
lemma EntryState.rank_lt_of_canBecome {state next : EntryState}
    (h : state.canBecome next = true) : state.rank < next.rank := by
  unfold canBecome at h
  split at h
  · cases h
  · exact of_decide_eq_true h

namespace Slot

variable {slot slot' slot'' : Slot}

/-- A slot with the same connection and the same stamp that has no more calls and has come no
less far. -/
structure Ages (slot slot' : Slot) : Prop where
  handle_eq : slot'.handle = slot.handle
  lastUsed_eq : slot'.lastUsed = slot.lastUsed
  rank_le : slot.state.rank ≤ slot'.state.rank
  calls_le : slot'.calls ≤ slot.calls

lemma Ages.refl (slot : Slot) : slot.Ages slot :=
  ⟨rfl, rfl, Nat.le_refl _, Nat.le_refl _⟩

lemma Ages.trans (h : slot.Ages slot') (h' : slot'.Ages slot'') : slot.Ages slot'' where
  handle_eq := h'.handle_eq.trans h.handle_eq
  lastUsed_eq := h'.lastUsed_eq.trans h.lastUsed_eq
  rank_le := Nat.le_trans h.rank_le h'.rank_le
  calls_le := Nat.le_trans h'.calls_le h.calls_le

lemma Ages.id_eq (h : slot.Ages slot') : slot'.id = slot.id :=
  congrArg Handle.id h.handle_eq

/-- A connection that stays registered when it is told to drain ages. -/
lemma ages_of_drained {now : Nat} (h : slot.drained now = some slot') : slot.Ages slot' := by
  unfold drained at h
  split at h
  · next hcan =>
    split at h
    · cases h
    · cases h
      exact ⟨rfl, rfl, Nat.le_of_lt (EntryState.rank_lt_of_canBecome hcan), Nat.le_refl _⟩
  · cases h
    exact Ages.refl slot

/-- A connection that stays registered when a call ends ages. -/
lemma ages_of_released (h : slot.released = some slot') : slot.Ages slot' := by
  rw [eq_of_released h]
  exact ⟨rfl, rfl, Nat.le_refl _, Nat.sub_le _ _⟩

/-- Asking for a method is no more than ageing. -/
lemma ages_subscribed (method : String) (slot : Slot) : slot.Ages (slot.subscribed method) :=
  ⟨rfl, rfl, Nat.le_refl _, Nat.le_refl _⟩

end Slot

namespace Registry

variable {registry : Registry}

/-! ## Ageing -/

/-- Every connection has been registered before and has aged since. -/
def AgesTo (registry other : Registry) : Prop :=
  ∀ slot' ∈ other.slots, ∃ slot ∈ registry.slots, slot.Ages slot'

lemma AgesTo.refl (registry : Registry) : registry.AgesTo registry :=
  fun slot hslot => ⟨slot, hslot, Slot.Ages.refl slot⟩

/-- Ending calls, draining and closing is ageing. -/
lemma waning_agesTo (registry : Registry) :
    Waning fun other => other.Consistent ∧ registry.AgesTo other :=
  waning_of_slots Slot.Ages Slot.Ages.trans Slot.ages_of_drained Slot.ages_of_released
    registry

/-! ## The origin of a slot -/

/-- Where a slot after an operation comes from. -/
inductive Origin (registry : Registry) (op : Op) (slot' : Slot) : Prop
  /-- Nothing was reserved on the connection. -/
  | aged (slot : Slot) (hslot : slot ∈ registry.slots) (hages : slot.Ages slot')
  /-- A call was reserved on the connection by its id. -/
  | engaged (slot : Slot) (hslot : slot ∈ registry.slots) (hactive : slot.state = .active)
      (hreserved : registry.reserved? op = some ⟨slot.handle⟩)
      (hslot' : slot' = { slot with calls := slot.calls + 1 })
  /-- The connection was selected from a pool. -/
  | selected (slot : Slot) (hslot : slot ∈ registry.slots) (hactive : slot.state = .active)
      (hreserved : registry.reserved? op = some ⟨slot.handle⟩)
      (hchosen : registry.chosen? op = some slot.handle)
      (hslot' : slot' = slot.selected (registry.lastSeq + 1))
  /-- The connection has just been registered. -/
  | added (entry : Entry) (hop : op = .add entry)
      (hadded : registry.added? op = some entry.handle.id)
      (hnew : ∀ slot ∈ registry.slots, slot.id ≠ entry.handle.id)
      (hslot' : slot' = { handle := entry.handle })

/-- Every slot after an operation has an origin. -/
lemma origin (h : registry.Consistent) (op : Op) {slot' : Slot}
    (hslot' : slot' ∈ (registry.after op).slots) : registry.Origin op slot' := by
  by_cases hwanes : op.wanes = true
  · obtain ⟨slot, hslot, hages⟩ :=
      ((waning_agesTo registry).after hwanes ⟨h, AgesTo.refl registry⟩).2 slot' hslot'
    exact .aged slot hslot hages
  · cases arises_of_mem_after h.ascending (Bool.eq_false_iff.2 hwanes) hslot' with
    | kept hslot => exact .aged slot' hslot (Slot.Ages.refl slot')
    | added hnew hadded => exact .added _ rfl hadded hnew rfl
    | @asked slot method hslot => exact .aged slot hslot (Slot.ages_subscribed method slot)
    | @selected selector method excluded slot hpool hreserved =>
      obtain ⟨hslot, hinPool⟩ := mem_pool.1 hpool
      have hchosen : registry.chosen? (.reserve selector method excluded) = some slot.handle :=
        congrArg (Option.map Reservation.handle) hreserved
      exact .selected slot hslot (Slot.active_of_inPool hinPool) hreserved hchosen rfl
    | engaged hslot hactive hreserved => exact .engaged _ hslot hactive hreserved rfl

/-- A connection that is registered after an operation was so before, unless the operation
registered it. -/
lemma exists_same_handle (h : registry.Consistent) {op : Op} {slot' : Slot}
    (hslot' : slot' ∈ (registry.after op).slots) (hadded : registry.added? op ≠ some slot'.id) :
    ∃ slot ∈ registry.slots, slot.handle = slot'.handle := by
  cases origin h op hslot' with
  | aged slot hslot hages => exact ⟨slot, hslot, hages.handle_eq.symm⟩
  | engaged slot hslot _ _ hnew =>
    subst hnew
    exact ⟨slot, hslot, rfl⟩
  | selected slot hslot _ _ _ hnew =>
    subst hnew
    exact ⟨slot, hslot, rfl⟩
  | added entry _ hadds _ hnew =>
    subst hnew
    exact absurd hadds hadded

/-! ## The number of the last selection -/

/-- The number of the last selection never falls. -/
lemma kept_lastSeq_le (seq : Nat) : Kept fun registry => seq ≤ registry.lastSeq where
  close id hseq := by
    rw [lastSeq_close]
    exact hseq
  beginDrain now id hseq := by
    rw [lastSeq_beginDrain]
    exact hseq
  release id hseq := by
    rw [lastSeq_release]
    exact hseq
  add {registry} entry hseq := by
    rcases add_cases registry entry with ⟨error, hadd⟩ | ⟨-, hadd⟩ <;>
      · rw [hadd]
        exact hseq
  subscribe id method hseq := by
    unfold subscribe
    split <;> exact hseq
  reserve {registry} selector method excluded hseq := by
    rcases reserve_cases registry selector method excluded with
      ⟨hreserve, -⟩ | ⟨chosen, -, -, -, hreserve⟩
    · rw [hreserve]
      exact hseq
    · rw [hreserve]
      exact Nat.le_succ_of_le hseq
  reserveEntry {registry} id hseq := by
    rcases reserveEntry_cases registry id with ⟨hreserve, -⟩ | ⟨slot, -, -, hreserve⟩ <;>
      · rw [hreserve]
        exact hseq

/-- A selection that finds a connection stamps it with the next number. -/
lemma lastSeq_of_chosen {op : Op} {handle : Handle} (h : registry.chosen? op = some handle) :
    (registry.after op).lastSeq = registry.lastSeq + 1 := by
  cases op with
  | reserve selector method excluded =>
    rcases reserve_cases registry selector method excluded with
      ⟨hreserve, -⟩ | ⟨chosen, -, -, -, hreserve⟩
    · rw [chosen?, hreserve] at h
      cases h
    · rw [after, hreserve]
  | _ => cases h

end Registry

end CallDispatch
