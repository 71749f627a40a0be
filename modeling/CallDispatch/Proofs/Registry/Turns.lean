import CallDispatch.Proofs.Registry.Consistency
import Mathlib.Data.List.Sort

/-!
# The order of turns

The connections of a pool take turns: the one selected longest ago is next, and of several the one
with the smallest id. A connection has its place in this order by its turn, which is its handle with
the number of the selection that chose it last. The order has no ties, so a pool has only one
snapshot (`snapshot_eq_of_turns`), and a selection chooses the head of it.
-/

namespace CallDispatch

open Text

/-- The place of a slot in the order of turns. -/
def Slot.turn (slot : Slot) : Handle × Nat :=
  (slot.handle, slot.lastUsed)

/-- A connection that stays registered when it is told to drain keeps its turn. -/
lemma Slot.turn_of_drained {now : Nat} {slot slot' : Slot} (h : slot.drained now = some slot') :
    slot'.turn = slot.turn := by
  rcases drained_cases h with ⟨-, rfl⟩ | rfl <;> rfl

/-- A connection that stays registered when a call ends keeps its turn. -/
lemma Slot.turn_of_released {slot slot' : Slot} (h : slot.released = some slot') :
    slot'.turn = slot.turn := by
  rw [eq_of_released h]
  rfl

/-- Whether one turn comes before another. -/
def Precedes (a b : Handle × Nat) : Prop :=
  a.2 < b.2 ∨ a.2 = b.2 ∧ a.1.id < b.1.id

/-- No turn comes both before and behind another. -/
lemma Precedes.asymm {a b : Handle × Nat} (h : Precedes a b) : ¬Precedes b a := by
  rintro (hlt | ⟨heq, hid⟩)
  · rcases h with h | h
    · exact Nat.lt_asymm h hlt
    · exact Nat.ne_of_lt hlt h.1.symm
  · rcases h with h | h
    · exact Nat.ne_of_lt h heq.symm
    · exact Nat.lt_asymm h.2 hid

instance : Std.Irrefl Precedes where
  irrefl _ h := h.asymm h

instance : Std.Antisymm Precedes where
  antisymm _ _ h h' := absurd h' h.asymm

/-! ## Sorting slots by their last selection -/

/-- Sorting puts a slot behind those that were selected before it, and in front of all others. -/
lemma mergeSort_lastUsed_cons (slot : Slot) (rest : List Slot) :
    ∃ before behind, (slot :: rest).mergeSort (·.lastUsed ≤ ·.lastUsed) =
        before ++ slot :: behind ∧
      rest.mergeSort (·.lastUsed ≤ ·.lastUsed) = before ++ behind ∧
      (∀ other ∈ before, other.lastUsed < slot.lastUsed) ∧
      ∀ other ∈ behind, slot.lastUsed ≤ other.lastUsed := by
  have htrans : ∀ a b c : Slot, decide (a.lastUsed ≤ b.lastUsed) = true →
      decide (b.lastUsed ≤ c.lastUsed) = true → decide (a.lastUsed ≤ c.lastUsed) = true := by
    intro a b c
    simp only [decide_eq_true_eq]
    exact Nat.le_trans
  have htotal : ∀ a b : Slot,
      (decide (a.lastUsed ≤ b.lastUsed) || decide (b.lastUsed ≤ a.lastUsed)) = true := by
    intro a b
    simpa using Nat.le_total a.lastUsed b.lastUsed
  obtain ⟨before, behind, hsorted, hrest, hbefore⟩ :=
    List.mergeSort_cons htrans htotal slot rest
  have hpairwise := List.pairwise_mergeSort htrans htotal (slot :: rest)
  rw [hsorted, List.pairwise_append] at hpairwise
  refine ⟨before, behind, hsorted, hrest, fun other hother => ?_, fun other hother => ?_⟩
  · simpa using hbefore other hother
  · simpa using List.rel_of_pairwise_cons hpairwise.2.1 hother

/-- Slots in the order of ids are sorted into the order of turns. -/
lemma pairwise_precedes_mergeSort {slots : List Slot} (h : slots.Pairwise (·.id < ·.id)) :
    (slots.mergeSort (·.lastUsed ≤ ·.lastUsed)).Pairwise
      (fun a b => Precedes a.turn b.turn) := by
  -- the first slot goes behind those selected before it, and the others stay as they were sorted
  induction slots with
  | nil => simp
  | cons slot rest ih =>
    obtain ⟨hslot, hrest⟩ := List.pairwise_cons.1 h
    obtain ⟨before, behind, hsorted, hmerged, hbefore, hbehind⟩ :=
      mergeSort_lastUsed_cons slot rest
    have hold := ih hrest
    rw [hmerged, List.pairwise_append] at hold
    obtain ⟨hold₁, hold₂, hcross⟩ := hold
    rw [hsorted, List.pairwise_append, List.pairwise_cons]
    refine ⟨hold₁, ⟨fun other hother => ?_, hold₂⟩, fun a ha b hb => ?_⟩
    · -- a slot behind that was selected as long ago has a larger id
      have hmem : other ∈ rest.mergeSort (·.lastUsed ≤ ·.lastUsed) := by
        rw [hmerged]
        exact List.mem_append_right _ hother
      have hmem := List.mem_mergeSort.1 hmem
      have hid := hslot other hmem
      have hle := hbehind other hother
      rcases Nat.lt_or_eq_of_le hle with hlt | heq
      · exact Or.inl hlt
      · exact Or.inr ⟨heq, hid⟩
    · rcases List.mem_cons.1 hb with rfl | hb
      · exact Or.inl (hbefore a ha)
      · exact hcross a ha b hb

/-- The least used of some slots is the first of them after all have been sorted. -/
lemma leastUsed?_filter (p : Slot → Bool) (slots : List Slot) :
    leastUsed? (slots.filter p) = (slots.mergeSort (·.lastUsed ≤ ·.lastUsed)).find? p := by
  induction slots with
  | nil => simp [leastUsed?]
  | cons slot rest ih =>
    obtain ⟨before, behind, hsorted, hmerged, hbefore, hbehind⟩ :=
      mergeSort_lastUsed_cons slot rest
    rw [hmerged, List.find?_append] at ih
    rw [hsorted, List.find?_append]
    by_cases hslot : p slot = true
    · rw [List.filter_cons_of_pos hslot, leastUsed?, ih, List.find?_cons_of_pos hslot]
      -- the slot itself is the least used one if none of those is sorted in front of it
      cases hfirst : before.find? p with
      | some first =>
        have hlt := hbefore first (List.mem_of_find?_eq_some hfirst)
        simp [Nat.not_le_of_lt hlt]
      | none =>
        cases hnext : behind.find? p with
        | none => rfl
        | some next => simp [hbehind next (List.mem_of_find?_eq_some hnext)]
    · rw [List.filter_cons_of_neg hslot, ih, List.find?_cons_of_neg hslot]

namespace Registry

variable {registry : Registry} {selector : Selector} {method : Option String}

/-! ## Operations that select nothing -/

/-- Every connection has kept the turn it had in another registry. -/
def KeepsTurns (registry other : Registry) : Prop :=
  ∀ slot' ∈ other.slots, ∃ slot ∈ registry.slots, slot.turn = slot'.turn

/-- Ending calls, draining and closing keeps the turns. -/
lemma waning_keepsTurns (registry : Registry) :
    Waning fun other => other.Consistent ∧ registry.KeepsTurns other :=
  waning_of_slots (fun slot slot' => slot.turn = slot'.turn) Eq.trans
    (fun h => (Slot.turn_of_drained h).symm) (fun h => (Slot.turn_of_released h).symm) registry

/-! ## The queue of a pool -/

/-- The slots of a pool in the order of turns. -/
def queue (registry : Registry) (selector : Selector) (method : Option String) : List Slot :=
  (registry.pool selector method).mergeSort (·.lastUsed ≤ ·.lastUsed)

lemma snapshot_eq (registry : Registry) (selector : Selector) (method : Option String) :
    registry.snapshot selector method = (registry.queue selector method).map Slot.handle := rfl

lemma mem_queue {slot : Slot} :
    slot ∈ registry.queue selector method ↔ slot ∈ registry.pool selector method :=
  List.mem_mergeSort

/-- The ids of a pool are distinct. -/
lemma Ascending.pairwise_pool (h : registry.Ascending) :
    (registry.pool selector method).Pairwise (·.id < ·.id) :=
  List.Pairwise.filter _ h

lemma pairwise_queue (h : registry.Ascending) :
    ((registry.queue selector method).map Slot.turn).Pairwise Precedes :=
  List.pairwise_map.2 (pairwise_precedes_mergeSort h.pairwise_pool)

/-- No connection stands twice in a snapshot. -/
lemma nodup_snapshot (h : registry.Ascending) : (registry.snapshot selector method).Nodup := by
  have hids : (registry.pool selector method).Pairwise (fun a b => a.handle ≠ b.handle) :=
    h.pairwise_pool.imp fun hlt heq => Nat.ne_of_lt hlt (congrArg Handle.id heq)
  rw [snapshot_eq, queue]
  exact ((List.mergeSort_perm _ _).map Slot.handle).nodup_iff.2 (List.pairwise_map.2 hids)

/-- A selection takes the first connection of the snapshot that it may select. -/
lemma reserve_eq_find? (registry : Registry) (selector : Selector) (method : Option String)
    (excluded : List EntryId) :
    (registry.reserve selector method excluded).2 =
      ((registry.snapshot selector method).find? (!excluded.contains ·.id)).map Reservation.mk := by
  have hchosen : leastUsed? ((registry.pool selector method).filter (!excluded.contains ·.id)) =
      (registry.queue selector method).find? (!excluded.contains ·.id) :=
    leastUsed?_filter _ _
  have hhandle : ((fun handle : Handle => !excluded.contains handle.id) ∘ Slot.handle) =
      fun slot => !excluded.contains slot.id := rfl
  rw [snapshot_eq, List.find?_map, hhandle, ← hchosen, reserve]
  cases leastUsed? ((registry.pool selector method).filter (!excluded.contains ·.id)) <;> rfl

/-- A list in the order of turns that has exactly the turns of a pool is the queue of the pool. -/
lemma snapshot_eq_of_turns (h : registry.Ascending) {turns : List (Handle × Nat)}
    (hturns : turns.Pairwise Precedes)
    (hmem : ∀ turn, turn ∈ turns ↔
      ∃ slot ∈ registry.pool selector method, slot.turn = turn) :
    registry.snapshot selector method = turns.map Prod.fst := by
  have heq : (registry.queue selector method).map Slot.turn = turns := by
    refine (pairwise_queue h).eq_of_mem_iff hturns fun turn => ?_
    rw [hmem, List.mem_map]
    simp only [mem_queue]
  rw [← heq, List.map_map]
  rfl

/-- Pools with the same turns have the same snapshot. -/
lemma snapshot_congr {other : Registry} (h : registry.Ascending) (hother : other.Ascending)
    (hturns : ∀ turn, (∃ slot ∈ other.pool selector method, slot.turn = turn) ↔
      ∃ slot ∈ registry.pool selector method, slot.turn = turn) :
    other.snapshot selector method = registry.snapshot selector method := by
  rw [snapshot_eq_of_turns hother (pairwise_queue h) fun turn => ?_, snapshot_eq, List.map_map]
  · rfl
  · rw [hturns, List.mem_map]
    simp only [mem_queue]

end Registry

end CallDispatch
