import CallDispatch.Registry.Selection
import CallDispatch.Registry.Sweep
import Mathlib.Data.List.Nodup

/-!
# Slots under the operations of the registry

The slots of a registry stand in the order of their ids, so no two of them have the same id. Every
operation on one connection then changes the list of slots in the same way: the slot of that
connection is replaced or dropped, and all others stay. `alter` is that change. What an operation
does to a slot is a function of the slot alone.
-/

namespace CallDispatch

open Text

/-! ## What an operation does to one slot -/

lemma EntryState.isSelectable_iff {state : EntryState} :
    state.isSelectable = true ↔ state = .active := by
  simp [isSelectable]

namespace Slot

/-- The slot of a connection that has been told to drain; none if the connection closes. -/
def drained (now : Nat) (slot : Slot) : Option Slot :=
  if slot.state.canBecome .draining then
    if slot.calls = 0 then none
    else some { slot with state := .draining, drainingSince := some now }
  else some slot

/-- The slot with one call less; none if the connection closes. -/
def released (slot : Slot) : Option Slot :=
  if slot.state = .draining ∧ slot.calls - 1 = 0 then none
  else some { slot with calls := slot.calls - 1 }

/-- The slot of a connection that asked for a method. -/
def subscribed (method : String) (slot : Slot) : Slot :=
  { slot with methods := slot.methods.insert (upper method) }

/-- The slot after the selection with the given number chose it. -/
def selected (seq : Nat) (slot : Slot) : Slot :=
  { slot with lastUsed := seq, calls := slot.calls + 1 }

/-- A connection that stays registered when it is told to drain cannot drain any more, or it has
calls left and drains now. -/
lemma drained_cases {now : Nat} {slot slot' : Slot} (h : slot.drained now = some slot') :
    (slot.state.canBecome .draining = false ∧ slot' = slot) ∨
      slot' = { slot with state := .draining, drainingSince := some now } := by
  unfold drained at h
  split at h
  · split at h
    · cases h
    · exact Or.inr (Option.some.inj h).symm
  · next hcannot => exact Or.inl ⟨Bool.eq_false_iff.2 hcannot, (Option.some.inj h).symm⟩

/-- A slot in a pool is that of an active connection. -/
lemma active_of_inPool {slot : Slot} {selector : Selector} {method : Option String}
    (h : slot.inPool selector method = true) : slot.state = .active := by
  simp only [inPool, Bool.and_eq_true] at h
  exact EntryState.isSelectable_iff.1 h.1.1.1

/-- A connection that stays registered when a call ends has one call less. -/
lemma eq_of_released {slot slot' : Slot} (h : slot.released = some slot') :
    slot' = { slot with calls := slot.calls - 1 } := by
  unfold released at h
  split at h
  · cases h
  · exact (Option.some.inj h).symm

end Slot

namespace Registry

/-! ## Slots in order -/

/-- The slots stand in the order of their ids. -/
def Ascending (registry : Registry) : Prop :=
  registry.slots.Pairwise (·.id < ·.id)

variable {registry : Registry} {id : EntryId} {slot : Slot}

/-- No id occurs twice. -/
lemma Ascending.nodup_ids (h : registry.Ascending) : (registry.slots.map Slot.id).Nodup := by
  rw [List.Nodup, List.pairwise_map]
  exact h.imp Nat.ne_of_lt

/-- Slots with the same id are the same slot. -/
lemma Ascending.eq_of_id_eq (h : registry.Ascending) {a b : Slot} (ha : a ∈ registry.slots)
    (hb : b ∈ registry.slots) (hid : a.id = b.id) : a = b :=
  List.inj_on_of_nodup_map h.nodup_ids ha hb hid

lemma mem_of_find? (h : registry.find? id = some slot) : slot ∈ registry.slots :=
  List.mem_of_find?_eq_some h

lemma id_of_find? (h : registry.find? id = some slot) : slot.id = id := by
  simpa using List.find?_some h

/-- The slot of a connection is the one with its id. -/
lemma find?_eq_some_iff (h : registry.Ascending) :
    registry.find? id = some slot ↔ slot ∈ registry.slots ∧ slot.id = id := by
  constructor
  · intro hfind
    exact ⟨mem_of_find? hfind, id_of_find? hfind⟩
  · rintro ⟨hmem, hid⟩
    cases hfind : registry.find? id with
    | none => exact absurd hid (by simpa using List.find?_eq_none.1 hfind slot hmem)
    | some other =>
      have heq : other = slot :=
        h.eq_of_id_eq (mem_of_find? hfind) hmem ((id_of_find? hfind).trans hid.symm)
      rw [heq]

/-- A slot with the id of a connection is the slot of the connection. -/
lemma Ascending.eq_of_find? (h : registry.Ascending) (hfind : registry.find? id = some slot)
    {other : Slot} (hmem : other ∈ registry.slots) (hid : other.id = id) : other = slot :=
  h.eq_of_id_eq hmem (mem_of_find? hfind) (hid.trans (id_of_find? hfind).symm)

lemma find?_eq_none_iff : registry.find? id = none ↔ ∀ slot ∈ registry.slots, slot.id ≠ id := by
  simp [find?]

lemma contains_iff : registry.contains id = true ↔ ∃ slot ∈ registry.slots, slot.id = id := by
  simp [contains, find?]

lemma contains_eq_false_iff : registry.contains id = false ↔ registry.find? id = none := by
  simp [contains]

/-! ## Replacing or dropping one slot -/

/-- Changes the slots with one id, and drops those that the change leaves nothing of. -/
def alter (id : EntryId) (change : Slot → Option Slot) (slots : List Slot) : List Slot :=
  slots.filterMap fun slot => if slot.id = id then change slot else some slot

lemma mem_alter {change : Slot → Option Slot} {slots : List Slot} :
    slot ∈ alter id change slots ↔
      (slot ∈ slots ∧ slot.id ≠ id) ∨ ∃ old ∈ slots, old.id = id ∧ change old = some slot := by
  rw [alter, List.mem_filterMap]
  constructor
  · rintro ⟨old, hold, hchange⟩
    split at hchange
    · next hid => exact Or.inr ⟨old, hold, hid, hchange⟩
    · next hid =>
      cases hchange
      exact Or.inl ⟨hold, hid⟩
  · rintro (⟨hmem, hid⟩ | ⟨old, hold, hid, hchange⟩)
    · exact ⟨slot, hmem, by rw [if_neg hid]⟩
    · exact ⟨old, hold, by rw [if_pos hid, hchange]⟩

/-- Changes that agree on the slots with the id have the same effect. -/
lemma alter_congr {change change' : Slot → Option Slot} {slots : List Slot}
    (h : ∀ slot ∈ slots, slot.id = id → change slot = change' slot) :
    alter id change slots = alter id change' slots := by
  refine List.filterMap_congr fun slot hmem => ?_
  split
  · next hid => exact h slot hmem hid
  · rfl

/-- A change that keeps every slot with the id has no effect. -/
lemma alter_eq_self {change : Slot → Option Slot} {slots : List Slot}
    (h : ∀ slot ∈ slots, slot.id = id → change slot = some slot) :
    alter id change slots = slots := by
  have hsome : alter id change slots = alter id some slots := alter_congr h
  rw [hsome, alter]
  simp

/-- The slots stay in order when the change keeps the id. -/
lemma pairwise_alter {change : Slot → Option Slot} {slots : List Slot}
    (h : slots.Pairwise (·.id < ·.id))
    (hkeep : ∀ old ∈ slots, old.id = id → ∀ new, change old = some new → new.id = old.id) :
    (alter id change slots).Pairwise (·.id < ·.id) := by
  -- each remaining slot has the id of the one it comes from
  have hsame : ∀ old ∈ slots, ∀ new,
      (if old.id = id then change old else some old) = some new → new.id = old.id := by
    intro old hold new hnew
    split at hnew
    · next hid => exact hkeep old hold hid new hnew
    · cases hnew
      rfl
  refine List.pairwise_filterMap.2 (h.imp_of_mem ?_)
  intro a b hmema hmemb hlt a' ha' b' hb'
  rw [hsame a hmema a' ha', hsame b hmemb b' hb']
  exact hlt

/-- Changing the slot of a connection. -/
lemma slots_update (registry : Registry) (id : EntryId) (change : Slot → Slot) :
    (registry.update id change).slots =
      alter id (fun slot => some (change slot)) registry.slots := by
  simp only [update, alter, ← List.filterMap_eq_map]
  refine List.filterMap_congr fun slot _ => ?_
  simp only [Function.comp]
  split <;> rfl

/-- The slot of any connection when that of one has been changed. -/
lemma find?_update_eq_map {change : Slot → Slot} (hid : ∀ slot, (change slot).id = slot.id)
    (other : EntryId) : (registry.update id change).find? other =
      (registry.find? other).map fun slot => if slot.id = id then change slot else slot := by
  have hsame : ((fun slot : Slot => slot.id == other) ∘
      fun slot => if slot.id = id then change slot else slot) = fun slot => slot.id == other := by
    funext slot
    by_cases hslot : slot.id = id
    · simp only [Function.comp_apply, if_pos hslot, hid]
    · simp only [Function.comp_apply, if_neg hslot]
  unfold update find?
  rw [List.find?_map, hsame]

/-- The slot of a connection when it has been changed. -/
lemma find?_update {change : Slot → Slot} (hid : ∀ slot, (change slot).id = slot.id) :
    (registry.update id change).find? id = (registry.find? id).map change := by
  rw [find?_update_eq_map hid]
  cases hfind : registry.find? id with
  | none => rfl
  | some slot => exact congrArg some (if_pos (id_of_find? hfind))

/-- The slot of a connection when that of another one has been changed. -/
lemma find?_update_of_ne {change : Slot → Slot} (hid : ∀ slot, (change slot).id = slot.id)
    {other : EntryId} (hne : other ≠ id) :
    (registry.update id change).find? other = registry.find? other := by
  rw [find?_update_eq_map hid]
  cases hfind : registry.find? other with
  | none => rfl
  | some slot =>
    have hslot : slot.id ≠ id := fun hsame => hne ((id_of_find? hfind).symm.trans hsame)
    exact congrArg some (if_neg hslot)

/-- What changes the slot of a connection is determined by that slot. -/
lemma alter_of_find? (h : registry.Ascending) (hfind : registry.find? id = some slot)
    {change change' : Slot → Option Slot} (heq : change slot = change' slot) :
    alter id change registry.slots = alter id change' registry.slots := by
  refine alter_congr fun other hmem hid => ?_
  rw [h.eq_of_find? hfind hmem hid, heq]

/-- A connection that is not registered has no slot to change. -/
lemma alter_of_find?_eq_none (hfind : registry.find? id = none) (change : Slot → Option Slot) :
    alter id change registry.slots = registry.slots :=
  alter_eq_self fun slot hmem hid => absurd hid (find?_eq_none_iff.1 hfind slot hmem)

/-! ## Registering -/

lemma mem_insertSlot {new : Slot} {slots : List Slot} :
    slot ∈ insertSlot new slots ↔ slot = new ∨ slot ∈ slots := by
  induction slots with
  | nil => simp [insertSlot]
  | cons other rest ih =>
    rw [insertSlot]
    split
    · simp
    · simp only [List.mem_cons, ih]
      tauto

/-- A slot with a new id is put where the order wants it. -/
lemma pairwise_insertSlot {new : Slot} {slots : List Slot} (h : slots.Pairwise (·.id < ·.id))
    (hnew : ∀ slot ∈ slots, slot.id ≠ new.id) :
    (insertSlot new slots).Pairwise (·.id < ·.id) := by
  induction slots with
  | nil => simp [insertSlot]
  | cons other rest ih =>
    obtain ⟨hother, hrest⟩ := List.pairwise_cons.1 h
    rw [insertSlot]
    split
    · next hlt =>
      refine List.pairwise_cons.2 ⟨fun slot hslot => ?_, h⟩
      rcases List.mem_cons.1 hslot with rfl | hslot
      · exact hlt
      · exact Nat.lt_trans hlt (hother slot hslot)
    · -- the new slot goes somewhere behind the first, whose id is another one
      next hnlt =>
      have hne := hnew other List.mem_cons_self
      refine List.pairwise_cons.2 ⟨fun slot hslot => ?_, ih hrest fun slot hslot =>
        hnew slot (List.mem_cons_of_mem _ hslot)⟩
      rcases mem_insertSlot.1 hslot with rfl | hslot
      · exact Nat.lt_of_le_of_ne (Nat.le_of_not_lt hnlt) hne
      · exact hother slot hslot

/-- A connection is either refused, or new and registered with a fresh slot. -/
lemma add_cases (registry : Registry) (entry : Entry) :
    (∃ error, registry.add entry = (registry, .error error)) ∨
      (∀ slot ∈ registry.slots, slot.id ≠ entry.handle.id) ∧
        registry.add entry = ({ registry with
          slots := insertSlot { handle := entry.handle } registry.slots
          outbound := cache registry.outbound entry.handle.target entry.handle.id },
          .ok entry.handle) := by
  unfold add
  dsimp only
  split
  · exact Or.inl ⟨_, rfl⟩
  · next hnew =>
    split
    · exact Or.inl ⟨_, rfl⟩
    · refine Or.inr ⟨?_, rfl⟩
      intro slot hslot hid
      exact hnew (contains_iff.2 ⟨slot, hslot, hid⟩)

/-! ## Selecting -/

/-- Nothing is least used only where there is nothing. -/
lemma leastUsed?_eq_none_iff {slots : List Slot} : leastUsed? slots = none ↔ slots = [] := by
  cases slots with
  | nil => simp [leastUsed?]
  | cons slot rest =>
    simp only [leastUsed?]
    split
    · simp
    · split <;> simp

/-- The least used slot is one of the slots, and no other was selected before it. -/
lemma leastUsed?_spec {slots : List Slot} (h : leastUsed? slots = some slot) :
    slot ∈ slots ∧ ∀ other ∈ slots, slot.lastUsed ≤ other.lastUsed := by
  induction slots generalizing slot with
  | nil => simp [leastUsed?] at h
  | cons first rest ih =>
    rw [leastUsed?] at h
    split at h
    · next hrest =>
      cases h
      simp [leastUsed?_eq_none_iff.1 hrest]
    · next best hbest =>
      obtain ⟨hmem, hleast⟩ := ih hbest
      split at h
      · next hle =>
        cases h
        exact ⟨List.mem_cons_self, List.forall_mem_cons.2
          ⟨Nat.le_refl _, fun other hother => Nat.le_trans hle (hleast other hother)⟩⟩
      · next hnle =>
        cases h
        exact ⟨List.mem_cons_of_mem _ hmem, List.forall_mem_cons.2
          ⟨Nat.le_of_lt (Nat.lt_of_not_le hnle), hleast⟩⟩

/-- The ids of the connections of a pool. -/
def members (registry : Registry) (selector : Selector) (method : Option String) : List EntryId :=
  (registry.pool selector method).map Slot.id

variable {selector : Selector} {method : Option String}

lemma mem_pool : slot ∈ registry.pool selector method ↔
    slot ∈ registry.slots ∧ slot.inPool selector (method.map upper) = true := by
  simp [pool]

lemma mem_members : id ∈ registry.members selector method ↔
    ∃ slot ∈ registry.pool selector method, slot.id = id := by
  rw [members, List.mem_map]

/-- A selection finds the pool exhausted and changes nothing, or it stamps the slot it chose with
the next number and counts a call on it. -/
lemma reserve_cases (registry : Registry) (selector : Selector) (method : Option String)
    (excluded : List EntryId) :
    registry.reserve selector method excluded = (registry, none) ∧
        (∀ slot ∈ registry.pool selector method, slot.id ∈ excluded) ∨
      ∃ slot ∈ registry.pool selector method, slot.id ∉ excluded ∧
        leastUsed? ((registry.pool selector method).filter (!excluded.contains ·.id)) =
          some slot ∧
        registry.reserve selector method excluded =
          ({ registry with
              slots := alter slot.id (fun s => some (s.selected (registry.lastSeq + 1)))
                registry.slots
              lastSeq := registry.lastSeq + 1 },
            some ⟨slot.handle⟩) := by
  unfold reserve
  split
  · next hnone =>
    have hempty := leastUsed?_eq_none_iff.1 hnone
    refine Or.inl ⟨rfl, fun slot hslot => ?_⟩
    simpa using List.filter_eq_nil_iff.1 hempty slot hslot
  · next slot hsome =>
    obtain ⟨hmem, hnot⟩ := List.mem_filter.1 (leastUsed?_spec hsome).1
    refine Or.inr ⟨slot, hmem, by simpa using hnot, hsome, ?_⟩
    rw [← slots_update]
    rfl

/-- A selection finds nothing only if it may not select anything of the pool. -/
lemma mem_of_reserve_eq_none {excluded : List EntryId}
    (h : (registry.reserve selector method excluded).2 = none) :
    ∀ id ∈ registry.members selector method, id ∈ excluded := by
  rcases reserve_cases registry selector method excluded with
    ⟨-, hall⟩ | ⟨chosen, -, -, -, hreserve⟩
  · intro id hid
    obtain ⟨slot, hslot, rfl⟩ := mem_members.1 hid
    exact hall slot hslot
  · rw [hreserve] at h
    cases h

/-- A selection takes a connection of the pool that it may select. -/
lemma exists_slot_of_reserve {excluded : List EntryId} {reservation : Reservation}
    (h : (registry.reserve selector method excluded).2 = some reservation) :
    ∃ slot ∈ registry.pool selector method, slot.id ∉ excluded ∧
      slot.handle = reservation.handle := by
  rcases reserve_cases registry selector method excluded with
    ⟨hsame, -⟩ | ⟨chosen, hpool, hnew, -, hreserve⟩
  · rw [hsame] at h
    cases h
  · rw [hreserve] at h
    cases h
    exact ⟨chosen, hpool, hnew, rfl⟩

lemma mem_of_reserve_eq_some {excluded : List EntryId} {reservation : Reservation}
    (h : (registry.reserve selector method excluded).2 = some reservation) :
    reservation.handle.id ∈ registry.members selector method ∧
      reservation.handle.id ∉ excluded := by
  obtain ⟨slot, hpool, hnew, hhandle⟩ := exists_slot_of_reserve h
  rw [← hhandle]
  exact ⟨mem_members.2 ⟨slot, hpool, rfl⟩, hnew⟩

end Registry

end CallDispatch
