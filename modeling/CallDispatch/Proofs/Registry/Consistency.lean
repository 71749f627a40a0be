import CallDispatch.Proofs.Registry.Operations

/-!
# Consistency of the registry

What the operations of a registry rely on about its records, and what therefore holds after any run
of them: each slot is active or drains with calls left, the numbers of selections order the slots,
and an uri leads to a registered connection that was dialed there. A connection that is registered
can therefore always be told to drain.

Where the slots after an operation come from is said here once for all that is counted or followed
from slot to slot: for what ends calls, drains and closes, by any relation that its changes keep
(`waning_of_slots`), and for all other operations by listing the ways (`Arises`).
-/

namespace CallDispatch

/-- What holds of each slot by itself. -/
structure Slot.Sound (slot : Slot) : Prop where
  active_or_draining : slot.state = .active ∨ slot.state = .draining
  /-- The time is noted at which the connection began to drain, and only then. -/
  isSome_since : slot.drainingSince.isSome ↔ slot.state = .draining
  /-- A connection without calls does not drain: it is closed. -/
  calls_pos : slot.state = .draining → 0 < slot.calls

/-- A connection that does not drain yet may begin to. -/
lemma Slot.Sound.canBecome_draining {slot : Slot} (h : slot.Sound)
    (hnot : slot.state ≠ .draining) : slot.state.canBecome .draining = true := by
  rcases h.active_or_draining with hactive | hdraining
  · rw [hactive]
    rfl
  · exact absurd hdraining hnot

namespace Registry

/-- What holds of a registry after any run of its operations. -/
structure Consistent (registry : Registry) : Prop where
  ascending : registry.Ascending
  sound : ∀ slot ∈ registry.slots, slot.Sound
  lastUsed_le : ∀ slot ∈ registry.slots, slot.lastUsed ≤ registry.lastSeq
  /-- A selection chooses one connection only. -/
  lastUsed_inj : ∀ a ∈ registry.slots, ∀ b ∈ registry.slots, a.id ≠ b.id →
    a.lastUsed = b.lastUsed → a.lastUsed = 0
  /-- The connection cached under a uri is registered and was dialed there. -/
  cached : ∀ uri id, (uri, id) ∈ registry.outbound →
    ∃ slot ∈ registry.slots, slot.id = id ∧ slot.handle.target = some uri
  /-- One connection is cached under a uri. -/
  nodup_uris : (registry.outbound.map Prod.fst).Nodup

variable {registry : Registry} {id : EntryId}

lemma consistent_empty : ({} : Registry).Consistent where
  ascending := List.Pairwise.nil
  sound := by simp
  lastUsed_le := by simp
  lastUsed_inj := by simp
  cached := by simp
  nodup_uris := by simp

/-! ## Closing -/

@[simp] lemma lastSeq_close (registry : Registry) (id : EntryId) :
    (registry.close id).1.lastSeq = registry.lastSeq := by
  unfold close
  split <;> rfl

@[simp] lemma lastSeq_beginDrain (registry : Registry) (now : Nat) (id : EntryId) :
    (registry.beginDrain now id).1.lastSeq = registry.lastSeq := by
  rcases beginDrain_cases registry now id with hdrain | hdrain | hdrain
  · rw [hdrain]
  · rw [hdrain, lastSeq_close]
  · rw [hdrain]
    rfl

@[simp] lemma lastSeq_release (registry : Registry) (id : EntryId) :
    (registry.release id).1.lastSeq = registry.lastSeq := by
  rcases release_cases registry id with hrelease | hrelease | hrelease
  · rw [hrelease]
  · rw [hrelease, lastSeq_close]
  · rw [hrelease]
    rfl

/-- Closing a connection forgets the uri at which it was dialed, if it is the one cached there. -/
lemma mem_outbound_close {uri : String} {other : EntryId} :
    (uri, other) ∈ (registry.close id).1.outbound ↔ (uri, other) ∈ registry.outbound ∧
      ¬(other = id ∧ ∃ slot, registry.find? id = some slot ∧ slot.handle.target = some uri) := by
  unfold close
  cases hfind : registry.find? id with
  | none => simp
  | some slot =>
    cases htarget : slot.handle.target with
    | none => simp [htarget]
    | some target =>
      simp only [htarget, List.mem_filter, Option.some.injEq, exists_eq_left', decide_not,
        Bool.not_eq_true', decide_eq_false_iff_not, Prod.mk.injEq]
      constructor
      · rintro ⟨hmem, hne⟩
        exact ⟨hmem, fun hsame => hne ⟨hsame.2.symm, hsame.1⟩⟩
      · rintro ⟨hmem, hne⟩
        exact ⟨hmem, fun hsame => hne ⟨hsame.2, hsame.1.symm⟩⟩

/-- Closing a connection takes uris away and never adds one. -/
lemma outbound_close_sublist (registry : Registry) (id : EntryId) :
    ((registry.close id).1.outbound).Sublist registry.outbound := by
  unfold close
  split
  · exact List.Sublist.refl _
  · dsimp only
    split
    · exact List.Sublist.refl _
    · exact List.filter_sublist

lemma Consistent.close (h : registry.Consistent) (id : EntryId) :
    (registry.close id).1.Consistent where
  ascending := by
    rw [Ascending, slots_close]
    exact pairwise_alter h.ascending (by simp)
  sound slot hslot := h.sound slot (mem_slots_close.1 hslot).1
  lastUsed_le slot hslot := by
    rw [lastSeq_close]
    exact h.lastUsed_le slot (mem_slots_close.1 hslot).1
  lastUsed_inj a ha b hb :=
    h.lastUsed_inj a (mem_slots_close.1 ha).1 b (mem_slots_close.1 hb).1
  cached uri other hmem := by
    obtain ⟨hmem, hnot⟩ := mem_outbound_close.1 hmem
    obtain ⟨slot, hslot, hid, htarget⟩ := h.cached uri other hmem
    refine ⟨slot, mem_slots_close.2 ⟨hslot, fun hclosed => ?_⟩, hid, htarget⟩
    -- the connection closed would be the one cached, whose uri has been forgotten
    exact hnot ⟨hid.symm.trans hclosed,
      slot, (find?_eq_some_iff h.ascending).2 ⟨hslot, hclosed⟩, htarget⟩
  nodup_uris := h.nodup_uris.sublist ((outbound_close_sublist registry id).map Prod.fst)

/-! ## Changing one slot -/

/-- A change of a slot that is not a selection. -/
lemma Consistent.update (h : registry.Consistent) {change : Slot → Slot}
    (hchange : ∀ slot ∈ registry.slots, slot.id = id → (change slot).handle = slot.handle ∧
      (change slot).lastUsed = slot.lastUsed ∧ (change slot).Sound) :
    (registry.update id change).Consistent := by
  -- every slot comes from one with the same handle and the same last selection
  have horigin : ∀ slot ∈ (registry.update id change).slots, slot.Sound ∧
      ∃ old ∈ registry.slots, slot.handle = old.handle ∧ slot.lastUsed = old.lastUsed := by
    intro slot hslot
    rw [slots_update, mem_alter] at hslot
    rcases hslot with ⟨hmem, -⟩ | ⟨old, hold, hid, hnew⟩
    · exact ⟨h.sound slot hmem, slot, hmem, rfl, rfl⟩
    · cases hnew
      obtain ⟨hhandle, hlast, hsound⟩ := hchange old hold hid
      exact ⟨hsound, old, hold, hhandle, hlast⟩
  refine ⟨?_, fun slot hslot => (horigin slot hslot).1, fun slot hslot => ?_, ?_, ?_, h.nodup_uris⟩
  · rw [Ascending, slots_update]
    refine pairwise_alter h.ascending fun old hold hid new hnew => ?_
    cases hnew
    exact congrArg Handle.id (hchange old hold hid).1
  · obtain ⟨-, old, hold, -, hlast⟩ := horigin slot hslot
    rw [hlast]
    exact h.lastUsed_le old hold
  · intro a ha b hb hne
    obtain ⟨-, olda, hmema, hhandlea, hlasta⟩ := horigin a ha
    obtain ⟨-, oldb, hmemb, hhandleb, hlastb⟩ := horigin b hb
    rw [hlasta, hlastb]
    exact h.lastUsed_inj olda hmema oldb hmemb
      (by rwa [Slot.id, Slot.id, ← hhandlea, ← hhandleb])
  · intro uri other hmem
    obtain ⟨slot, hslot, hid, htarget⟩ := h.cached uri other hmem
    -- the connection cached is still there, changed or not
    by_cases hsame : slot.id = id
    · have hkept := (hchange slot hslot hsame).1
      refine ⟨change slot, ?_, ?_, by rw [hkept, htarget]⟩
      · rw [slots_update, mem_alter]
        exact Or.inr ⟨slot, hslot, hsame, rfl⟩
      · rw [← hid, Slot.id, Slot.id, hkept]
    · refine ⟨slot, ?_, hid, htarget⟩
      rw [slots_update, mem_alter]
      exact Or.inl ⟨hslot, hsame⟩

/-! ## The elementary operations -/

lemma Consistent.beginDrain (h : registry.Consistent) (now : Nat) (id : EntryId) :
    (registry.beginDrain now id).1.Consistent := by
  unfold Registry.beginDrain
  split
  · exact h
  · next slot hfind =>
    split
    · exact h
    · split
      · split
        · exact h.close id
        · next hbusy =>
          refine h.update fun other hmem hid => ⟨rfl, rfl, ?_⟩
          rw [h.ascending.eq_of_find? hfind hmem hid]
          exact ⟨Or.inr rfl, by simp, fun _ => Nat.pos_of_ne_zero hbusy⟩
      · exact h

lemma Consistent.release (h : registry.Consistent) (id : EntryId) :
    (registry.release id).1.Consistent := by
  unfold Registry.release
  split
  · exact h
  · next slot hfind =>
    split
    · exact h.close id
    · next hstay =>
      refine h.update fun other hmem hid => ⟨rfl, rfl, ?_⟩
      have hother : other = slot := h.ascending.eq_of_find? hfind hmem hid
      have hsound := h.sound other hmem
      refine ⟨hsound.active_or_draining, hsound.isSome_since, fun hdraining => ?_⟩
      -- with its last call it would have been closed
      rw [hother] at hdraining ⊢
      exact Nat.pos_of_ne_zero fun hzero => hstay ⟨hdraining, hzero⟩

lemma Consistent.subscribe (h : registry.Consistent) (id : EntryId) (method : String) :
    (registry.subscribe id method).1.Consistent := by
  unfold Registry.subscribe
  split
  · exact h
  · refine h.update fun slot hmem _ => ⟨rfl, rfl, ?_⟩
    obtain ⟨hstate, hsince, hcalls⟩ := h.sound slot hmem
    exact ⟨hstate, hsince, hcalls⟩

lemma Consistent.reserveEntry (h : registry.Consistent) (id : EntryId) :
    (registry.reserveEntry id).1.Consistent := by
  rcases reserveEntry_cases registry id with ⟨hsame, -⟩ | ⟨found, -, -, hreserve⟩
  · rw [hsame]
    exact h
  · rw [hreserve]
    refine h.update fun slot hmem _ => ⟨rfl, rfl, ?_⟩
    obtain ⟨hstate, hsince, -⟩ := h.sound slot hmem
    exact ⟨hstate, hsince, fun _ => Nat.succ_pos _⟩

/-- The uris at which connections are cached are distinct. -/
lemma nodup_cache {outbound : List (String × EntryId)} (h : (outbound.map Prod.fst).Nodup)
    (target : Option String) (id : EntryId) :
    ((cache outbound target id).map Prod.fst).Nodup := by
  cases target with
  | none => exact h
  | some uri =>
    refine List.nodup_cons.2 ⟨?_, h.sublist (List.filter_sublist.map Prod.fst)⟩
    simp

/-- What is cached was so before, or is the new connection under its own uri. -/
lemma mem_cache {outbound : List (String × EntryId)} {target : Option String} {new : EntryId}
    {uri : String} : (uri, id) ∈ cache outbound target new ↔
      (target = some uri ∧ id = new) ∨ target ≠ some uri ∧ (uri, id) ∈ outbound := by
  cases target with
  | none => simp [cache]
  | some target =>
    simp only [cache, List.mem_cons, Prod.mk.injEq, List.mem_filter, decide_eq_true_eq, ne_eq,
      Option.some.injEq]
    constructor
    · rintro (⟨huri, hid⟩ | ⟨hmem, hne⟩)
      · exact Or.inl ⟨huri.symm, hid⟩
      · exact Or.inr ⟨Ne.symm hne, hmem⟩
    · rintro (⟨huri, hid⟩ | ⟨hne, hmem⟩)
      · exact Or.inl ⟨huri.symm, hid⟩
      · exact Or.inr ⟨hmem, Ne.symm hne⟩

lemma Consistent.add (h : registry.Consistent) (entry : Entry) :
    (registry.add entry).1.Consistent := by
  rcases add_cases registry entry with ⟨error, hsame⟩ | ⟨hnew, hadd⟩
  · rw [hsame]
    exact h
  · rw [hadd]
    have hfresh : ∀ slot ∈ registry.slots,
        slot.id ≠ ({ handle := entry.handle } : Slot).id := hnew
    refine ⟨pairwise_insertSlot h.ascending hfresh, ?_, ?_, ?_, ?_, nodup_cache h.nodup_uris _ _⟩
    · -- the new slot is active, has no calls and was never selected
      intro slot hslot
      rcases mem_insertSlot.1 hslot with rfl | hslot
      · exact ⟨Or.inl rfl, by simp, by simp⟩
      · exact h.sound slot hslot
    · intro slot hslot
      rcases mem_insertSlot.1 hslot with rfl | hslot
      · exact Nat.zero_le _
      · exact h.lastUsed_le slot hslot
    · intro a ha b hb hne heq
      rcases mem_insertSlot.1 ha with rfl | ha
      · rfl
      · rcases mem_insertSlot.1 hb with rfl | hb
        · exact heq
        · exact h.lastUsed_inj a ha b hb hne heq
    · intro uri id hmem
      rcases mem_cache.1 hmem with ⟨htarget, rfl⟩ | ⟨-, hmem⟩
      · exact ⟨_, mem_insertSlot.2 (Or.inl rfl), rfl, htarget⟩
      · obtain ⟨slot, hslot, hid, htarget⟩ := h.cached uri id hmem
        exact ⟨slot, mem_insertSlot.2 (Or.inr hslot), hid, htarget⟩

/-! ## Selecting -/

/-- A slot after a selection is one that was not chosen, or the chosen one with a new stamp. -/
lemma mem_selected {slot : Slot} {chosen : EntryId} {seq : Nat} {slots : List Slot} :
    slot ∈ alter chosen (fun s => some (s.selected seq)) slots ↔
      (slot ∈ slots ∧ slot.id ≠ chosen) ∨
        ∃ old ∈ slots, old.id = chosen ∧ slot = old.selected seq := by
  rw [mem_alter]
  simp [eq_comm]

lemma Consistent.reserve (h : registry.Consistent) (selector : Selector)
    (method : Option String) (excluded : List EntryId) :
    (registry.reserve selector method excluded).1.Consistent := by
  rcases reserve_cases registry selector method excluded with
    ⟨hsame, -⟩ | ⟨chosen, -, -, -, hreserve⟩
  · rw [hsame]
    exact h
  · rw [hreserve]
    -- the slots not chosen carry older stamps than the new one
    have holder : ∀ slot ∈ registry.slots, slot.lastUsed ≠ registry.lastSeq + 1 := fun slot hslot =>
      Nat.ne_of_lt (Nat.lt_succ_of_le (h.lastUsed_le slot hslot))
    refine ⟨pairwise_alter h.ascending ?_, ?_, ?_, ?_, ?_, h.nodup_uris⟩
    · intro old _ _ new hnew
      cases hnew
      rfl
    · intro slot hslot
      rcases mem_selected.1 hslot with ⟨hmem, -⟩ | ⟨old, hold, -, rfl⟩
      · exact h.sound slot hmem
      · exact ⟨(h.sound old hold).active_or_draining, (h.sound old hold).isSome_since,
          fun _ => Nat.succ_pos _⟩
    · intro slot hslot
      rcases mem_selected.1 hslot with ⟨hmem, -⟩ | ⟨old, -, -, rfl⟩
      · exact Nat.le_succ_of_le (h.lastUsed_le slot hmem)
      · exact Nat.le_refl _
    · intro a ha b hb hne heq
      rcases mem_selected.1 ha with ⟨hmema, -⟩ | ⟨olda, holda, hida, rfl⟩
      · rcases mem_selected.1 hb with ⟨hmemb, -⟩ | ⟨oldb, -, -, rfl⟩
        · exact h.lastUsed_inj a hmema b hmemb hne heq
        · exact absurd heq (holder a hmema)
      · rcases mem_selected.1 hb with ⟨hmemb, -⟩ | ⟨oldb, -, hidb, rfl⟩
        · exact absurd heq.symm (holder b hmemb)
        · exact absurd (hida.trans hidb.symm) hne
    · intro uri id hmem
      obtain ⟨slot, hslot, hid, htarget⟩ := h.cached uri id hmem
      by_cases hsame : slot.id = chosen.id
      · exact ⟨slot.selected (registry.lastSeq + 1),
          mem_selected.2 (Or.inr ⟨slot, hslot, hsame, rfl⟩), hid, htarget⟩
      · exact ⟨slot, mem_selected.2 (Or.inl ⟨hslot, hsame⟩), hid, htarget⟩

/-! ## All runs -/

lemma kept_consistent : Kept Consistent where
  close id h := h.close id
  beginDrain now id h := h.beginDrain now id
  release id h := h.release id
  add entry h := h.add entry
  subscribe id method h := h.subscribe id method
  reserve selector method excluded h := h.reserve selector method excluded
  reserveEntry id h := h.reserveEntry id

/-! ## Where slots come from -/

section Origins

variable (R : Slot → Slot → Prop) (htrans : ∀ {a b c}, R a b → R b c → R a c)

include htrans

/-- A change of slots leaves only slots that come from others, if a changed slot does. -/
lemma exists_of_mem_alter {slots others : List Slot} {change : Slot → Option Slot}
    (hothers : ∀ slot' ∈ others, ∃ slot ∈ slots, R slot slot')
    (hchange : ∀ slot slot', change slot = some slot' → R slot slot') :
    ∀ slot' ∈ alter id change others, ∃ slot ∈ slots, R slot slot' := by
  intro slot' hslot'
  rcases mem_alter.1 hslot' with ⟨hmem, -⟩ | ⟨middle, hmiddle, -, hnew⟩
  · exact hothers slot' hmem
  · obtain ⟨slot, hslot, hfrom⟩ := hothers middle hmiddle
    exact ⟨slot, hslot, htrans hfrom (hchange middle slot' hnew)⟩

variable (hdrained : ∀ {now slot slot'}, slot.drained now = some slot' → R slot slot')

include hdrained

/-- Draining and closing leaves only slots that come from others, in any way in which a slot may
come from another when the connection is told to drain. -/
lemma closing_of_slots (registry : Registry) :
    Closing fun other =>
      other.Consistent ∧ ∀ slot' ∈ other.slots, ∃ slot ∈ registry.slots, R slot slot' := by
  refine ⟨fun {other} id h => ⟨h.1.close id, ?_⟩,
    fun {other} now id h => ⟨h.1.beginDrain now id, ?_⟩⟩
  · rw [slots_close]
    exact exists_of_mem_alter R htrans h.2 (by simp)
  · rw [slots_beginDrain h.1.ascending]
    exact exists_of_mem_alter R htrans h.2 fun _ _ => hdrained

/-- So does ending calls besides, if a slot may also come from another when a call ends. -/
lemma waning_of_slots (hreleased : ∀ {slot slot'}, slot.released = some slot' → R slot slot')
    (registry : Registry) :
    Waning fun other =>
      other.Consistent ∧ ∀ slot' ∈ other.slots, ∃ slot ∈ registry.slots, R slot slot' := by
  refine ⟨closing_of_slots R htrans hdrained registry, fun {other} id h => ⟨h.1.release id, ?_⟩⟩
  rw [slots_release h.1.ascending]
  exact exists_of_mem_alter R htrans h.2 fun _ _ => hreleased

end Origins

/-- How a slot comes about by an operation that ends no call, drains nothing and closes nothing. -/
inductive Arises (registry : Registry) : Op → Slot → Prop
  /-- The slot was there before, and the operation was refused or was about another one. -/
  | kept {op : Op} {slot : Slot} (hslot : slot ∈ registry.slots)
      (hasked : ∀ method, op ≠ .subscribe slot.id method)
      (hreserved : ∀ reservation, registry.reserved? op = some reservation →
        reservation.handle.id ≠ slot.id) :
      Arises registry op slot
  /-- The connection has just been registered. -/
  | added {entry : Entry} (hnew : ∀ slot ∈ registry.slots, slot.id ≠ entry.handle.id)
      (hadded : registry.added? (.add entry) = some entry.handle.id) :
      Arises registry (.add entry) { handle := entry.handle }
  /-- The connection asked for a method. -/
  | asked {slot : Slot} (method : String) (hslot : slot ∈ registry.slots) :
      Arises registry (.subscribe slot.id method) (slot.subscribed method)
  /-- The connection was selected from a pool. -/
  | selected {selector : Selector} {method : Option String} {excluded : List EntryId} {slot : Slot}
      (hpool : slot ∈ registry.pool selector method)
      (hreserved : registry.reserved? (.reserve selector method excluded) = some ⟨slot.handle⟩) :
      Arises registry (.reserve selector method excluded) (slot.selected (registry.lastSeq + 1))
  /-- A call was reserved on the connection by its id. -/
  | engaged {slot : Slot} (hslot : slot ∈ registry.slots) (hactive : slot.state = .active)
      (hreserved : registry.reserved? (.reserveEntry slot.id) = some ⟨slot.handle⟩) :
      Arises registry (.reserveEntry slot.id) { slot with calls := slot.calls + 1 }

/-- Every slot after an operation that does not wane comes about in one of these ways. -/
lemma arises_of_mem_after (h : registry.Ascending) {op : Op} (hop : op.wanes = false)
    {slot' : Slot} (hslot' : slot' ∈ (registry.after op).slots) : registry.Arises op slot' := by
  cases op with
  | add entry =>
    rcases add_cases registry entry with ⟨error, hrefused⟩ | ⟨hnew, hadd⟩
    · rw [after, hrefused] at hslot'
      exact .kept hslot' nofun nofun
    · rw [after, hadd] at hslot'
      rcases mem_insertSlot.1 hslot' with rfl | hslot
      · exact .added hnew (by rw [added?, hadd])
      · exact .kept hslot nofun nofun
  | subscribe id method =>
    rw [after, slots_subscribe] at hslot'
    rcases mem_alter.1 hslot' with ⟨hslot, hne⟩ | ⟨old, hold, rfl, hchanged⟩
    · refine .kept hslot (fun asked hsame => ?_) nofun
      cases hsame
      exact hne rfl
    · cases hchanged
      exact .asked method hold
  | reserve selector method excluded =>
    rcases reserve_cases registry selector method excluded with
      ⟨hsame, -⟩ | ⟨chosen, hpool, -, -, hreserve⟩
    · have hnone : registry.reserved? (.reserve selector method excluded) = none := by
        rw [reserved?, hsame]
      rw [after, hsame] at hslot'
      exact .kept hslot' nofun (by simp [hnone])
    · have hreserved : registry.reserved? (.reserve selector method excluded) =
          some ⟨chosen.handle⟩ := by
        rw [reserved?, hreserve]
      rw [after, hreserve] at hslot'
      rcases mem_selected.1 hslot' with ⟨hslot, hne⟩ | ⟨old, hold, hid, rfl⟩
      · refine .kept hslot nofun fun reservation hmade hid => hne ?_
        rw [hreserved] at hmade
        cases hmade
        exact hid.symm
      · obtain rfl : old = chosen := h.eq_of_id_eq hold (mem_pool.1 hpool).1 hid
        exact .selected hpool hreserved
  | reserveEntry id =>
    rcases reserveEntry_cases registry id with ⟨hsame, -⟩ | ⟨found, hfind, hactive, hreserve⟩
    · have hnone : registry.reserved? (.reserveEntry id) = none := by rw [reserved?, hsame]
      rw [after, hsame] at hslot'
      exact .kept hslot' nofun (by simp [hnone])
    · have hreserved : registry.reserved? (.reserveEntry id) = some ⟨found.handle⟩ := by
        rw [reserved?, hreserve]
      rw [after, hreserve, slots_update] at hslot'
      rcases mem_alter.1 hslot' with ⟨hslot, hne⟩ | ⟨old, hold, rfl, hchanged⟩
      · refine .kept hslot nofun fun reservation hmade hid => hne ?_
        rw [hreserved] at hmade
        cases hmade
        exact hid.symm.trans (id_of_find? hfind)
      · cases hchanged
        obtain rfl : old = found := h.eq_of_find? hfind hold rfl
        exact .engaged hold (EntryState.isSelectable_iff.1 hactive) hreserved
  | _ => cases hop

/-! ## Results -/

/-- An empty registry is consistent after any operations. -/
lemma consistent_run (ops : List Op) : (({} : Registry).run ops).Consistent :=
  kept_consistent.run ops consistent_empty

/-- In a consistent registry only an unknown connection cannot be told to drain. -/
lemma Consistent.beginDrain_eq_error_iff (h : registry.Consistent) (now : Nat) (id : EntryId)
    (error : RegistryError) :
    (registry.beginDrain now id).2 = .error error ↔
      registry.contains id = false ∧ error = .notFound id := by
  rw [contains_eq_false_iff]
  unfold Registry.beginDrain
  cases hfind : registry.find? id with
  | none => simp [eq_comm]
  | some slot =>
    refine iff_of_false ?_ (by simp)
    dsimp only
    split
    · simp
    · next hnot =>
      rw [if_pos ((h.sound slot (mem_of_find? hfind)).canBecome_draining hnot)]
      split <;> simp

/-- In a consistent registry every connection may be told to drain. -/
lemma Consistent.beginDrain_ne_invalid (h : registry.Consistent) (now : Nat) (id : EntryId)
    (source target : EntryState) :
    (registry.beginDrain now id).2 ≠ .error (.invalidTransition source target) := by
  intro hinvalid
  have hunknown := (h.beginDrain_eq_error_iff now id _).1 hinvalid
  cases hunknown.2

/-- **Consistency.** After any sequence of operations, on the registry and on reservations, every
slot is active or drains, with the time noted exactly for those that drain and a call left on each
of them; no slot was selected later than the last selection, and two of them by the same selection
only if neither ever was; and every uri leads to a registered connection that was dialed there.
Hence no connection is in a state from which it could not be told to drain. -/
theorem run_consistent (ops : List Op) :
    (({} : Registry).run ops).Consistent ∧
      ∀ now id source target,
        ((({} : Registry).run ops).beginDrain now id).2 ≠
          .error (.invalidTransition source target) :=
  ⟨consistent_run ops, (consistent_run ops).beginDrain_ne_invalid⟩

end Registry

end CallDispatch
