import CallDispatch.Proofs.Dispatch.Traffic
import CallDispatch.Proofs.Registry.Cache

/-!
# Attempts

A dispatch counts a call against a connection before it knows whether the request is delivered, and
takes the call back if it is not. Here is what is left of an attempt then: a connection that was
selected from a pool has a new stamp and nothing else (`rollBack_reserve`), one that was reserved by
its id is as it was (`rollBack_reserveEntry`), and one whose peer is dead has been told to drain
besides. A dispatch that goes on from one dead peer to the next leaves a registry that differs from
the one it found in those connections only (`Registry.Searched`), and each further attempt adds one
to them (`Searched.fail`).

## Main definitions

* `peerFailed`: the answer of a link that says that its peer is dead.
* `Registry.mark`: the registry after a selection, whatever became of the chosen slot.
* `Registry.Searched`: a registry in which some connections turned out to be dead, one after
  another.
-/

namespace CallDispatch

open Text

/-- Whether the answer of a link says that its peer is dead. -/
def peerFailed : Except LinkError Unit → Bool
  | .ok () => false
  | .error error => error.isPeerFailure

/-- A peer that is not dead takes the request, or the request is too large for it. -/
lemma peerFailed_eq_false_iff {answer : Except LinkError Unit} :
    peerFailed answer = false ↔ answer = .ok () ∨ ∃ length, answer = .error (.tooLarge length) := by
  rcases answer with (_ | _ | _ | length) | ⟨⟩ <;> simp [peerFailed, LinkError.isPeerFailure]

namespace Slot

/-- The slot with the number of another selection as the last one. -/
def stamped (seq : Nat) (slot : Slot) : Slot :=
  { slot with lastUsed := seq }

lemma id_stamped (seq : Nat) (slot : Slot) : (slot.stamped seq).id = slot.id := rfl

lemma id_selected (seq : Nat) (slot : Slot) : (slot.selected seq).id = slot.id := rfl

/-- An active connection that was selected and is told to drain closes if it has no other calls. -/
lemma drained_stamped {slot : Slot} (hactive : slot.state = .active) (seq now : Nat) :
    (slot.stamped seq).drained now = if slot.calls = 0 then none
      else some { slot with state := .draining, drainingSince := some now, lastUsed := seq } := by
  have hcan : (slot.stamped seq).state.canBecome .draining = true := by
    rw [stamped, hactive]
    rfl
  rw [drained, if_pos hcan]
  rfl

end Slot

namespace Registry

variable {registry : Registry} {id other : EntryId} {slot : Slot} {selector : Selector}
  {method : Option String} {excluded : List EntryId} {reservation : Reservation}

/-! ## Selections -/

/-- The registry when the next selection has chosen a connection, and `change` is what the selection
with its number left of the slot. -/
def mark (registry : Registry) (id : EntryId) (change : Nat → Slot → Slot) : Registry :=
  { registry.update id (change (registry.lastSeq + 1)) with lastSeq := registry.lastSeq + 1 }

section Mark

variable {change : Nat → Slot → Slot} (hid : ∀ seq slot, (change seq slot).id = slot.id)

include hid

lemma find?_mark (hfind : registry.find? id = some slot) :
    (registry.mark id change).find? id = some (change (registry.lastSeq + 1) slot) := by
  have hupdate : (registry.mark id change).find? id =
      (registry.find? id).map (change (registry.lastSeq + 1)) := find?_update (hid _)
  rw [hupdate, hfind, Option.map_some]

lemma find?_mark_of_ne (hne : other ≠ id) :
    (registry.mark id change).find? other = registry.find? other :=
  find?_update_of_ne (hid _) hne

lemma contains_mark (other : EntryId) :
    (registry.mark id change).contains other = registry.contains other :=
  contains_update (hid _) other

end Mark

/-- A selection marks an active connection of the pool as selected. -/
lemma exists_of_reserve_eq_some (h : registry.Ascending)
    (hreserve : (registry.reserve selector method excluded).2 = some reservation) :
    ∃ slot, registry.find? reservation.handle.id = some slot ∧ slot.handle = reservation.handle ∧
      slot.state = .active ∧
      (registry.reserve selector method excluded).1 =
        registry.mark reservation.handle.id Slot.selected := by
  rcases reserve_cases registry selector method excluded with
    ⟨hsame, -⟩ | ⟨chosen, hpool, -, -, hchosen⟩
  · rw [hsame] at hreserve
    cases hreserve
  · rw [hchosen] at hreserve ⊢
    cases hreserve
    obtain ⟨hslot, hinPool⟩ := mem_pool.1 hpool
    refine ⟨chosen, (find?_eq_some_iff h).2 ⟨hslot, rfl⟩, rfl, Slot.active_of_inPool hinPool, ?_⟩
    rw [← slots_update]
    rfl

/-- Reserving a call on a connection by its id counts it, if the connection is active. -/
lemma exists_of_reserveEntry_eq_some (hreserve : (registry.reserveEntry id).2 = some reservation) :
    ∃ slot, registry.find? reservation.handle.id = some slot ∧ slot.state = .active ∧
      (registry.reserveEntry id).1 =
        registry.update reservation.handle.id fun s => { s with calls := s.calls + 1 } := by
  rcases reserveEntry_cases registry id with ⟨hsame, -⟩ | ⟨slot, hfind, hselectable, hengaged⟩
  · rw [hsame] at hreserve
    cases hreserve
  · rw [hengaged] at hreserve ⊢
    cases hreserve
    have hid : slot.handle.id = id := id_of_find? hfind
    exact ⟨slot, hid ▸ hfind, EntryState.isSelectable_iff.1 hselectable, by rw [hid]⟩

/-- A selection that finds nobody changes nothing. -/
lemma eq_of_reserve_eq_none (hreserve : (registry.reserve selector method excluded).2 = none) :
    (registry.reserve selector method excluded).1 = registry := by
  rcases reserve_cases registry selector method excluded with
    ⟨hsame, -⟩ | ⟨chosen, -, -, -, hchosen⟩
  · rw [hsame]
  · rw [hchosen] at hreserve
    cases hreserve

/-- Reserving a call on a connection that is not active changes nothing. -/
lemma eq_of_reserveEntry_eq_none (hreserve : (registry.reserveEntry id).2 = none) :
    (registry.reserveEntry id).1 = registry := by
  rcases reserveEntry_cases registry id with ⟨hsame, -⟩ | ⟨slot, -, -, hengaged⟩
  · rw [hsame]
  · rw [hengaged] at hreserve
    cases hreserve

/-! ## Giving a call back -/

/-- Ending a call of an active connection takes the call off. -/
lemma release_of_active (hfind : registry.find? id = some slot) (hactive : slot.state = .active) :
    (registry.release id).1 = registry.update id fun s => { s with calls := s.calls - 1 } := by
  have hnot : ¬(slot.state = .draining ∧ slot.calls - 1 = 0) := by
    rw [hactive]
    rintro ⟨hstate, -⟩
    cases hstate
  rw [release, hfind]
  simp only [if_neg hnot]

/-- Of a selection whose call is given back only the stamp is left. -/
lemma rollBack_reserve (h : registry.Ascending)
    (hreserve : (registry.reserve selector method excluded).2 = some reservation) :
    (registry.reserve selector method excluded).1.rollBack reservation =
      registry.mark reservation.handle.id Slot.stamped := by
  obtain ⟨slot, hfind, -, hactive, hmark⟩ := exists_of_reserve_eq_some h hreserve
  have hselected : (registry.mark reservation.handle.id Slot.selected).find?
      reservation.handle.id = some (slot.selected (registry.lastSeq + 1)) :=
    find?_mark Slot.id_selected hfind
  rw [rollBack, hmark, release_of_active hselected hactive]
  -- the call that is taken off is the one that the selection counted
  have hboth : (registry.update reservation.handle.id (Slot.selected (registry.lastSeq + 1))).update
      reservation.handle.id (fun s => { s with calls := s.calls - 1 }) =
        registry.update reservation.handle.id (Slot.stamped (registry.lastSeq + 1)) :=
    update_update fun _ => rfl
  exact congrArg (fun updated : Registry => { updated with lastSeq := registry.lastSeq + 1 }) hboth

/-- Reserving a call on a connection by its id leaves nothing when the call is given back. -/
lemma rollBack_reserveEntry (hreserve : (registry.reserveEntry id).2 = some reservation) :
    (registry.reserveEntry id).1.rollBack reservation = registry := by
  obtain ⟨slot, hfind, hactive, hengaged⟩ := exists_of_reserveEntry_eq_some hreserve
  have hid : ∀ s : Slot, ({ s with calls := s.calls + 1 } : Slot).id = s.id := fun _ => rfl
  have hfound : (registry.update reservation.handle.id fun s =>
      { s with calls := s.calls + 1 }).find? reservation.handle.id =
        some { slot with calls := slot.calls + 1 } := by
    rw [find?_update hid, hfind, Option.map_some]
  rw [rollBack, hengaged, release_of_active hfound hactive, update_update hid]
  exact update_of_keep fun _ _ _ => rfl

/-- A selection whose call is given back keeps the registry consistent. -/
lemma Consistent.mark_stamped (h : registry.Consistent)
    (hreserve : (registry.reserve selector method excluded).2 = some reservation) :
    (registry.mark reservation.handle.id Slot.stamped).Consistent := by
  rw [← rollBack_reserve h.ascending hreserve]
  exact (h.reserve selector method excluded).release _

/-! ## Dead peers -/

lemma Consistent.abandonDead (h : registry.Consistent) (now : Nat) (reservation : Reservation) :
    (registry.abandonDead now reservation).Consistent :=
  (h.release reservation.handle.id).beginDrain now reservation.handle.id

/-- The slot of a connection that was selected and whose peer is dead. -/
lemma find?_abandonDead_reserve (h : registry.Consistent)
    (hreserve : (registry.reserve selector method excluded).2 = some reservation)
    (hfind : registry.find? reservation.handle.id = some slot) (time : Nat) :
    ((registry.reserve selector method excluded).1.abandonDead time reservation).find?
      reservation.handle.id = (slot.stamped (registry.lastSeq + 1)).drained time := by
  rw [abandonDead, rollBack_reserve h.ascending hreserve,
    find?_beginDrain (h.mark_stamped hreserve).ascending, find?_mark Slot.id_stamped hfind,
    Option.bind_some]

/-- Nothing happens to the other connections. -/
lemma find?_abandonDead_reserve_of_ne (h : registry.Consistent)
    (hreserve : (registry.reserve selector method excluded).2 = some reservation)
    (hne : other ≠ reservation.handle.id) (time : Nat) :
    ((registry.reserve selector method excluded).1.abandonDead time reservation).find? other =
      registry.find? other := by
  rw [abandonDead, rollBack_reserve h.ascending hreserve,
    find?_beginDrain_of_ne (h.mark_stamped hreserve).ascending time hne,
    find?_mark_of_ne Slot.id_stamped hne]

/-- What is left when connections of pools have been selected in turn, and the peer of each has
turned out to be dead at some time. -/
structure Searched (before : Registry) (dead : List (Handle × Nat)) (now : Registry) : Prop where
  consistent : now.Consistent
  lastSeq_eq : now.lastSeq = before.lastSeq + dead.length
  /-- They had been active, and are closed now or drain. -/
  of_dead : ∀ k handle time, dead[k]? = some (handle, time) →
    ∃ slot, before.find? handle.id = some slot ∧ slot.state = .active ∧
      now.find? handle.id = if slot.calls = 0 then none else some { slot with
        state := .draining
        drainingSince := some time
        lastUsed := before.lastSeq + k + 1 }
  /-- Nothing has happened to the others. -/
  of_not_dead : ∀ id, (∀ pair ∈ dead, pair.1.id ≠ id) → now.find? id = before.find? id
  /-- The uris of those that closed are forgotten. -/
  outbound_iff : ∀ uri id, (uri, id) ∈ now.outbound ↔
    (uri, id) ∈ before.outbound ∧ now.contains id = true

namespace Searched

variable {before now : Registry} {dead : List (Handle × Nat)}

/-- At first nobody is dead. -/
lemma refl (h : before.Consistent) : before.Searched [] before where
  consistent := h
  lastSeq_eq := rfl
  of_dead := by simp
  of_not_dead _ _ := rfl
  outbound_iff := h.mem_outbound_iff

/-- A connection that turned out to be dead had been active, and is closed now or drains. -/
lemma exists_of_mem (h : before.Searched dead now) {pair : Handle × Nat} (hpair : pair ∈ dead) :
    ∃ slot stamp, before.find? pair.1.id = some slot ∧ slot.state = .active ∧
      now.find? pair.1.id = if slot.calls = 0 then none else some { slot with
        state := .draining
        drainingSince := some pair.2
        lastUsed := stamp } := by
  obtain ⟨k, hk⟩ := List.mem_iff_getElem?.1 hpair
  obtain ⟨slot, hfind, hactive, hnow⟩ := h.of_dead k pair.1 pair.2 hk
  exact ⟨slot, _, hfind, hactive, hnow⟩

/-- A connection that turned out to be dead is not active any more. -/
lemma ne_active (h : before.Searched dead now) {pair : Handle × Nat} (hpair : pair ∈ dead)
    (hfind : now.find? pair.1.id = some slot) : slot.state ≠ .active := by
  obtain ⟨old, stamp, -, -, hnow⟩ := h.exists_of_mem hpair
  rw [hfind] at hnow
  split at hnow
  · cases hnow
  · cases hnow
    simp

/-- The connections that are active now have not been found dead. -/
lemma find?_of_active (h : before.Searched dead now) (hfind : now.find? id = some slot)
    (hactive : slot.state = .active) : (∀ pair ∈ dead, pair.1.id ≠ id) ∧
      before.find? id = some slot := by
  have hnot : ∀ pair ∈ dead, pair.1.id ≠ id := by
    rintro pair hpair rfl
    exact h.ne_active hpair hfind hactive
  exact ⟨hnot, (h.of_not_dead id hnot).symm.trans hfind⟩

/-- A connection that turned out to be dead is in no pool. -/
lemma not_mem_members (h : before.Searched dead now) {pair : Handle × Nat} (hpair : pair ∈ dead) :
    pair.1.id ∉ now.members selector method := by
  intro hmem
  obtain ⟨slot, hpool, hid⟩ := mem_members.1 hmem
  obtain ⟨hslot, hinPool⟩ := mem_pool.1 hpool
  have hfind : now.find? pair.1.id = some slot :=
    (find?_eq_some_iff h.consistent.ascending).2 ⟨hslot, hid⟩
  exact h.ne_active hpair hfind (Slot.active_of_inPool hinPool)

/-- A selection forgets no uri. -/
lemma outbound_mark (h : before.Searched dead now) {change : Nat → Slot → Slot}
    (hid : ∀ seq slot, (change seq slot).id = slot.id) (id : EntryId) :
    ∀ uri other, (uri, other) ∈ (now.mark id change).outbound ↔
      (uri, other) ∈ before.outbound ∧ (now.mark id change).contains other = true := by
  intro uri other
  rw [contains_mark hid]
  exact h.outbound_iff uri other

/-- One more connection is selected, and its peer is dead. -/
lemma fail (h : before.Searched dead now)
    (hreserve : (now.reserve selector method excluded).2 = some reservation) (time : Nat) :
    before.Searched (dead ++ [(reservation.handle, time)])
      ((now.reserve selector method excluded).1.abandonDead time reservation) := by
  obtain ⟨slot, hfind, -, hactive, -⟩ := exists_of_reserve_eq_some h.consistent.ascending hreserve
  obtain ⟨hnew, hbefore⟩ := h.find?_of_active hfind hactive
  have hmarked : (now.mark reservation.handle.id Slot.stamped).Consistent :=
    h.consistent.mark_stamped hreserve
  have hafter : (now.reserve selector method excluded).1.abandonDead time reservation =
      ((now.mark reservation.handle.id Slot.stamped).beginDrain time reservation.handle.id).1 := by
    rw [abandonDead, rollBack_reserve h.consistent.ascending hreserve]
  refine ⟨?_, ?_, fun k handle at' hk => ?_, fun other hnot => ?_, ?_⟩
  · exact (h.consistent.reserve selector method excluded).abandonDead time reservation
  · rw [hafter, lastSeq_beginDrain, List.length_append]
    show now.lastSeq + 1 = before.lastSeq + (dead.length + 1)
    rw [h.lastSeq_eq, Nat.add_assoc]
  · rcases Nat.lt_or_ge k dead.length with hlt | hge
    · rw [List.getElem?_append_left hlt] at hk
      have hne : handle.id ≠ reservation.handle.id := hnew _ (List.mem_of_getElem? hk)
      rw [find?_abandonDead_reserve_of_ne h.consistent hreserve hne]
      exact h.of_dead k handle at' hk
    · -- the last one is the connection that has just been selected
      rw [List.getElem?_append_right hge, List.getElem?_singleton] at hk
      split at hk
      · next hlast =>
        cases hk
        have hk : k = dead.length := by omega
        refine ⟨slot, hbefore, hactive, ?_⟩
        rw [find?_abandonDead_reserve h.consistent hreserve hfind, Slot.drained_stamped hactive,
          h.lastSeq_eq, hk]
      · cases hk
  · -- a connection that is none of them is not the new one either
    have hne : other ≠ reservation.handle.id := fun heq =>
      hnot (reservation.handle, time) (by simp) heq.symm
    rw [find?_abandonDead_reserve_of_ne h.consistent hreserve hne]
    exact h.of_not_dead other fun pair hpair => hnot pair (List.mem_append_left _ hpair)
  · rw [hafter]
    have hforgets := (waning_keepsUris before).beginDrain time reservation.handle.id
      ⟨hmarked, h.outbound_mark Slot.id_stamped _⟩
    exact hforgets.2

end Searched

end Registry

/-! ## Attempts of a dispatch -/

namespace Dispatcher

variable {dispatcher : Dispatcher} {request : Request} {selector : Selector}
  {failed : List EntryId} {uri : String} {id : EntryId} {reservation : Reservation}

/-- The next attempt of a dispatch is at the connection that is selected. -/
lemma tryNext_of_reserve_eq_some
    (hreserve : (dispatcher.registry.reserve selector (some request.method) failed).2 =
      some reservation) (triesLeft : Nat) :
    dispatcher.tryNext request selector (triesLeft + 1) failed =
      ({ dispatcher with
          registry := (dispatcher.registry.reserve selector (some request.method) failed).1 },
        .waiting ⟨request, .pooled selector triesLeft failed, reservation⟩) := by
  have hpair : dispatcher.registry.reserve selector (some request.method) failed =
      ((dispatcher.registry.reserve selector (some request.method) failed).1,
        some reservation) := Prod.ext rfl hreserve
  rw [tryNext, hpair]

/-- A dispatch to a pool where nobody is left to be selected is over. -/
lemma tryNext_of_reserve_eq_none
    (hreserve : (dispatcher.registry.reserve selector (some request.method) failed).2 = none)
    (triesLeft : Nat) :
    dispatcher.tryNext request selector (triesLeft + 1) failed =
      (dispatcher, .finished (.rejected .noAppsConnected)) := by
  have hpair : dispatcher.registry.reserve selector (some request.method) failed =
      (dispatcher.registry, none) :=
    Prod.ext (Registry.eq_of_reserve_eq_none hreserve) hreserve
  rw [tryNext, hpair]

/-- The attempt of a dispatch to a uri is at the connection found there. -/
lemma tryLocated_of_reserveEntry_eq_some
    (hreserve : (dispatcher.registry.reserveEntry id).2 = some reservation) :
    dispatcher.tryLocated request uri id =
      ({ dispatcher with registry := (dispatcher.registry.reserveEntry id).1 },
        .waiting ⟨request, .direct uri, reservation⟩) := by
  have hpair : dispatcher.registry.reserveEntry id =
      ((dispatcher.registry.reserveEntry id).1, some reservation) := Prod.ext rfl hreserve
  rw [tryLocated, hpair]

/-- A dispatch to a uri is over if the connection found there is not active. -/
lemma tryLocated_of_reserveEntry_eq_none
    (hreserve : (dispatcher.registry.reserveEntry id).2 = none) :
    dispatcher.tryLocated request uri id =
      (dispatcher, .finished (.rejected (.noSuchTarget uri))) := by
  have hpair : dispatcher.registry.reserveEntry id = (dispatcher.registry, none) :=
    Prod.ext (Registry.eq_of_reserveEntry_eq_none hreserve) hreserve
  rw [tryLocated, hpair]

/-- What a dispatch does whose peer is dead. -/
lemma settle_of_peerFailed {answer : Except LinkError Unit} (hfailed : peerFailed answer = true)
    (dispatcher : Dispatcher) (now : Nat) (attempt : Attempt) :
    dispatcher.settle now attempt answer =
      afterFailure { dispatcher with
        registry := dispatcher.registry.abandonDead now attempt.reservation } attempt := by
  rcases answer with (_ | _ | _ | length) | ⟨⟩
  · rfl
  · rfl
  · rfl
  · cases hfailed
  · cases hfailed

end Dispatcher

end CallDispatch
