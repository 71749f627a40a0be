import CallDispatch.Proofs.Registry.Turns
import Mathlib.Data.Int.CardIntervalMod
import Mathlib.Data.List.Rotate

/-!
# Round robin

While nobody joins or leaves a pool, its connections are selected strictly in turn, however the
selections interleave with ends of calls and with whatever else happens to the registry: each
selection takes the head of the snapshot and puts it at the end (`reserve_of_queue_eq_cons`), and
everything else leaves the snapshot as it is (`LeavesAlone.snapshot_eq`).

## Main definitions

* `Op.isTurn`: a selection from the pool that excludes nothing.
* `LeavesAlone`: an operation that neither changes who is in the pool nor selects one of them.
* `Undisturbed`: a run of such operations and of selections from the pool.
* `turns`: what the selections from the pool choose, one after another.
-/

namespace CallDispatch

open Text

namespace Registry

variable {registry : Registry} {selector : Selector} {method : Option String}

/-! ## Undisturbed runs -/

/-- The connection that an operation selects from a pool, if it is a selection and finds one. -/
def chosen? (registry : Registry) : Op → Option Handle
  | .reserve selector method excluded =>
    (registry.reserve selector method excluded).2.map Reservation.handle
  | _ => none

/-- Whether an operation is a selection from the pool that excludes nothing. -/
def Op.isTurn (selector : Selector) (method : Option String) : Op → Bool
  | .reserve selector' method' excluded =>
    selector' = selector ∧ method' = method ∧ excluded = []
  | _ => false

/-- Whether an operation settles a reservation or ends a call. -/
def Op.settles : Op → Bool
  | .commit _ | .rollBack _ | .release _ => true
  | _ => false

/-- An operation that changes nothing about who is in a pool, and selects none of them. -/
structure LeavesAlone (registry : Registry) (selector : Selector) (method : Option String)
    (op : Op) : Prop where
  members_iff : ∀ id, id ∈ (registry.after op).members selector method ↔
    id ∈ registry.members selector method
  not_chosen : ∀ handle, registry.chosen? op = some handle →
    handle.id ∉ registry.members selector method

/-- A run of selections from a pool, settlements and operations that leave the pool alone. -/
def Undisturbed (selector : Selector) (method : Option String) : Registry → List Op → Prop
  | _, [] => True
  | registry, op :: rest =>
    (op.isTurn selector method = true ∨ op.settles = true ∨
      registry.LeavesAlone selector method op) ∧
    Undisturbed selector method (registry.after op) rest

/-- What the selections from a pool choose in a run, one after another. -/
def turns (selector : Selector) (method : Option String) : Registry → List Op → List (Option Handle)
  | _, [] => []
  | registry, op :: rest =>
    if op.isTurn selector method then
      registry.chosen? op :: turns selector method (registry.after op) rest
    else turns selector method (registry.after op) rest

/-! ## A selection -/

/-- The head of a queue is the only one of its connections with its id. -/
lemma id_ne_of_queue_eq_cons (h : registry.Ascending) {chosen : Slot} {rest : List Slot}
    (hqueue : registry.queue selector method = chosen :: rest) {other : Slot}
    (hother : other ∈ rest) : other.id ≠ chosen.id := by
  intro hid
  have hpool : ∀ slot ∈ chosen :: rest, slot ∈ registry.slots := by
    intro slot hslot
    rw [← hqueue, mem_queue] at hslot
    exact (mem_pool.1 hslot).1
  have heq : other = chosen := h.eq_of_id_eq (hpool other (List.mem_cons_of_mem _ hother))
    (hpool chosen List.mem_cons_self) hid
  have hturns : ((registry.queue selector method).map Slot.turn).Pairwise Precedes :=
    pairwise_queue h
  rw [hqueue, List.map_cons, List.pairwise_cons] at hturns
  -- the head would have to precede itself
  have hself := hturns.1 other.turn (List.mem_map_of_mem hother)
  rw [heq] at hself
  exact hself.asymm hself

/-- The turns of a pool after a selection: that of the chosen one is new, all others are the old
ones. -/
lemma exists_turn_selected_iff (h : registry.Ascending) {chosen : Slot}
    (hchosen : chosen ∈ registry.pool selector method) {seq : Nat} {turn : Handle × Nat} :
    (∃ slot ∈ ({ registry with
        slots := alter chosen.id (fun s => some (s.selected seq)) registry.slots
        lastSeq := seq } : Registry).pool selector method, slot.turn = turn) ↔
      (∃ slot ∈ registry.pool selector method, slot.id ≠ chosen.id ∧ slot.turn = turn) ∨
        turn = (chosen.handle, seq) := by
  simp only [mem_pool, mem_selected]
  constructor
  · rintro ⟨slot, ⟨⟨hmem, hid⟩ | ⟨old, hold, hid, rfl⟩, hpool⟩, hturn⟩
    · exact Or.inl ⟨slot, ⟨hmem, hpool⟩, hid, hturn⟩
    · have heq : old = chosen := h.eq_of_id_eq hold (mem_pool.1 hchosen).1 hid
      rw [← hturn, heq]
      exact Or.inr rfl
  · rintro (⟨slot, ⟨hmem, hpool⟩, hid, hturn⟩ | hturn)
    · exact ⟨slot, ⟨Or.inl ⟨hmem, hid⟩, hpool⟩, hturn⟩
    · obtain ⟨hmem, hpool⟩ := mem_pool.1 hchosen
      exact ⟨chosen.selected seq, ⟨Or.inr ⟨chosen, hmem, rfl, rfl⟩, hpool⟩, hturn.symm⟩

/-- A selection takes the head of the queue and puts it at the end of the snapshot. -/
lemma reserve_of_queue_eq_cons (h : registry.Consistent) {chosen : Slot} {rest : List Slot}
    (hqueue : registry.queue selector method = chosen :: rest) :
    (registry.reserve selector method []).2 = some ⟨chosen.handle⟩ ∧
      (registry.reserve selector method []).1.snapshot selector method =
        rest.map Slot.handle ++ [chosen.handle] := by
  have hmem : ∀ slot, slot ∈ registry.pool selector method ↔ slot = chosen ∨ slot ∈ rest := by
    intro slot
    rw [← mem_queue, hqueue, List.mem_cons]
  have hchosen : chosen ∈ registry.pool selector method := (hmem chosen).2 (Or.inl rfl)
  rcases reserve_cases registry selector method [] with
    ⟨-, hnone⟩ | ⟨slot, -, -, hleast, hreserve⟩
  · exact absurd (hnone chosen hchosen) List.not_mem_nil
  have hhead : slot = chosen := by
    rw [leastUsed?_filter, ← queue, hqueue] at hleast
    simpa using hleast.symm
  subst hhead
  have hconsistent := h.reserve selector method []
  rw [hreserve] at hconsistent ⊢
  refine ⟨rfl, ?_⟩
  -- the new queue: the rest as it was, and the chosen one behind it with the newest stamp
  have hturns : (rest.map Slot.turn ++ [(slot.handle, registry.lastSeq + 1)]).Pairwise
      Precedes := by
    have hold : ((registry.queue selector method).map Slot.turn).Pairwise Precedes :=
      pairwise_queue h.ascending
    rw [hqueue, List.map_cons, List.pairwise_cons] at hold
    refine List.pairwise_append.2 ⟨hold.2, List.pairwise_singleton _ _, fun a ha b hb => ?_⟩
    obtain ⟨other, hother, rfl⟩ := List.mem_map.1 ha
    rw [List.mem_singleton.1 hb]
    exact Or.inl (Nat.lt_succ_of_le
      (h.lastUsed_le other (mem_pool.1 ((hmem other).2 (Or.inr hother))).1))
  rw [snapshot_eq_of_turns hconsistent.ascending hturns fun turn => ?_]
  · simp [Slot.turn]
  · rw [exists_turn_selected_iff h.ascending hchosen, List.mem_append, List.mem_map,
      List.mem_singleton]
    refine or_congr_left ⟨?_, ?_⟩
    · rintro ⟨other, hother, hturn⟩
      exact ⟨other, (hmem other).2 (Or.inr hother),
        id_ne_of_queue_eq_cons h.ascending hqueue hother, hturn⟩
    · rintro ⟨other, hother, hid, hturn⟩
      rcases (hmem other).1 hother with rfl | hrest
      · exact absurd rfl hid
      · exact ⟨other, hrest, hturn⟩

/-! ## Everything else -/

/-- A connection keeps its turn under an operation that does not select it. -/
lemma turn_eq_of_not_chosen (h : registry.Consistent) (op : Op) {slot slot' : Slot}
    (hslot : slot ∈ registry.slots) (hslot' : slot' ∈ (registry.after op).slots)
    (hid : slot'.id = slot.id)
    (hnot : ∀ handle, registry.chosen? op = some handle → handle.id ≠ slot.id) :
    slot'.turn = slot.turn := by
  -- it is enough to find the turn among the old slots, whose ids are distinct
  have hunique : (∃ old ∈ registry.slots, old.turn = slot'.turn) → slot'.turn = slot.turn := by
    rintro ⟨old, hold, hturn⟩
    have holdid : old.id = slot'.id := congrArg (fun turn => turn.1.id) hturn
    rw [← hturn, h.ascending.eq_of_id_eq hold hslot (holdid.trans hid)]
  by_cases hwanes : op.wanes = true
  · exact hunique (((waning_keepsTurns registry).after hwanes
      ⟨h, fun old hold => ⟨old, hold, rfl⟩⟩).2 slot' hslot')
  · cases arises_of_mem_after h.ascending (Bool.eq_false_iff.2 hwanes) hslot' with
    | kept hold => exact hunique ⟨slot', hold, rfl⟩
    | added hnew => exact absurd hid.symm (hnew slot hslot)
    | asked method hold => exact hunique ⟨_, hold, rfl⟩
    | selected hpool hreserved =>
      exact absurd hid (hnot _ (congrArg (Option.map Reservation.handle) hreserved))
    | engaged hold => exact hunique ⟨_, hold, rfl⟩

/-- What leaves a pool alone leaves its snapshot as it is. -/
lemma LeavesAlone.snapshot_eq {op : Op} (hop : registry.LeavesAlone selector method op)
    (h : registry.Consistent) :
    (registry.after op).snapshot selector method = registry.snapshot selector method := by
  have hturn : ∀ slot ∈ registry.pool selector method,
      ∀ slot' ∈ (registry.after op).pool selector method, slot'.id = slot.id →
        slot'.turn = slot.turn := by
    intro slot hslot slot' hslot' hid
    refine turn_eq_of_not_chosen h op (mem_pool.1 hslot).1 (mem_pool.1 hslot').1 hid ?_
    intro handle hchosen heq
    exact hop.not_chosen handle hchosen (mem_members.2 ⟨slot, hslot, heq.symm⟩)
  refine snapshot_congr h.ascending (kept_consistent.after op h).ascending fun turn => ?_
  constructor
  · rintro ⟨slot', hslot', rfl⟩
    obtain ⟨slot, hslot, hid⟩ :=
      mem_members.1 ((hop.members_iff _).1 (mem_members.2 ⟨slot', hslot', rfl⟩))
    exact ⟨slot, hslot, (hturn slot hslot slot' hslot' hid.symm).symm⟩
  · rintro ⟨slot, hslot, rfl⟩
    obtain ⟨slot', hslot', hid⟩ :=
      mem_members.1 ((hop.members_iff _).2 (mem_members.2 ⟨slot, hslot, rfl⟩))
    exact ⟨slot', hslot', hturn slot hslot slot' hslot' hid⟩

/-- Ending a call closes no connection of a pool, and lets none join. -/
lemma leavesAlone_release (h : registry.Consistent) (id : EntryId) :
    registry.LeavesAlone selector method (.release id) := by
  refine ⟨fun other => ?_, by simp [chosen?]⟩
  simp only [mem_members, mem_pool, after, slots_release h.ascending, mem_alter]
  constructor
  · rintro ⟨slot, ⟨⟨hmem, -⟩ | ⟨old, hold, -, hnew⟩, hpool⟩, hid⟩
    · exact ⟨slot, ⟨hmem, hpool⟩, hid⟩
    · obtain rfl := Slot.eq_of_released hnew
      exact ⟨old, ⟨hold, hpool⟩, hid⟩
  · rintro ⟨slot, ⟨hmem, hpool⟩, rfl⟩
    by_cases hid : slot.id = id
    · -- a connection of the pool does not drain, so it stays
      have hactive : slot.state ≠ .draining := by
        intro hdraining
        simp [Slot.inPool, hdraining, EntryState.isSelectable] at hpool
      refine ⟨{ slot with calls := slot.calls - 1 }, ⟨Or.inr ⟨slot, hmem, hid, ?_⟩, hpool⟩, rfl⟩
      rw [Slot.released, if_neg fun hlast => hactive hlast.1]
    · exact ⟨slot, ⟨Or.inl ⟨hmem, hid⟩, hpool⟩, rfl⟩

/-- Settling a reservation leaves every pool alone. -/
lemma leavesAlone_of_settles (h : registry.Consistent) {op : Op} (hop : op.settles = true) :
    registry.LeavesAlone selector method op := by
  cases op with
  | commit reservation => exact ⟨fun _ => Iff.rfl, by simp [chosen?]⟩
  | rollBack reservation =>
    exact ⟨(leavesAlone_release h reservation.handle.id).members_iff, by simp [chosen?]⟩
  | release id => exact leavesAlone_release h id
  | _ => cases hop

/-! ## Whole runs -/

/-- A selection from a pool that is not empty takes the head of the snapshot and rotates it. -/
lemma after_of_isTurn (h : registry.Consistent) {op : Op}
    (hop : op.isTurn selector method = true)
    (hne : 0 < (registry.snapshot selector method).length) :
    registry.chosen? op = (registry.snapshot selector method)[0]? ∧
      (registry.after op).snapshot selector method =
        (registry.snapshot selector method).rotate 1 := by
  cases op with
  | reserve selector' method' excluded =>
    simp only [Op.isTurn, decide_eq_true_eq] at hop
    obtain ⟨rfl, rfl, rfl⟩ := hop
    rw [snapshot_eq] at hne ⊢
    cases hqueue : registry.queue selector' method' with
    | nil => simp [hqueue] at hne
    | cons chosen rest =>
      obtain ⟨hchosen, hsnapshot⟩ := reserve_of_queue_eq_cons h hqueue
      refine ⟨by simp [chosen?, hchosen], ?_⟩
      rw [after, hsnapshot]
      simp
  | _ => cases hop

/-- In an undisturbed run the connections of the pool are selected in the order of the snapshot,
over and over, and the snapshot is rotated by one place for each selection. -/
lemma Undisturbed.turns_spec {ops : List Op} (hops : Undisturbed selector method registry ops)
    (h : registry.Consistent) (hne : 0 < (registry.snapshot selector method).length) :
    (∀ k < (turns selector method registry ops).length,
        (turns selector method registry ops)[k]? =
          some (registry.snapshot selector method)[k %
            (registry.snapshot selector method).length]?) ∧
      (registry.run ops).snapshot selector method =
        (registry.snapshot selector method).rotate (turns selector method registry ops).length := by
  induction ops generalizing registry with
  | nil => simp [turns]
  | cons op rest ih =>
    obtain ⟨hop, hrest⟩ := hops
    have hafter := kept_consistent.after op h
    rw [turns, run_cons]
    by_cases hturn : op.isTurn selector method = true
    · -- a selection takes the head, and what follows is a run from the rotated snapshot
      obtain ⟨hchosen, hrotate⟩ := after_of_isTurn h hturn hne
      have hlength : ((registry.after op).snapshot selector method).length =
          (registry.snapshot selector method).length := by
        rw [hrotate, List.length_rotate]
      obtain ⟨hturns, hsnapshot⟩ := ih hrest hafter (by rwa [hlength])
      rw [if_pos hturn]
      refine ⟨fun k hk => ?_, ?_⟩
      · cases k with
        | zero => simp [hchosen]
        | succ k =>
          rw [List.getElem?_cons_succ, hturns k (Nat.lt_of_succ_lt_succ hk), hlength, hrotate,
            List.getElem?_rotate (Nat.mod_lt _ hne), Nat.mod_add_mod]
      · rw [hsnapshot, hrotate, List.rotate_rotate, List.length_cons, Nat.add_comm]
    · -- anything else leaves the snapshot as it is
      have hsame : (registry.after op).snapshot selector method =
          registry.snapshot selector method := by
        rcases hop with hop | hop | hop
        · exact absurd hop hturn
        · exact (leavesAlone_of_settles h hop).snapshot_eq h
        · exact hop.snapshot_eq h
      have hspec := ih hrest hafter (by rwa [hsame])
      rw [hsame] at hspec
      rwa [if_neg hturn]

/-! ## Fairness -/

/-- Of the first numbers, those with one remainder are as many as those with another, give or take
one. -/
lemma countP_mod_eq {n i : Nat} (hi : i < n) (m : Nat) :
    (List.range m).countP (fun k => decide (k % n = i)) = m / n ∨
      (List.range m).countP (fun k => decide (k % n = i)) = (m + n - 1) / n := by
  have hcount : (List.range m).countP (fun k => decide (k % n = i)) =
      m / n + if i < m % n then 1 else 0 := by
    have hmod := Nat.count_modEq_card m (Nat.zero_lt_of_lt hi) i
    simp only [Nat.ModEq, Nat.mod_eq_of_lt hi] at hmod
    exact hmod
  rw [hcount]
  split
  · next hlt =>
    right
    -- there is a remainder, so the quotient that is rounded up is one more
    have hpos : 0 < m % n := Nat.zero_lt_of_lt hlt
    have hmod : m % n < n := Nat.mod_lt m (Nat.zero_lt_of_lt hi)
    have hceil : m + n - 1 = (m % n - 1) + n * (m / n + 1) := by
      have hdiv := Nat.mod_add_div m n
      rw [Nat.mul_add]
      omega
    have hsmall : m % n - 1 < n := Nat.lt_of_le_of_lt (Nat.sub_le _ _) hmod
    rw [hceil, Nat.add_mul_div_left _ _ (Nat.zero_lt_of_lt hi), Nat.div_eq_of_lt hsmall,
      Nat.zero_add]
  · exact Or.inl (Nat.add_zero _)

/-- Whoever goes over a list without repetitions again and again comes upon each of its elements
equally often, give or take one. -/
lemma count_of_cyclic {handles : List Handle} (hnodup : handles.Nodup)
    {picks : List (Option Handle)}
    (hpicks : ∀ k < picks.length, picks[k]? = some handles[k % handles.length]?)
    {handle : Handle} (hmem : handle ∈ handles) :
    picks.count (some handle) = picks.length / handles.length ∨
      picks.count (some handle) = (picks.length + handles.length - 1) / handles.length := by
  obtain ⟨i, hi, rfl⟩ := List.getElem_of_mem hmem
  -- the picks are the handles at the remainders of 0, 1, 2, …
  have hcyclic : picks = (List.range picks.length).map fun k => handles[k % handles.length]? := by
    refine List.ext_getElem? fun k => ?_
    by_cases hk : k < picks.length
    · rw [hpicks k hk]
      simp [hk]
    · simp [hk]
  have hcount : picks.count (some handles[i]) =
      (List.range picks.length).countP fun k => decide (k % handles.length = i) := by
    rw [List.count, hcyclic, List.countP_map]
    simp only [List.length_map, List.length_range]
    refine List.countP_congr fun k _ => ?_
    have hlt : k % handles.length < handles.length := Nat.mod_lt _ (Nat.zero_lt_of_lt hi)
    simp only [Function.comp_apply, List.getElem?_eq_getElem hlt, beq_iff_eq, Option.some.injEq,
      hnodup.getElem_inj_iff, decide_eq_true_eq]
  rw [hcount]
  exact countP_mod_eq hi picks.length

/-- **Round robin.** From every reachable state, as long as nobody joins or leaves a pool that is
not empty and none of it is selected in another way, the selections from the pool choose its
connections in the order of the snapshot, over and over. Every connection is chosen equally often,
give or take one, and the snapshot ends up rotated by the number of selections. -/
theorem reserve_round_robin (history ops : List Op) (selector : Selector) (method : Option String)
    {registry : Registry} (hregistry : registry = ({} : Registry).run history)
    {handles : List Handle} (hhandles : handles = registry.snapshot selector method)
    (hne : 0 < handles.length) (hops : Undisturbed selector method registry ops)
    {picks : List (Option Handle)} (hpicks : picks = turns selector method registry ops) :
    (∀ k < picks.length, ∃ handle, handles[k % handles.length]? = some handle ∧
        picks[k]? = some (some handle)) ∧
      (∀ handle ∈ handles, picks.count (some handle) = picks.length / handles.length ∨
        picks.count (some handle) = (picks.length + handles.length - 1) / handles.length) ∧
      (registry.run ops).snapshot selector method =
        handles.rotate (picks.length % handles.length) := by
  have h : registry.Consistent := hregistry ▸ consistent_run history
  subst hhandles hpicks
  obtain ⟨hturns, hsnapshot⟩ := hops.turns_spec h hne
  refine ⟨fun k hk => ?_, fun handle hmem => ?_, ?_⟩
  · have hlt : k % (registry.snapshot selector method).length <
        (registry.snapshot selector method).length := Nat.mod_lt _ hne
    refine ⟨_, List.getElem?_eq_getElem hlt, ?_⟩
    rw [hturns k hk, List.getElem?_eq_getElem hlt]
  · exact count_of_cyclic (nodup_snapshot h.ascending) hturns hmem
  · rw [hsnapshot, List.rotate_mod]

/-- Two applications without tags connect to the server. -/
def twoJoin : List Op :=
  [.add ⟨⟨1, .inbound, .plain, .empty, none, none, 1⟩, .connecting⟩,
    .add ⟨⟨2, .inbound, .plain, .empty, none, none, 2⟩, .connecting⟩]

/-- Three selections, and in between a call that is reserved directly, one that is rolled back and
one that ends. -/
def threeTurns : List Op :=
  [.reserve .untagged (some "Invite") [],
    .reserveEntry 2,
    .reserve .untagged (some "Invite") [],
    .rollBack ⟨⟨2, .inbound, .plain, .empty, none, none, 2⟩⟩,
    .release 1,
    .reserve .untagged (some "Invite") []]

theorem reserve_round_robin_two_join :
    let registry := ({} : Registry).run twoJoin
    let handles := registry.snapshot .untagged (some "Invite")
    let picks := turns .untagged (some "Invite") registry threeTurns
    picks.length = 3 ∧ handles.length = 2 ∧
      Undisturbed .untagged (some "Invite") registry threeTurns ∧
      (∀ k < picks.length, ∃ handle, handles[k % handles.length]? = some handle ∧
        picks[k]? = some (some handle)) ∧
      (∀ handle ∈ handles, picks.count (some handle) = picks.length / handles.length ∨
        picks.count (some handle) = (picks.length + handles.length - 1) / handles.length) ∧
      (registry.run threeTurns).snapshot .untagged (some "Invite") =
        handles.rotate (picks.length % handles.length) := by
  intro registry handles picks
  have hlength : handles.length = 2 := by
    simp only [handles, snapshot, List.length_map, List.length_mergeSort]
    decide
  have hreserved : registry.after (.reserve .untagged (some "Invite") [])
      |>.LeavesAlone .untagged (some "Invite") (.reserveEntry 2) := by
    refine ⟨fun id => ?_, by simp [chosen?]⟩
    have hbefore : (registry.after (.reserve .untagged (some "Invite") [])).members .untagged
        (some "Invite") = [1, 2] := by decide
    have hbehind : ((registry.after (.reserve .untagged (some "Invite") [])).after
        (.reserveEntry 2)).members .untagged (some "Invite") = [1, 2] := by decide
    rw [hbefore, hbehind]
  have hundisturbed : Undisturbed .untagged (some "Invite") registry threeTurns :=
    ⟨Or.inl rfl, Or.inr (Or.inr hreserved), Or.inl rfl, Or.inr (Or.inl rfl), Or.inr (Or.inl rfl),
      Or.inl rfl, trivial⟩
  exact ⟨by decide, hlength, hundisturbed,
    reserve_round_robin twoJoin threeTurns .untagged (some "Invite") rfl rfl
      (hlength ▸ Nat.zero_lt_two) hundisturbed rfl⟩

end Registry

end CallDispatch
