import CallDispatch.Proofs.Registry.Overtaking

/-!
# Who is in a pool

The snapshot of a pool is made from what the registry keeps about its connections now. Here it is
told from what has happened: a connection is in a pool because of what it said of itself when it was
registered, because it does not drain, and because of the methods it has asked for since.

The last part needs the run. An operation leaves the methods of a connection alone, or it is the
request for one more, or it registers the connection, which then has asked for none
(`methods_after`). So the methods of a connection are those that it has asked for in a step after
which it was never away (`mem_methods_iff`).

## Main definitions

* `Asked`: a connection asked for a method in a step of a run and has been registered ever since.
* `Selector.Admits`: which connections a pool is for, by their tags.
* `Registry.stampOf`: the number of the selection that chose a connection last.
-/

namespace CallDispatch

open Text

/-- Connections with these tags belong to the pool. -/
def Selector.Admits : Selector → TagSet → Prop
  | untagged, tags => tags.toList = []
  | tag t, tags => t ∈ tags.toList

instance (selector : Selector) (tags : TagSet) : Decidable (selector.Admits tags) :=
  match selector with
  | .untagged => inferInstanceAs (Decidable (tags.toList = []))
  | .tag t => inferInstanceAs (Decidable (t ∈ tags.toList))

/-- A connection may get requests of a pool exactly if the pool is for its tags. -/
lemma Handle.accepts_iff {handle : Handle} {selector : Selector} :
    handle.accepts selector.tag? = true ↔ selector.Admits handle.tags := by
  cases selector with
  | untagged => exact List.isEmpty_iff
  | tag t => exact decide_eq_true_iff

/-- Only a tag is among tags: a text that is empty or has blanks around it is not. -/
lemma TagSet.isTag_of_mem {tags : TagSet} {tag : String} (h : tag ∈ tags.toList) :
    tag ≠ "" ∧ trim tag = tag :=
  have htag : IsTag tag := tags.areTags tag h
  ⟨htag.1, htag.trim_eq⟩

/-- A slot takes a method if its connection asked for none, or for this one. -/
lemma Slot.takes_iff {slot : Slot} {method : String} :
    slot.takes (some method) = true ↔ (∀ t, ¬ t ∈ slot.methods) ∨ method ∈ slot.methods := by
  rw [takes, Bool.or_eq_true, TextSet.isEmpty_iff, decide_eq_true_iff]

namespace Registry

/-- The number of the selection that chose a connection last. -/
def stampOf (registry : Registry) (id : EntryId) : Nat :=
  (registry.find? id).elim 0 Slot.lastUsed

/-- A connection asked for a method in a step of a run, was not refused, and has been registered
from there to another step. -/
structure Asked (ops : List Op) (id : EntryId) (method : String) (k n : Nat) : Prop where
  lt : k < n
  op_eq : ops[k]? = some (.subscribe id method)
  succeeded : ∃ new, ((stateAt ops k).subscribe id method).2 = .ok new
  registered : ∀ m, k < m → m ≤ n → (stateAt ops m).contains id = true

variable {registry : Registry} {ops : List Op} {op : Op} {id : EntryId} {selector : Selector}
  {method : String} {k n : Nat}

lemma stampOf_of_mem (h : registry.Ascending) {slot : Slot} (hslot : slot ∈ registry.slots) :
    registry.stampOf slot.id = slot.lastUsed := by
  rw [stampOf, (find?_eq_some_iff h).2 ⟨hslot, rfl⟩]
  rfl

/-! ## The methods after one operation -/

/-- A connection may ask for a method exactly if it is registered. -/
lemma subscribe_eq_ok_iff :
    (∃ new, (registry.subscribe id method).2 = .ok new) ↔ registry.contains id = true := by
  rw [contains, subscribe]
  cases registry.find? id with
  | none => simp
  | some slot => exact iff_of_true ⟨_, rfl⟩ rfl

/-- A slot has kept the id and the methods of another one. -/
def KeepsMethods (slot slot' : Slot) : Prop :=
  slot'.id = slot.id ∧ slot'.methods = slot.methods

lemma KeepsMethods.trans {a b c : Slot} (h : KeepsMethods a b) (h' : KeepsMethods b c) :
    KeepsMethods a c :=
  ⟨h'.1.trans h.1, h'.2.trans h.2⟩

/-- Ending calls, draining and closing keeps the methods of the connections that stay. -/
lemma waning_keepsMethods (registry : Registry) :
    Waning fun other => other.Consistent ∧
      ∀ slot' ∈ other.slots, ∃ slot ∈ registry.slots, KeepsMethods slot slot' := by
  refine waning_of_slots KeepsMethods KeepsMethods.trans (fun hdrained => ?_)
    (fun hreleased => ?_) registry
  · rcases Slot.drained_cases hdrained with ⟨-, rfl⟩ | rfl
    · exact ⟨rfl, rfl⟩
    · exact ⟨rfl, rfl⟩
  · rw [Slot.eq_of_released hreleased]
    exact ⟨rfl, rfl⟩

/-- What an operation does to the methods of a connection that is registered afterwards: nothing,
unless it asks for one more, or registers the connection, which has none then. -/
lemma methods_after (h : registry.Consistent) (op : Op) {slot' : Slot}
    (hslot' : slot' ∈ (registry.after op).slots) :
    (∃ slot ∈ registry.slots, slot'.id = slot.id ∧ ∀ t, t ∈ slot'.methods ↔
        t ∈ slot.methods ∨ ∃ method, op = .subscribe slot'.id method ∧ upper method = t) ∨
      (∃ entry, op = .add entry) ∧ registry.contains slot'.id = false ∧
        ∀ t, ¬ t ∈ slot'.methods := by
  -- an operation that asks for no method of the connection has only to keep what was there
  have hkept : (∀ method, op ≠ .subscribe slot'.id method) →
      (∃ slot ∈ registry.slots, KeepsMethods slot slot') →
      ∃ slot ∈ registry.slots, slot'.id = slot.id ∧ ∀ t, t ∈ slot'.methods ↔
        t ∈ slot.methods ∨ ∃ method, op = .subscribe slot'.id method ∧ upper method = t := by
    rintro hop ⟨slot, hslot, hid, hmethods⟩
    refine ⟨slot, hslot, hid, fun t => ?_⟩
    rw [hmethods, or_iff_left]
    rintro ⟨method, hsubscribe, -⟩
    exact hop method hsubscribe
  by_cases hwanes : op.wanes = true
  · refine Or.inl (hkept (fun method hop => ?_) (((waning_keepsMethods registry).after hwanes
      ⟨h, fun slot hslot => ⟨slot, hslot, rfl, rfl⟩⟩).2 slot' hslot'))
    rw [hop] at hwanes
    cases hwanes
  · cases arises_of_mem_after h.ascending (Bool.eq_false_iff.2 hwanes) hslot' with
    | kept hslot hasked => exact Or.inl (hkept hasked ⟨slot', hslot, rfl, rfl⟩)
    | @added entry hnew =>
      refine Or.inr ⟨⟨entry, rfl⟩, Bool.eq_false_iff.2 fun hcontains => ?_, by simp⟩
      obtain ⟨slot, hslot, hid⟩ := contains_iff.1 hcontains
      exact hnew slot hslot hid
    | @asked slot method hslot =>
      refine Or.inl ⟨slot, hslot, rfl, fun t => ?_⟩
      have hop : ∀ asked, Op.subscribe slot.id method = .subscribe slot.id asked ↔
          method = asked := by
        simp
      show t ∈ slot.methods.insert (upper method) ↔ t ∈ slot.methods ∨
        ∃ asked, Op.subscribe slot.id method = .subscribe slot.id asked ∧ upper asked = t
      simp only [TextSet.mem_insert, hop, exists_eq_left', or_comm, eq_comm]
    | @selected _ _ _ slot hpool =>
      exact Or.inl (hkept (by simp) ⟨slot, (mem_pool.1 hpool).1, rfl, rfl⟩)
    | engaged hslot => exact Or.inl (hkept (by simp) ⟨_, hslot, rfl, rfl⟩)

/-! ## The methods after a run -/

/-- What a connection has asked for by the next step it had asked for before, or asks for now. -/
lemma asked_succ_iff (hregistered : (stateAt ops (n + 1)).contains id = true) :
    Asked ops id method k (n + 1) ↔ Asked ops id method k n ∨
      k = n ∧ ops[n]? = some (.subscribe id method) ∧ (stateAt ops n).contains id = true := by
  constructor
  · rintro ⟨hlt, hop, hsucceeded, hsince⟩
    rcases Nat.lt_succ_iff_lt_or_eq.1 hlt with hlt | rfl
    · exact Or.inl ⟨hlt, hop, hsucceeded, fun m hkm hmn => hsince m hkm (Nat.le_succ_of_le hmn)⟩
    · exact Or.inr ⟨rfl, hop, subscribe_eq_ok_iff.1 hsucceeded⟩
  · rintro (⟨hlt, hop, hsucceeded, hsince⟩ | ⟨rfl, hop, hcontains⟩)
    · refine ⟨Nat.lt_succ_of_lt hlt, hop, hsucceeded, fun m hkm hmn => ?_⟩
      rcases Nat.le_succ_iff.1 hmn with hle | rfl
      · exact hsince m hkm hle
      · exact hregistered
    · refine ⟨Nat.lt_succ_self k, hop, subscribe_eq_ok_iff.2 hcontains, fun m hkm hmn => ?_⟩
      obtain rfl : m = k + 1 := Nat.le_antisymm hmn hkm
      exact hregistered

/-- The methods of a connection are those that it has asked for since it was registered. -/
lemma mem_methods_iff (n : Nat) {slot : Slot} (hslot : slot ∈ (stateAt ops n).slots) (t : String) :
    t ∈ slot.methods ↔ ∃ k method, Asked ops slot.id method k n ∧ upper method = t := by
  -- by induction on the steps: one step adds to the methods what is asked for in it
  induction n generalizing slot with
  | zero => simp [stateAt] at hslot
  | succ n ih =>
    have hregistered : (stateAt ops (n + 1)).contains slot.id = true :=
      contains_iff.2 ⟨slot, hslot, rfl⟩
    simp only [asked_succ_iff hregistered, or_and_right, exists_or]
    cases hop : ops[n]? with
    | none =>
      rw [stateAt_succ_of_none hop] at hslot
      rw [ih hslot]
      simp
    | some op =>
      rw [stateAt_succ hop] at hslot
      rcases methods_after (consistent_stateAt ops n) op hslot with
        ⟨old, hold, hid, hmethods⟩ | ⟨⟨entry, rfl⟩, hnew, hnone⟩
      · have hcontains : (stateAt ops n).contains slot.id = true :=
          contains_iff.2 ⟨old, hold, hid.symm⟩
        rw [hmethods, ih hold, ← hid]
        simp [hcontains]
      · -- a connection that was not there before the step cannot have asked for anything
        have hbefore : ∀ k method, ¬Asked ops slot.id method k n := by
          intro k method hasked
          have hcontains := hasked.registered n hasked.lt (Nat.le_refl n)
          rw [hnew] at hcontains
          cases hcontains
        simp [hnone, hbefore]

/-! ## Pools -/

/-- The slots of a pool, by what their connections have asked for. -/
lemma inPool_iff_asked {slot : Slot} (hslot : slot ∈ (stateAt ops n).slots) :
    slot.inPool selector (some (upper method)) = true ↔ slot.state ≠ .draining ∧
      slot.handle.direction = .inbound ∧ selector.Admits slot.handle.tags ∧
      ((∀ k asked, ¬Asked ops slot.id asked k n) ∨
        ∃ k asked, Asked ops slot.id asked k n ∧ sameLetters asked method = true) := by
  have hactive : slot.state = .active ↔ slot.state ≠ .draining := by
    rcases ((consistent_stateAt ops n).sound slot hslot).active_or_draining with h | h
    · simp [h]
    · simp [h]
  have hnone : (∀ t, ¬ t ∈ slot.methods) ↔ ∀ k asked, ¬Asked ops slot.id asked k n := by
    constructor
    · intro hempty k asked hasked
      exact hempty (upper asked) ((mem_methods_iff n hslot _).2 ⟨k, asked, hasked, rfl⟩)
    · intro hnever t hmem
      obtain ⟨k, asked, hasked, -⟩ := (mem_methods_iff n hslot t).1 hmem
      exact hnever k asked hasked
  have htakes : slot.takes (some (upper method)) = true ↔
      (∀ k asked, ¬Asked ops slot.id asked k n) ∨
        ∃ k asked, Asked ops slot.id asked k n ∧ sameLetters asked method = true := by
    rw [Slot.takes_iff, hnone, mem_methods_iff n hslot]
    simp only [sameLetters_iff]
  simp only [Slot.inPool, Bool.and_eq_true, beq_iff_eq, EntryState.isSelectable_iff,
    Handle.accepts_iff, htakes, hactive, and_assoc]

lemma mem_snapshot_iff {methods : Option String} {handle : Handle} :
    handle ∈ registry.snapshot selector methods ↔
      ∃ slot ∈ registry.slots, slot.inPool selector (methods.map upper) = true ∧
        slot.handle = handle := by
  simp only [snapshot_eq, List.mem_map, mem_queue, mem_pool, and_assoc]

/-- The connections of a pool are inbound, and it is for their tags. -/
lemma admits_of_mem_snapshot {methods : Option String} {handle : Handle}
    (h : handle ∈ registry.snapshot selector methods) :
    handle.direction = .inbound ∧ selector.Admits handle.tags := by
  obtain ⟨slot, -, hinPool, rfl⟩ := mem_snapshot_iff.1 h
  simp only [Slot.inPool, Bool.and_eq_true, beq_iff_eq, Handle.accepts_iff] at hinPool
  exact ⟨hinPool.1.1.2, hinPool.1.2⟩

/-- A connection of a snapshot has the same handle as the registered one with its id. -/
lemma eq_of_mem_snapshot (h : registry.Ascending) {methods : Option String} {handle : Handle}
    (hmem : handle ∈ registry.snapshot selector methods) {slot : Slot}
    (hslot : slot ∈ registry.slots) (hid : handle.id = slot.id) : handle = slot.handle := by
  obtain ⟨other, hother, -, rfl⟩ := mem_snapshot_iff.1 hmem
  rw [h.eq_of_id_eq hother hslot hid]

/-- A snapshot is in the order of the last selections, and of the ids where these are the same. -/
lemma pairwise_snapshot (h : registry.Ascending) (selector : Selector) (methods : Option String) :
    (registry.snapshot selector methods).Pairwise fun a b =>
      registry.stampOf a.id < registry.stampOf b.id ∨
        registry.stampOf a.id = registry.stampOf b.id ∧ a.id < b.id := by
  have hstamp : ∀ slot ∈ registry.queue selector methods,
      registry.stampOf slot.handle.id = slot.lastUsed := fun slot hslot =>
    stampOf_of_mem h (mem_pool.1 (mem_queue.1 hslot)).1
  rw [snapshot_eq, List.pairwise_map]
  refine (List.pairwise_map.1 (pairwise_queue h)).imp_of_mem fun {a b} ha hb hprecedes => ?_
  rw [hstamp a ha, hstamp b hb]
  exact hprecedes

/-- **Membership.** After any sequence of operations the snapshot of a pool for a method lists no
connection twice, in the order of the last selections and then of the ids. It lists the connections
that are registered, do not drain, are inbound and have tags for which the pool is, and that since
they were registered have asked for no method at all or for this one, in whatever letters. Hence the
pool of those without tags shares nobody with a pool of a tag, outbound connections are in no
pool, and the pool of a text is empty which cannot be a tag. -/
theorem mem_snapshot_iff_asked (hregistry : registry = ({} : Registry).run ops) :
    (∀ selector method,
      (registry.snapshot selector (some method)).Nodup ∧
      (registry.snapshot selector (some method)).Pairwise (fun a b =>
        registry.stampOf a.id < registry.stampOf b.id ∨
          registry.stampOf a.id = registry.stampOf b.id ∧ a.id < b.id) ∧
      ∀ handle, handle ∈ registry.snapshot selector (some method) ↔
        (∃ slot, registry.find? handle.id = some slot ∧ slot.handle = handle ∧
          slot.state ≠ .draining) ∧
        handle.direction = .inbound ∧ selector.Admits handle.tags ∧
        ((∀ k asked, ¬Asked ops handle.id asked k ops.length) ∨
          ∃ k asked, Asked ops handle.id asked k ops.length ∧ sameLetters asked method = true)) ∧
    (∀ tag method method', ∀ a ∈ registry.snapshot .untagged (some method),
      ∀ b ∈ registry.snapshot (.tag tag) (some method'), a.id ≠ b.id) ∧
    (∀ slot ∈ registry.slots, slot.handle.direction = .outbound →
      ∀ selector method, ∀ handle ∈ registry.snapshot selector (some method),
        handle.id ≠ slot.id) ∧
    ∀ tag, tag = "" ∨ trim tag ≠ tag →
      ∀ method, registry.snapshot (.tag tag) (some method) = [] := by
  have hascending : registry.Ascending := hregistry ▸ (consistent_run ops).ascending
  have hall : stateAt ops ops.length = registry := by
    rw [stateAt, List.take_length, hregistry]
  refine ⟨fun selector method => ⟨nodup_snapshot hascending,
    pairwise_snapshot hascending selector (some method), fun handle => ?_⟩, ?_, ?_, ?_⟩
  · rw [mem_snapshot_iff]
    -- the registry at the end of the run is the one behind its last step
    constructor
    · rintro ⟨slot, hslot, hinPool, rfl⟩
      have hstate : slot ∈ (stateAt ops ops.length).slots := by rwa [hall]
      obtain ⟨hnot, hinbound, hadmits, hasked⟩ := (inPool_iff_asked hstate).1 hinPool
      have hfind := (find?_eq_some_iff hascending).2 ⟨hslot, rfl⟩
      exact ⟨⟨slot, hfind, rfl, hnot⟩, hinbound, hadmits, hasked⟩
    · rintro ⟨⟨slot, hfind, rfl, hnot⟩, hinbound, hadmits, hasked⟩
      have hslot := mem_of_find? hfind
      have hstate : slot ∈ (stateAt ops ops.length).slots := by rwa [hall]
      exact ⟨slot, hslot, (inPool_iff_asked hstate).2 ⟨hnot, hinbound, hadmits, hasked⟩, rfl⟩
  · intro tag method method' a ha b hb hid
    obtain ⟨slot, hslot, -, rfl⟩ := mem_snapshot_iff.1 hb
    have heq : a = slot.handle := eq_of_mem_snapshot hascending ha hslot hid
    -- the same connection would have no tags, and this one among them
    have hnone : slot.handle.tags.toList = [] := heq ▸ (admits_of_mem_snapshot ha).2
    have htag : tag ∈ slot.handle.tags.toList := (admits_of_mem_snapshot hb).2
    rw [hnone] at htag
    cases htag
  · intro slot hslot houtbound selector method handle hmem hid
    have heq : handle = slot.handle := eq_of_mem_snapshot hascending hmem hslot hid
    have hinbound : handle.direction = .inbound := (admits_of_mem_snapshot hmem).1
    rw [heq, houtbound] at hinbound
    cases hinbound
  · intro tag htag method
    refine List.eq_nil_iff_forall_not_mem.2 fun handle hmem => ?_
    obtain ⟨hne, htrim⟩ := TagSet.isTag_of_mem (admits_of_mem_snapshot hmem).2
    rcases htag with hempty | hblank
    · exact hne hempty
    · exact hblank htrim

/-- A connection with two tags. -/
def twiceTagged : Handle := ⟨1, .inbound, .plain, .ofList ["red", "blue"], none, none, 1⟩

/-- The connection joins and asks for a method. -/
def oneJoins : List Op :=
  [.add ⟨twiceTagged, .connecting⟩, .subscribe 1 "invite"]

theorem mem_snapshot_iff_asked_oneJoins :
    let registry := ({} : Registry).run oneJoins
    twiceTagged ∈ registry.snapshot (.tag "red") (some "Invite") ∧
      twiceTagged ∈ registry.snapshot (.tag "blue") (some "INVITE") ∧
      twiceTagged ∉ registry.snapshot (.tag "red") (some "OPTIONS") ∧
      registry.snapshot (.tag " red") (some "Invite") = [] := by
  intro registry
  have hasked : Asked oneJoins 1 "invite" 1 oneJoins.length := by
    refine ⟨by decide, rfl, ⟨true, rfl⟩, fun m hlt hle => ?_⟩
    obtain rfl : m = 2 := Nat.le_antisymm hle hlt
    rfl
  have hregistered : ∃ slot, registry.find? twiceTagged.id = some slot ∧
      slot.handle = twiceTagged ∧ slot.state ≠ .draining :=
    ⟨_, rfl, rfl, by decide⟩
  obtain ⟨hpools, -, -, hempty⟩ := mem_snapshot_iff_asked (rfl : registry = _)
  refine ⟨?_, ?_, fun hmem => ?_, hempty " red" (Or.inr (by decide)) "Invite"⟩
  · exact ((hpools (.tag "red") "Invite").2.2 twiceTagged).2
      ⟨hregistered, rfl, by decide, Or.inr ⟨1, "invite", hasked, rfl⟩⟩
  · exact ((hpools (.tag "blue") "INVITE").2.2 twiceTagged).2
      ⟨hregistered, rfl, by decide, Or.inr ⟨1, "invite", hasked, rfl⟩⟩
  · obtain ⟨-, -, -, hnever | ⟨k, asked, hother, hsame⟩⟩ :=
      ((hpools (.tag "red") "OPTIONS").2.2 twiceTagged).1 hmem
    · exact hnever 1 "invite" hasked
    · -- the second step is the only one that asks for a method
      have hop := hother.op_eq
      have hlt : k < 2 := hother.lt
      obtain rfl | rfl : k = 0 ∨ k = 1 := by omega
      · cases hop
      · cases hop
        exact absurd hsame (by decide)

end Registry

end CallDispatch
