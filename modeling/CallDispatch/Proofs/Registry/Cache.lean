import CallDispatch.Proofs.Registry.Overtaking
import CallDispatch.Proofs.Registry.Phases

/-!
# The connection found at a uri

A dialed connection is found under its uri until somebody else is dialed there. The cache that
finds it is overwritten when a connection is registered, and forgets a uri when the connection that
it leads to closes, whichever operation closes it. So a uri leads to the connection that was dialed
there last, if that is registered still, and to none if it is not, even where an older one is
(`cached_stateAt_iff`). One that has been replaced takes nothing with it when it goes
(`findTarget_after_of_against`).

## Main definitions

* `Registry.dialed?`: the connection that an operation registers as dialed at a uri.
* `Registry.Cached`: the registered connection to which a uri leads.
* `Registry.KeepsUris`: what is left of the cache when connections close.
* `Registry.Sole`: no active connection has been replaced in the cache.
* `Registry.LatestDial`: the last connection dialed at a uri in a run, registered ever since.
-/

namespace CallDispatch

/-- The value under a key that occurs once. -/
lemma lookup_eq_some_iff_mem {α β : Type} [BEq α] [LawfulBEq α] {entries : List (α × β)} {a : α}
    {b : β} (h : (entries.map Prod.fst).Nodup) :
    entries.lookup a = some b ↔ (a, b) ∈ entries := by
  rw [List.lookup_eq_some_iff]
  constructor
  · rintro ⟨before, behind, rfl, -⟩
    simp
  · intro hmem
    obtain ⟨before, behind, rfl⟩ := List.append_of_mem hmem
    refine ⟨before, behind, rfl, fun entry hentry => ?_⟩
    -- the key stands behind those entries, so it is none of theirs
    rw [List.map_append, List.nodup_append] at h
    have hne : entry.1 ≠ a := h.2.2 entry.1 (List.mem_map_of_mem hentry) a (by simp)
    exact bne_iff_ne.2 hne.symm

namespace Registry

/-- The connection that an operation registers as dialed at a uri, if it registers one. -/
def dialed? (registry : Registry) (uri : String) : Op → Option Handle
  | .add entry =>
    match (registry.add entry).2 with
    | .ok handle => if handle.target = some uri then some handle else none
    | .error _ => none
  | _ => none

/-- A uri leads to a connection that is registered. -/
def Cached (registry : Registry) (uri : String) (handle : Handle) : Prop :=
  (uri, handle.id) ∈ registry.outbound ∧ ∃ slot ∈ registry.slots, slot.handle = handle

variable {registry : Registry} {uri : String} {id : EntryId} {handle : Handle} {op : Op}

/-! ## What a uri leads to -/

/-- A connection to which a uri leads is registered. -/
lemma Consistent.contains_of_mem_outbound (h : registry.Consistent)
    (hmem : (uri, id) ∈ registry.outbound) : registry.contains id = true := by
  obtain ⟨slot, hslot, hid, -⟩ := h.cached uri id hmem
  exact contains_iff.2 ⟨slot, hslot, hid⟩

/-- Whatever a uri leads to is registered. -/
lemma Consistent.mem_outbound_iff (h : registry.Consistent) (uri : String) (id : EntryId) :
    (uri, id) ∈ registry.outbound ↔
      (uri, id) ∈ registry.outbound ∧ registry.contains id = true :=
  (and_iff_left_of_imp h.contains_of_mem_outbound).symm

lemma Cached.contains (h : registry.Cached uri handle) : registry.contains handle.id = true := by
  obtain ⟨slot, hslot, hhandle⟩ := h.2
  exact contains_iff.2 ⟨slot, hslot, congrArg Handle.id hhandle⟩

/-- A connection is found at a uri if the uri leads to it and it is active. -/
lemma findTarget_eq_some_iff (h : registry.Consistent) :
    registry.findTarget uri = some handle ↔
      registry.Cached uri handle ∧ registry.phase handle.id = .active := by
  have hcached : ∀ id, registry.cached? uri = some id ↔ (uri, id) ∈ registry.outbound :=
    fun id => lookup_eq_some_iff_mem h.nodup_uris
  constructor
  · intro hfound
    obtain ⟨slot, hslot, hactive, rfl⟩ := exists_of_findTarget hfound
    have hphase : registry.phase slot.id = .active := (phase_of_mem h.ascending hslot).trans hactive
    -- the slot that was found is that of the id in the cache
    obtain ⟨other, hfind, hshown⟩ := Option.bind_eq_some_iff.1 hfound
    obtain ⟨id, hlookup, hid⟩ := Option.bind_eq_some_iff.1 hfind
    have hhandle : other.handle = slot.handle := by
      split at hshown
      · exact Option.some.inj hshown
      · cases hshown
    have hkey : id = slot.handle.id := by
      rw [← id_of_find? hid, ← hhandle]
      rfl
    have hmem : (uri, slot.handle.id) ∈ registry.outbound := hkey ▸ (hcached id).1 hlookup
    exact ⟨⟨hmem, slot, hslot, rfl⟩, hphase⟩
  · rintro ⟨⟨hmem, slot, hslot, rfl⟩, hphase⟩
    have hlookup : registry.cached? uri = some slot.id := (hcached slot.id).2 hmem
    have hfind : registry.find? slot.id = some slot :=
      (find?_eq_some_iff h.ascending).2 ⟨hslot, rfl⟩
    have hactive : slot.state.isSelectable = true := by
      rw [EntryState.isSelectable_iff, ← phase_of_mem h.ascending hslot]
      exact hphase
    rw [findTarget, hlookup, Option.bind_some, hfind, Option.bind_some, if_pos hactive]

/-! ## Ending calls, draining and closing -/

lemma contains_close {other : EntryId} :
    (registry.close id).1.contains other = true ↔ registry.contains other = true ∧ other ≠ id := by
  simp only [contains_iff, mem_slots_close]
  constructor
  · rintro ⟨slot, ⟨hslot, hne⟩, rfl⟩
    exact ⟨⟨slot, hslot, rfl⟩, hne⟩
  · rintro ⟨⟨slot, hslot, rfl⟩, hne⟩
    exact ⟨slot, ⟨hslot, hne⟩, rfl⟩

lemma contains_insertSlot {slot : Slot} {outbound : List (String × EntryId)} :
    contains { registry with slots := insertSlot slot registry.slots, outbound } id = true ↔
      id = slot.id ∨ registry.contains id = true := by
  simp only [contains_iff, mem_insertSlot]
  constructor
  · rintro ⟨other, rfl | hother, rfl⟩
    · exact Or.inl rfl
    · exact Or.inr ⟨other, hother, rfl⟩
  · rintro (rfl | ⟨other, hother, rfl⟩)
    · exact ⟨slot, Or.inl rfl, rfl⟩
    · exact ⟨other, Or.inr hother, rfl⟩

lemma contains_update {change : Slot → Slot} (hchange : ∀ slot, (change slot).id = slot.id)
    (other : EntryId) : (registry.update id change).contains other = registry.contains other := by
  have hkept : ∀ slot : Slot, (if slot.id = id then change slot else slot).id = slot.id := by
    intro slot
    split
    · exact hchange slot
    · rfl
  simp only [contains, find?, update, List.find?_map, Option.isSome_map]
  congr 2
  funext slot
  simp only [Function.comp, hkept]

/-- Of the uris of another registry those are left that lead to registered connections. -/
def KeepsUris (registry other : Registry) : Prop :=
  ∀ uri id, (uri, id) ∈ other.outbound ↔
    (uri, id) ∈ registry.outbound ∧ other.contains id = true

lemma KeepsUris.close {other : Registry} (hother : registry.KeepsUris other)
    (h : other.Consistent) (id : EntryId) : registry.KeepsUris (other.close id).1 := by
  intro uri id'
  rw [mem_outbound_close, contains_close, hother uri id']
  constructor
  · rintro ⟨⟨hmem, hcontains⟩, hkept⟩
    refine ⟨hmem, hcontains, fun hsame => hkept ⟨hsame, ?_⟩⟩
    -- a connection to which a uri leads was dialed there, so its closing forgets the uri
    obtain ⟨slot, hslot, hid, htarget⟩ := h.cached uri id' ((hother uri id').2 ⟨hmem, hcontains⟩)
    exact ⟨slot, (find?_eq_some_iff h.ascending).2 ⟨hslot, hid.trans hsame⟩, htarget⟩
  · rintro ⟨hmem, hcontains, hne⟩
    exact ⟨⟨hmem, hcontains⟩, fun hclosed => hne hclosed.1⟩

lemma KeepsUris.update {other : Registry} (hother : registry.KeepsUris other)
    {change : Slot → Slot} (hchange : ∀ slot, (change slot).id = slot.id) :
    registry.KeepsUris (other.update id change) := by
  intro uri id'
  rw [contains_update hchange]
  exact hother uri id'

/-- What only ends calls, drains and closes forgets the uris of the connections that it closes, and
no others. -/
lemma waning_keepsUris (registry : Registry) :
    Waning fun other => other.Consistent ∧ registry.KeepsUris other := by
  refine ⟨⟨fun {other} id h => ⟨h.1.close id, h.2.close h.1 id⟩,
    fun {other} now id h => ⟨h.1.beginDrain now id, ?_⟩⟩, fun {other} id h => ⟨h.1.release id, ?_⟩⟩
  · rcases beginDrain_cases other now id with hdrain | hdrain | hdrain
    · rw [hdrain]
      exact h.2
    · rw [hdrain]
      exact h.2.close h.1 id
    · rw [hdrain]
      exact h.2.update fun slot => rfl
  · rcases release_cases other id with hrelease | hrelease | hrelease
    · rw [hrelease]
      exact h.2
    · rw [hrelease]
      exact h.2.close h.1 id
    · rw [hrelease]
      exact h.2.update fun slot => rfl

/-! ## One operation -/

/-- An operation that registers a connection as dialed adds it. -/
lemma added?_of_dialed (h : registry.dialed? uri op = some handle) :
    registry.added? op = some handle.id ∧ handle.target = some uri ∧
      ∃ entry, op = .add entry ∧ entry.handle = handle := by
  cases op with
  | add entry =>
    rcases add_cases registry entry with ⟨error, hrefused⟩ | ⟨-, hadd⟩
    · rw [dialed?, hrefused] at h
      cases h
    · simp only [dialed?, hadd] at h
      split at h
      · next htarget =>
        obtain rfl : entry.handle = handle := Option.some.inj h
        exact ⟨by rw [added?, hadd], htarget, entry, rfl, rfl⟩
      · cases h
  | _ => cases h

/-- A connection that is registered is not registered once more. -/
lemma added?_ne_of_contains (h : registry.contains id = true) (op : Op) :
    registry.added? op ≠ some id := by
  intro hadded
  obtain ⟨entry, rfl, hid⟩ := eq_add_of_added hadded
  rcases add_cases registry entry with ⟨error, hrefused⟩ | ⟨hnew, -⟩
  · rw [added?, hrefused] at hadded
    cases hadded
  · obtain ⟨slot, hslot, hsame⟩ := contains_iff.1 h
    exact hnew slot hslot (hsame.trans hid.symm)

/-- An operation that dials nothing and changes neither the cache nor who is registered leaves every
uri where it led. -/
lemma mem_outbound_of_same (h : registry.Consistent) (hnone : registry.dialed? uri op = none)
    (houtbound : (registry.after op).outbound = registry.outbound)
    (hcontains : (registry.after op).contains id = registry.contains id) :
    (uri, id) ∈ (registry.after op).outbound ↔
      ((registry.dialed? uri op).map Handle.id = some id ∨
        registry.dialed? uri op = none ∧ (uri, id) ∈ registry.outbound) ∧
      (registry.after op).contains id = true := by
  rw [hnone, houtbound, hcontains]
  simpa using h.contains_of_mem_outbound

/-- After a connection was registered its uri leads to it, and any other uri where it led. -/
lemma mem_outbound_add (h : registry.Consistent) (entry : Entry) :
    (uri, id) ∈ (registry.after (.add entry)).outbound ↔
      ((registry.dialed? uri (.add entry)).map Handle.id = some id ∨
        registry.dialed? uri (.add entry) = none ∧ (uri, id) ∈ registry.outbound) ∧
      (registry.after (.add entry)).contains id = true := by
  rcases add_cases registry entry with ⟨error, hrefused⟩ | ⟨-, hadd⟩
  · apply mem_outbound_of_same h
    · rw [dialed?, hrefused]
    · rw [after, hrefused]
    · rw [after, hrefused]
  · have hdialed : registry.dialed? uri (.add entry) =
        if entry.handle.target = some uri then some entry.handle else none := by
      rw [dialed?, hadd]
    have hcontains : (registry.add entry).1.contains id = true ↔
        id = entry.handle.id ∨ registry.contains id = true := by
      rw [hadd]
      exact contains_insertSlot
    rw [after, hcontains, hdialed, hadd, mem_cache]
    by_cases htarget : entry.handle.target = some uri
    · simp only [htarget, if_true]
      constructor
      · rintro (⟨-, rfl⟩ | ⟨hne, -⟩)
        · exact ⟨Or.inl rfl, Or.inl rfl⟩
        · exact absurd rfl hne
      · rintro ⟨hid | ⟨hnone, -⟩, -⟩
        · exact Or.inl ⟨trivial, (Option.some.inj hid).symm⟩
        · cases hnone
    · simp only [htarget, if_false]
      constructor
      · rintro (⟨hfalse, -⟩ | ⟨-, hmem⟩)
        · exact hfalse.elim
        · exact ⟨Or.inr ⟨trivial, hmem⟩, Or.inr (h.contains_of_mem_outbound hmem)⟩
      · rintro ⟨hnone | ⟨-, hmem⟩, -⟩
        · cases hnone
        · exact Or.inr ⟨htarget, hmem⟩

/-- After any operation a uri leads to the connection dialed there by it, and else to the one it
led to before if that is registered still. -/
lemma mem_outbound_after (h : registry.Consistent) (op : Op) :
    (uri, id) ∈ (registry.after op).outbound ↔
      ((registry.dialed? uri op).map Handle.id = some id ∨
        registry.dialed? uri op = none ∧ (uri, id) ∈ registry.outbound) ∧
      (registry.after op).contains id = true := by
  cases op with
  | add entry => exact mem_outbound_add h entry
  | subscribe id' method =>
    apply mem_outbound_of_same h rfl
    · rw [after, subscribe]
      split <;> rfl
    · rw [after, subscribe]
      split
      · rfl
      · apply contains_update
        intro slot
        rfl
  | reserve selector method excluded =>
    apply mem_outbound_of_same h rfl
    · rw [after, reserve]
      split <;> rfl
    · rw [after, reserve]
      split
      · rfl
      · apply contains_update
        intro slot
        rfl
  | reserveEntry id' =>
    rcases reserveEntry_cases registry id' with ⟨hreserve, -⟩ | ⟨slot, -, -, hreserve⟩
    · apply mem_outbound_of_same h rfl
      · rw [after, hreserve]
      · rw [after, hreserve]
    · apply mem_outbound_of_same h rfl
      · rw [after, hreserve]
        rfl
      · rw [after, hreserve]
        apply contains_update
        intro slot
        rfl
  | _ =>
    simpa [dialed?] using ((waning_keepsUris registry).after rfl ⟨h, h.mem_outbound_iff⟩).2 uri id

/-- After any operation a uri leads to the connection dialed there by it, and else to the one it
led to before; and to that only if it is registered still. -/
lemma cached_after_iff (h : registry.Consistent) (op : Op) :
    (registry.after op).Cached uri handle ↔
      (registry.dialed? uri op = some handle ∨
        registry.dialed? uri op = none ∧ registry.Cached uri handle) ∧
      (registry.after op).contains handle.id = true := by
  have h' : (registry.after op).Consistent := kept_consistent.after op h
  constructor
  · intro hcached
    obtain ⟨hmem, slot', hslot', rfl⟩ := hcached
    obtain ⟨hfrom, hcontains⟩ := (mem_outbound_after h op).1 hmem
    refine ⟨?_, hcontains⟩
    rcases hfrom with hdialed | ⟨hnone, hmem⟩
    · -- the connection dialed now is the one with the slot
      obtain ⟨handle, hdialed, hid⟩ := Option.map_eq_some_iff.1 hdialed
      obtain ⟨hadded, -, entry, hop, rfl⟩ := added?_of_dialed hdialed
      obtain ⟨entry', hop', -, hfresh⟩ :=
        eq_fresh_of_added hslot' (hadded.trans (congrArg some hid))
      have hentry : entry = entry' := Op.add.inj (hop.symm.trans hop')
      rw [hfresh, ← hentry]
      exact Or.inl hdialed
    · have hregistered : registry.contains slot'.id = true := h.contains_of_mem_outbound hmem
      exact Or.inr ⟨hnone, hmem,
        exists_same_handle h hslot' (added?_ne_of_contains hregistered op)⟩
  · rintro ⟨hfrom, hcontains⟩
    have hmem : (uri, handle.id) ∈ (registry.after op).outbound := by
      apply (mem_outbound_after h op).2
      refine ⟨?_, hcontains⟩
      rcases hfrom with hdialed | ⟨hnone, hcached⟩
      · rw [hdialed]
        exact Or.inl rfl
      · exact Or.inr ⟨hnone, hcached.1⟩
    refine ⟨hmem, ?_⟩
    obtain ⟨slot', hslot', hid⟩ := contains_iff.1 hcontains
    refine ⟨slot', hslot', ?_⟩
    rcases hfrom with hdialed | ⟨hnone, hcached⟩
    · obtain ⟨hadded, -, entry, hop, rfl⟩ := added?_of_dialed hdialed
      obtain ⟨entry', hop', -, hfresh⟩ :=
        eq_fresh_of_added hslot' (hadded.trans (congrArg some hid.symm))
      have hentry : entry = entry' := Op.add.inj (hop.symm.trans hop')
      rw [hfresh, ← hentry]
    · obtain ⟨slot, hslot, hsame⟩ := exists_same_handle h hslot'
        (hid ▸ added?_ne_of_contains hcached.contains op)
      obtain ⟨other, hother, rfl⟩ := hcached.2
      have heq : slot = other :=
        h.ascending.eq_of_id_eq hslot hother ((congrArg Handle.id hsame).trans hid)
      rw [← hsame, heq]

/-- A connection that is active after an operation was so before, unless the operation registered
it. -/
lemma phase_active_of_after (h : registry.Consistent) (hadded : registry.added? op ≠ some id)
    (hactive : (registry.after op).phase id = .active) : registry.phase id = .active := by
  by_contra hphase
  have hlt : EntryState.active.rank < (registry.phase id).rank := h.rank_active_lt hphase
  have hle : (registry.phase id).rank ≤ ((registry.after op).phase id).rank :=
    rank_phase_le_after h hadded
  rw [hactive] at hle
  omega

lemma contains_of_active (h : registry.phase id = .active) : registry.contains id = true := by
  cases hfind : registry.find? id with
  | none =>
    rw [phase_of_find?_eq_none hfind] at h
    cases h
  | some slot => rw [contains, hfind, Option.isSome_some]

/-- Whoever is found at a uri, and is active after an operation that dials nobody there, is found
there then. -/
lemma findTarget_after_of_active (h : registry.Consistent)
    (hfound : registry.findTarget uri = some handle) (hnone : registry.dialed? uri op = none)
    (hactive : (registry.after op).phase handle.id = .active) :
    (registry.after op).findTarget uri = some handle := by
  have hcached : registry.Cached uri handle := ((findTarget_eq_some_iff h).1 hfound).1
  apply (findTarget_eq_some_iff (kept_consistent.after op h)).2
  refine ⟨(cached_after_iff h op).2 ⟨Or.inr ⟨hnone, hcached⟩, ?_⟩, hactive⟩
  exact contains_of_active hactive

/-! ## One connection at each uri -/

/-- Every active connection that was dialed is the one to which its uri leads. -/
def Sole (registry : Registry) : Prop :=
  ∀ slot ∈ registry.slots, slot.state = .active → ∀ uri, slot.handle.target = some uri →
    (uri, slot.id) ∈ registry.outbound

/-- An active connection that was dialed is found. -/
lemma Sole.findTarget (hsole : registry.Sole) (h : registry.Consistent) {slot : Slot}
    (hslot : slot ∈ registry.slots) (hactive : slot.state = .active)
    (htarget : slot.handle.target = some uri) : registry.findTarget uri = some slot.handle := by
  apply (findTarget_eq_some_iff h).2
  exact ⟨⟨hsole slot hslot hactive uri htarget, slot, hslot, rfl⟩,
    (phase_of_mem h.ascending hslot).trans hactive⟩

/-- At most one active connection was dialed at a uri. -/
lemma Sole.eq_of_target (hsole : registry.Sole) (h : registry.Consistent) {a b : Slot}
    (ha : a ∈ registry.slots) (hb : b ∈ registry.slots) (hactive : a.state = .active)
    (hactive' : b.state = .active) (htarget : a.handle.target = some uri)
    (htarget' : b.handle.target = some uri) : a = b := by
  have hfound := hsole.findTarget h ha hactive htarget
  rw [hsole.findTarget h hb hactive' htarget'] at hfound
  exact h.ascending.eq_of_id_eq ha hb (congrArg Handle.id (Option.some.inj hfound)).symm

/-- Nobody is found at a uri because of an operation that dials nobody there. -/
lemma findTarget_after_eq_none (h : registry.Consistent) (hdialed : registry.dialed? uri op = none)
    (hnone : registry.findTarget uri = none) : (registry.after op).findTarget uri = none := by
  have h' : (registry.after op).Consistent := kept_consistent.after op h
  by_contra hne
  obtain ⟨handle, hfound⟩ := Option.ne_none_iff_exists'.1 hne
  obtain ⟨hcached', hactive⟩ := (findTarget_eq_some_iff h').1 hfound
  have hcached : registry.Cached uri handle := by
    rcases ((cached_after_iff h op).1 hcached').1 with hnow | ⟨-, hbefore⟩
    · rw [hdialed] at hnow
      cases hnow
    · exact hbefore
  have hphase : registry.phase handle.id = .active :=
    phase_active_of_after h (added?_ne_of_contains hcached.contains op) hactive
  rw [(findTarget_eq_some_iff h).2 ⟨hcached, hphase⟩] at hnone
  cases hnone

/-- Active connections stay alone at their uris if nobody is dialed where somebody is found. -/
lemma Sole.after (hsole : registry.Sole) (h : registry.Consistent)
    (hop : ∀ uri handle, registry.dialed? uri op = some handle → registry.findTarget uri = none) :
    (registry.after op).Sole := by
  intro slot' hslot' hactive uri htarget
  have h' : (registry.after op).Consistent := kept_consistent.after op h
  apply (mem_outbound_after h op).2
  refine ⟨?_, contains_iff.2 ⟨slot', hslot', rfl⟩⟩
  by_cases hadded : registry.added? op = some slot'.id
  · obtain ⟨entry, rfl, hadd, hfresh⟩ := eq_fresh_of_added hslot' hadded
    have hdialed : registry.dialed? uri (.add entry) = some entry.handle := by
      rw [hfresh] at htarget
      simp only [dialed?, hadd]
      exact if_pos htarget
    rw [hdialed, hfresh]
    exact Or.inl rfl
  · obtain ⟨slot, hslot, hhandle⟩ := exists_same_handle h hslot' hadded
    have hid : slot.id = slot'.id := congrArg Handle.id hhandle
    have hphase : registry.phase slot'.id = .active :=
      phase_active_of_after h hadded ((phase_of_mem h'.ascending hslot').trans hactive)
    have hbefore : slot.state = .active := by
      rw [← phase_of_mem h.ascending hslot, hid]
      exact hphase
    rw [← hhandle] at htarget
    have hfound := hsole.findTarget h hslot hbefore htarget
    cases hdialed : registry.dialed? uri op with
    | none => exact Or.inr ⟨rfl, hid ▸ hsole slot hslot hbefore uri htarget⟩
    | some handle =>
      rw [hop uri handle hdialed] at hfound
      cases hfound

/-! ## Closing somebody else -/

/-- The connection that an operation closes or drains, or of which it ends a call. -/
def Op.against? : Op → Option EntryId
  | .remove id | .beginDrain _ id => some id
  | op => op.released?

/-- The slots of the others stay when a connection is closed or drained, or a call of it ends. -/
lemma mem_slots_after_of_against (h : registry.Consistent) (hop : op.against? = some id)
    {slot : Slot} (hslot : slot ∈ registry.slots) (hne : slot.id ≠ id) :
    slot ∈ (registry.after op).slots := by
  have hrelease : slot ∈ (registry.release id).1.slots := by
    rw [slots_release h.ascending]
    exact mem_alter.2 (Or.inl ⟨hslot, hne⟩)
  cases op with
  | remove other =>
    cases hop
    exact mem_slots_close.2 ⟨hslot, hne⟩
  | beginDrain now other =>
    cases hop
    rw [after, slots_beginDrain h.ascending]
    exact mem_alter.2 (Or.inl ⟨hslot, hne⟩)
  | rollBack reservation =>
    cases hop
    exact hrelease
  | abandonDead now reservation =>
    cases hop
    rw [after, abandonDead, rollBack, slots_beginDrain (h.release _).ascending]
    exact mem_alter.2 (Or.inl ⟨hrelease, hne⟩)
  | release other =>
    cases hop
    exact hrelease
  | _ => cases hop

/-- Whoever is found at a uri is still found there when another connection is closed or drained, or
a call of that one ends. -/
lemma findTarget_after_of_against (h : registry.Consistent) (hop : op.against? = some id)
    (hfound : registry.findTarget uri = some handle) (hne : id ≠ handle.id) :
    (registry.after op).findTarget uri = some handle := by
  have h' : (registry.after op).Consistent := kept_consistent.after op h
  obtain ⟨slot, hslot, hactive, rfl⟩ := exists_of_findTarget hfound
  have hstays : slot ∈ (registry.after op).slots := mem_slots_after_of_against h hop hslot hne.symm
  have hnone : registry.dialed? uri op = none := by
    cases op with
    | add => cases hop
    | _ => rfl
  exact findTarget_after_of_active h hfound hnone
    ((phase_of_mem h'.ascending hstays).trans hactive)

/-! ## Runs -/

/-- The connection that the step with the given number registers as dialed at a uri. -/
def dialedAt (ops : List Op) (uri : String) (n : Nat) : Option Handle :=
  ops[n]?.bind ((stateAt ops n).dialed? uri)

/-- A connection was the last one dialed at a uri before a step, and has been registered from there
to that step. -/
structure LatestDial (ops : List Op) (uri : String) (handle : Handle) (k n : Nat) : Prop where
  lt : k < n
  dialed : dialedAt ops uri k = some handle
  latest : ∀ m, k < m → m < n → dialedAt ops uri m = none
  registered : ∀ m, k < m → m ≤ n → (stateAt ops m).contains handle.id = true

variable {ops : List Op} {k n : Nat}

/-- The last dial before a step is that of the step before it, or the last one before that. -/
lemma exists_latestDial_succ_iff :
    (∃ k, LatestDial ops uri handle k (n + 1)) ↔
      (dialedAt ops uri n = some handle ∨
        dialedAt ops uri n = none ∧ ∃ k, LatestDial ops uri handle k n) ∧
      (stateAt ops (n + 1)).contains handle.id = true := by
  constructor
  · rintro ⟨k, hlatest⟩
    refine ⟨?_, hlatest.registered (n + 1) hlatest.lt (Nat.le_refl _)⟩
    rcases Nat.lt_succ_iff_lt_or_eq.1 hlatest.lt with hlt | rfl
    · right
      refine ⟨hlatest.latest n hlt (Nat.lt_succ_self n), k, hlt, hlatest.dialed, ?_, ?_⟩
      · intro m hkm hmn
        exact hlatest.latest m hkm (Nat.lt_succ_of_lt hmn)
      · intro m hkm hmn
        exact hlatest.registered m hkm (Nat.le_succ_of_le hmn)
    · exact Or.inl hlatest.dialed
  · rintro ⟨hdialed | ⟨hnone, k, hlatest⟩, hregistered⟩
    · refine ⟨n, Nat.lt_succ_self n, hdialed, fun m hnm hmn => by omega, fun m hnm hmn => ?_⟩
      obtain rfl : m = n + 1 := by omega
      exact hregistered
    · refine ⟨k, Nat.lt_succ_of_lt hlatest.lt, hlatest.dialed, fun m hkm hmn => ?_,
        fun m hkm hmn => ?_⟩
      · rcases Nat.lt_succ_iff_lt_or_eq.1 hmn with hlt | rfl
        · exact hlatest.latest m hkm hlt
        · exact hnone
      · rcases Nat.le_succ_iff.1 hmn with hle | rfl
        · exact hlatest.registered m hkm hle
        · exact hregistered

/-- In every run a uri leads to the connection dialed there last, if that is registered still. -/
lemma cached_stateAt_iff (ops : List Op) (uri : String) (handle : Handle) (n : Nat) :
    (stateAt ops n).Cached uri handle ↔ ∃ k, LatestDial ops uri handle k n := by
  induction n with
  | zero =>
    constructor
    · rintro ⟨hmem, -⟩
      cases hmem
    · rintro ⟨k, hlatest⟩
      exact absurd hlatest.lt (Nat.not_lt_zero k)
  | succ n ih =>
    rw [exists_latestDial_succ_iff, ← ih]
    cases hop : ops[n]? with
    | none =>
      rw [stateAt_succ_of_none hop, dialedAt, hop, Option.bind_none]
      constructor
      · intro hcached
        exact ⟨Or.inr ⟨rfl, hcached⟩, hcached.contains⟩
      · rintro ⟨hnone | ⟨-, hcached⟩, -⟩
        · cases hnone
        · exact hcached
    | some op =>
      rw [stateAt_succ hop, dialedAt, hop, Option.bind_some]
      exact cached_after_iff (consistent_stateAt ops n) op

/-- In every run the connection found at a uri is the one dialed there last, if it is active. -/
lemma findTarget_stateAt_iff (ops : List Op) (uri : String) (handle : Handle) (n : Nat) :
    (stateAt ops n).findTarget uri = some handle ↔
      (∃ k, LatestDial ops uri handle k n) ∧ (stateAt ops n).phase handle.id = .active := by
  rw [findTarget_eq_some_iff (consistent_stateAt ops n), cached_stateAt_iff]

/-- The last connection dialed at a uri, while it is active, is found there in all steps since. -/
lemma LatestDial.findTarget (h : LatestDial ops uri handle k n)
    (hactive : (stateAt ops n).phase handle.id = .active) {m : Nat} (hkm : k < m) (hmn : m ≤ n) :
    (stateAt ops m).findTarget uri = some handle := by
  have hdial : LatestDial ops uri handle k m :=
    ⟨hkm, h.dialed, fun l hkl hlm => h.latest l hkl (by omega),
      fun l hkl hlm => h.registered l hkl (by omega)⟩
  -- it was active in all those steps, since nothing makes it active again
  have hbefore : ∀ l, m ≤ l → l ≤ n → (stateAt ops l).phase handle.id = .active →
      (stateAt ops m).phase handle.id = .active := by
    intro l hml
    induction l, hml using Nat.le_induction with
    | base => exact fun _ hphase => hphase
    | succ l hml ih =>
      intro hln hphase
      apply ih (by omega)
      cases hop : ops[l]? with
      | none =>
        rw [stateAt_succ_of_none hop] at hphase
        exact hphase
      | some op =>
        rw [stateAt_succ hop] at hphase
        have hregistered := h.registered l (by omega) (by omega)
        exact phase_active_of_after (consistent_stateAt ops l)
          (added?_ne_of_contains hregistered op) hphase
  exact (findTarget_stateAt_iff ops uri handle m).2 ⟨⟨k, hdial⟩, hbefore n hmn (Nat.le_refl n) hactive⟩

end Registry

end CallDispatch
