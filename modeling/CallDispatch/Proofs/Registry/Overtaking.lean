import CallDispatch.Proofs.Registry.Ageing

/-!
# No overtaking

Connections come and go, drain, ask for methods and belong to several pools that are selected from
in any order, so there is no rotation to speak of. What remains is that nobody is served twice while
somebody who waits is passed over: between two selections of one connection, every other one that
the second selection could have taken has been selected as well.

The stamps remember enough of the run for that. A stamp that is not 0 is the number of a selection
in the past, and its connection has been registered ever since (`exists_lastPicked`); a connection
that stays registered keeps a stamp at least as new as its selection (`lastSeq_le_lastUsed`). The
second selection takes the oldest stamp, so the stamps of those that it passes over are newer than
the first selection.

## Main definitions

* `stateAt`, `pickedAt`: the registry before a step of a run, and what the step selects.
* `LastPicked`: a connection was selected in a step and has been registered ever since.
-/

namespace CallDispatch

namespace Registry

/-- The registry before the step with the given number, the steps being counted from 0. -/
def stateAt (ops : List Op) (n : Nat) : Registry :=
  ({} : Registry).run (ops.take n)

/-- The connection that the step with the given number selects from a pool. -/
def pickedAt (ops : List Op) (n : Nat) : Option EntryId :=
  ops[n]?.bind fun op => ((stateAt ops n).chosen? op).map Handle.id

/-- A connection was selected in a step, with the given number of selections then, and has been
registered from there to another step. -/
structure LastPicked (ops : List Op) (id : EntryId) (seq k n : Nat) : Prop where
  lt : k < n
  picked : pickedAt ops k = some id
  lastSeq_eq : (stateAt ops (k + 1)).lastSeq = seq
  registered : ∀ m, k < m → m ≤ n → (stateAt ops m).contains id = true

variable {ops : List Op} {op : Op} {id : EntryId} {i k n : Nat}

/-! ## One step -/

lemma consistent_stateAt (ops : List Op) (n : Nat) : (stateAt ops n).Consistent :=
  consistent_run (ops.take n)

/-- A step makes its operation. -/
lemma stateAt_succ (h : ops[n]? = some op) :
    stateAt ops (n + 1) = (stateAt ops n).after op := by
  rw [stateAt, stateAt, List.take_add_one, h, Option.toList_some, run, List.foldl_append]
  rfl

/-- Behind the last step nothing changes. -/
lemma stateAt_succ_of_none (h : ops[n]? = none) : stateAt ops (n + 1) = stateAt ops n := by
  rw [stateAt, List.take_add_one, h, Option.toList_none, List.append_nil]
  rfl

/-- What is selected in a step is what its operation chooses. -/
lemma exists_of_pickedAt (h : pickedAt ops n = some id) :
    ∃ op handle, ops[n]? = some op ∧ (stateAt ops n).chosen? op = some handle ∧
      handle.id = id := by
  obtain ⟨op, hop, hmap⟩ := Option.bind_eq_some_iff.1 h
  obtain ⟨handle, hchosen, hid⟩ := Option.map_eq_some_iff.1 hmap
  exact ⟨op, handle, hop, hchosen, hid⟩

/-- The number of the last selection never falls from one step to a later one. -/
lemma lastSeq_stateAt_mono {m : Nat} (h : m ≤ n) :
    (stateAt ops m).lastSeq ≤ (stateAt ops n).lastSeq := by
  induction n, h using Nat.le_induction with
  | base => exact Nat.le_refl _
  | succ n _ ih =>
    cases hop : ops[n]? with
    | none =>
      rw [stateAt_succ_of_none hop]
      exact ih
    | some op =>
      rw [stateAt_succ hop]
      exact (kept_lastSeq_le _).after op ih

/-- A step that selects a connection counts as one selection. -/
lemma lastSeq_succ_of_pickedAt (h : pickedAt ops n = some id) :
    (stateAt ops (n + 1)).lastSeq = (stateAt ops n).lastSeq + 1 := by
  obtain ⟨op, handle, hop, hchosen, -⟩ := exists_of_pickedAt h
  rw [stateAt_succ hop]
  exact lastSeq_of_chosen hchosen

/-- The connection that is chosen carries the newest stamp afterwards. -/
lemma lastUsed_of_chosen {registry : Registry} {handle : Handle}
    (hchosen : registry.chosen? op = some handle) {slot' : Slot}
    (hslot' : slot' ∈ (registry.after op).slots) (hid : slot'.id = handle.id) :
    slot'.lastUsed = (registry.after op).lastSeq := by
  cases op with
  | reserve selector method excluded =>
    rcases reserve_cases registry selector method excluded with
      ⟨hreserve, -⟩ | ⟨chosen, -, -, -, hreserve⟩
    · rw [chosen?, hreserve] at hchosen
      cases hchosen
    · rw [chosen?, hreserve] at hchosen
      cases hchosen
      rw [after, hreserve] at hslot' ⊢
      rcases mem_selected.1 hslot' with ⟨-, hother⟩ | ⟨old, -, -, rfl⟩
      · exact absurd hid hother
      · rfl
  | _ => cases hchosen

/-! ## What the stamps remember -/

/-- The last selection is the same one a step later, if the connection is still registered. -/
lemma LastPicked.succ {seq : Nat} (h : LastPicked ops id seq k n)
    (hregistered : (stateAt ops (n + 1)).contains id = true) :
    LastPicked ops id seq k (n + 1) where
  lt := Nat.lt_succ_of_lt h.lt
  picked := h.picked
  lastSeq_eq := h.lastSeq_eq
  registered := by
    intro m hkm hmn
    rcases Nat.le_succ_iff.1 hmn with hle | rfl
    · exact h.registered m hkm hle
    · exact hregistered

/-- A stamp that is not 0 is the number of the last selection of the connection, which has been
registered ever since. -/
lemma exists_lastPicked (n : Nat) {slot : Slot} (hslot : slot ∈ (stateAt ops n).slots)
    (hused : 0 < slot.lastUsed) : ∃ k, LastPicked ops slot.id slot.lastUsed k n := by
  -- by induction on the steps: a slot has its stamp from the step before, or it is selected now
  induction n generalizing slot with
  | zero => simp [stateAt] at hslot
  | succ n ih =>
    have hregistered : (stateAt ops (n + 1)).contains slot.id = true :=
      contains_iff.2 ⟨slot, hslot, rfl⟩
    have hbefore : ∀ old ∈ (stateAt ops n).slots, slot.id = old.id →
        slot.lastUsed = old.lastUsed →
        ∃ k, LastPicked ops slot.id slot.lastUsed k (n + 1) := by
      intro old hold hid hlast
      obtain ⟨k, hpicked⟩ := ih hold (hlast ▸ hused)
      rw [← hid, ← hlast] at hpicked
      exact ⟨k, hpicked.succ hregistered⟩
    cases hop : ops[n]? with
    | none =>
      rw [stateAt_succ_of_none hop] at hslot
      exact hbefore slot hslot rfl rfl
    | some op =>
      have hslot' := hslot
      rw [stateAt_succ hop] at hslot'
      cases origin (consistent_stateAt ops n) op hslot' with
      | aged old hold hages => exact hbefore old hold hages.id_eq hages.lastUsed_eq
      | engaged old hold _ _ hnew =>
        subst hnew
        exact hbefore old hold rfl rfl
      | selected old hold _ _ hchosen hnew =>
        have hpicked : pickedAt ops n = some slot.id := by
          rw [pickedAt, hop, Option.bind_some, hchosen, hnew]
          rfl
        refine ⟨n, Nat.lt_succ_self n, hpicked, ?_, fun m hnm hmn => ?_⟩
        · rw [lastSeq_succ_of_pickedAt hpicked, hnew]
          rfl
        · obtain rfl : m = n + 1 := Nat.le_antisymm hmn hnm
          exact hregistered
      | added entry _ _ _ hnew =>
        -- a connection that has just been registered was never selected
        rw [hnew] at hused
        exact absurd hused (Nat.lt_irrefl 0)

/-- While a connection that was selected stays registered, its stamp is no older than that
selection. -/
lemma lastSeq_le_lastUsed (hpicked : pickedAt ops i = some id)
    (hregistered : ∀ m, i < m → m ≤ n → (stateAt ops m).contains id = true) (hin : i < n)
    {slot : Slot} (hslot : slot ∈ (stateAt ops n).slots) (hid : slot.id = id) :
    (stateAt ops (i + 1)).lastSeq ≤ slot.lastUsed := by
  -- by induction on the steps behind the selection
  induction n, (show i + 1 ≤ n from hin) using Nat.le_induction generalizing slot with
  | base =>
    obtain ⟨op, handle, hop, hchosen, hhandle⟩ := exists_of_pickedAt hpicked
    rw [stateAt_succ hop] at hslot ⊢
    exact Nat.le_of_eq (lastUsed_of_chosen hchosen hslot (hid.trans hhandle.symm)).symm
  | succ n hle ih =>
    have hbefore : ∀ old ∈ (stateAt ops n).slots, old.id = id →
        (stateAt ops (i + 1)).lastSeq ≤ old.lastUsed := by
      intro old hold holdid
      exact ih (fun m him hmn => hregistered m him (Nat.le_succ_of_le hmn)) hle hold holdid
    cases hop : ops[n]? with
    | none =>
      rw [stateAt_succ_of_none hop] at hslot
      exact hbefore slot hslot hid
    | some op =>
      rw [stateAt_succ hop] at hslot
      cases origin (consistent_stateAt ops n) op hslot with
      | aged old hold hages =>
        rw [hages.lastUsed_eq]
        exact hbefore old hold (hages.id_eq.symm.trans hid)
      | engaged old hold _ _ hnew =>
        subst hnew
        exact hbefore old hold hid
      | selected old _ _ _ _ hnew =>
        rw [hnew]
        exact Nat.le_succ_of_le (lastSeq_stateAt_mono hle)
      | added entry _ _ hfresh hnew =>
        -- the connection was registered before the step, so the step cannot have registered it
        obtain ⟨old, hold, holdid⟩ := contains_iff.1 (hregistered n hle (Nat.le_succ n))
        rw [hnew] at hid
        exact absurd (holdid.trans hid.symm) (hfresh old hold)

/-! ## The main result -/

/-- **No overtaking.** However a registry is used, if one connection is selected in two steps and
stays registered in between, every other connection that the second selection could have taken was
itself selected strictly between them, and has been registered from there on. -/
theorem reserve_no_overtaking {i j : Nat} {id other : EntryId} (hij : i < j)
    (hfirst : pickedAt ops i = some id) (hsecond : pickedAt ops j = some id)
    (hstays : ∀ n, i < n → n ≤ j → (stateAt ops n).contains id = true)
    {selector : Selector} {method : Option String} {excluded : List EntryId}
    (hop : ops[j]? = some (.reserve selector method excluded))
    (heligible : other ∈ (stateAt ops j).members selector method)
    (hnot : other ∉ excluded) (hne : other ≠ id) :
    ∃ k, i < k ∧ k < j ∧ pickedAt ops k = some other ∧
      ∀ n, k < n → n ≤ j → (stateAt ops n).contains other = true := by
  have h : (stateAt ops j).Consistent := consistent_stateAt ops j
  obtain ⟨op, handle, hop', hchosen, hhandle⟩ := exists_of_pickedAt hsecond
  obtain rfl : op = .reserve selector method excluded := Option.some.inj (hop'.symm.trans hop)
  -- the slots of the connection selected and of the one passed over
  obtain ⟨chosen, hpool, hleast, hid⟩ : ∃ chosen ∈ (stateAt ops j).pool selector method,
      (∀ slot ∈ (stateAt ops j).pool selector method, slot.id ∉ excluded →
        chosen.lastUsed ≤ slot.lastUsed) ∧ chosen.id = id := by
    rcases reserve_cases (stateAt ops j) selector method excluded with
      ⟨hreserve, -⟩ | ⟨chosen, hpool, -, hleast, hreserve⟩
    · rw [chosen?, hreserve] at hchosen
      cases hchosen
    · rw [chosen?, hreserve] at hchosen
      cases hchosen
      refine ⟨chosen, hpool, fun slot hslot hfree => ?_, hhandle⟩
      exact (leastUsed?_spec hleast).2 slot (List.mem_filter.2 ⟨hslot, by simpa using hfree⟩)
  obtain ⟨passed, hpassed, rfl⟩ := mem_members.1 heligible
  have hmem : chosen ∈ (stateAt ops j).slots := (mem_pool.1 hpool).1
  have hmem' : passed ∈ (stateAt ops j).slots := (mem_pool.1 hpassed).1
  -- the stamp of the one passed over is newer than that of the other, hence than the first step
  have hstamp : (stateAt ops (i + 1)).lastSeq ≤ chosen.lastUsed :=
    lastSeq_le_lastUsed hfirst hstays hij hmem hid
  have hpos : 0 < (stateAt ops (i + 1)).lastSeq := by
    rw [lastSeq_succ_of_pickedAt hfirst]
    exact Nat.succ_pos _
  have hle : chosen.lastUsed ≤ passed.lastUsed := hleast passed hpassed hnot
  have hdistinct : chosen.lastUsed ≠ passed.lastUsed := by
    intro heq
    have hzero : chosen.lastUsed = 0 :=
      h.lastUsed_inj chosen hmem passed hmem' (fun hsame => hne (hsame.symm.trans hid)) heq
    omega
  obtain ⟨k, hpicked⟩ := exists_lastPicked j hmem' (by omega)
  refine ⟨k, ?_, hpicked.lt, hpicked.picked, hpicked.registered⟩
  -- the selections are numbered in the order of the steps
  by_contra hki
  have hmono : (stateAt ops (k + 1)).lastSeq ≤ (stateAt ops (i + 1)).lastSeq :=
    lastSeq_stateAt_mono (by omega)
  rw [hpicked.lastSeq_eq] at hmono
  omega

/-- Two applications take turns while a third one joins and one of them asks for a method; then the
pool of a tag is selected from, and one of the three drains. -/
def threeInTurn : List Op :=
  twoJoin ++
    [.reserve .untagged none [],
      .add ⟨⟨3, .inbound, .plain, .empty, none, none, 3⟩, .connecting⟩,
      .subscribe 1 "invite",
      .reserve .untagged (some "Invite") [1],
      .reserve (.tag "sales") none [],
      .reserve .untagged (some "Invite") [],
      .beginDrain 0 2,
      .reserve .untagged (some "Invite") []]

theorem reserve_no_overtaking_threeInTurn :
    pickedAt threeInTurn 2 = some 1 ∧ pickedAt threeInTurn 9 = some 1 ∧
      (3 : EntryId) ∈ (stateAt threeInTurn 9).members .untagged (some "Invite") ∧
      ∃ k, 2 < k ∧ k < 9 ∧ pickedAt threeInTurn k = some 3 ∧
        ∀ n, k < n → n ≤ 9 → (stateAt threeInTurn n).contains 3 = true := by
  have hfirst : pickedAt threeInTurn 2 = some 1 := by decide
  have hsecond : pickedAt threeInTurn 9 = some 1 := by decide
  have heligible : (3 : EntryId) ∈ (stateAt threeInTurn 9).members .untagged (some "Invite") := by
    decide
  have hstays : ∀ n < 10, 2 < n → (stateAt threeInTurn n).contains 1 = true := by decide
  exact ⟨hfirst, hsecond, heligible,
    reserve_no_overtaking (by decide) hfirst hsecond
      (fun n hlt hle => hstays n (Nat.lt_succ_of_le hle) hlt) rfl heligible List.not_mem_nil
      (by decide)⟩

end Registry

end CallDispatch
