import CallDispatch.Dial.Locks
import CallDispatch.Proofs.Lookup

/-!
# Locks under the steps of their callers

Each step of a caller changes its own place and no other one, and the lock that a uri has stays its
lock while two callers share it. Taking a lock needs that nobody holds it, so at any moment at most
one caller holds it (`Exclusive`), whatever the callers do.

## Main definitions

* `Locks.caller?`, `Locks.lock?`: the place of a caller, and the lock that a uri has now.
* `Locks.Exclusive`: no two callers hold the same lock.
-/

namespace CallDispatch

namespace Locks

/-- The place of a caller. -/
def caller? (locks : Locks) (caller : Nat) : Option Caller :=
  locks.callers.lookup caller

/-- The lock that a uri has now. -/
def lock? (locks : Locks) (uri : String) : Option Nat :=
  locks.locks.lookup uri

/-- No two callers hold the same lock. -/
def Exclusive (locks : Locks) : Prop :=
  ∀ (i j : Nat) (a b : Caller), locks.caller? i = some a → locks.caller? j = some b →
    a.lock = b.lock → a.phase = .holding → b.phase = .holding → i = j

variable {locks : Locks} {caller other : Nat} {uri : String} {lock : Nat}

/-! ## Places -/

/-- A new caller waits at the lock that its uri has then. -/
lemma caller?_enter_self (locks : Locks) (caller : Nat) (uri : String) :
    ∃ lock, (locks.enter caller uri).lock? uri = some lock ∧
      (locks.enter caller uri).caller? caller = some ⟨uri, lock, .waiting⟩ := by
  unfold enter caller? lock?
  cases hlock : locks.locks.lookup uri with
  | some lock => exact ⟨lock, hlock, by simp⟩
  | none => exact ⟨locks.nextLock, by simp, by simp⟩

lemma caller?_enter_of_ne (uri : String) (hne : other ≠ caller) :
    (locks.enter caller uri).caller? other = locks.caller? other := by
  unfold enter caller?
  cases locks.locks.lookup uri with
  | some lock => exact lookup_cons_of_ne hne
  | none => exact lookup_cons_of_ne hne

/-- A uri keeps its lock when a new caller comes. -/
lemma lock?_enter {target : String} (h : locks.lock? target = some lock) :
    (locks.enter caller uri).lock? target = some lock := by
  unfold enter lock? at *
  cases hlock : locks.locks.lookup uri with
  | some lock => exact h
  | none =>
    have hne : target ≠ uri := by
      rintro rfl
      rw [hlock] at h
      cases h
    exact (lookup_cons_of_ne hne).trans h

lemma caller?_move (locks : Locks) (caller : Nat) (phase : CallerPhase) (other : Nat) :
    (locks.move caller phase).caller? other =
      if other = caller then (locks.caller? other).map fun place => { place with phase }
      else locks.caller? other := by
  have hmap : (locks.move caller phase).caller? other = (locks.callers.lookup other).map
      fun place => if other = caller then { place with phase } else place :=
    lookup_map_values (fun (number : Nat) (place : Caller) =>
      if number = caller then { place with phase } else place) locks.callers other
  rw [hmap]
  split
  · rfl
  · exact Option.map_id'

lemma caller?_cancel (locks : Locks) (caller other : Nat) :
    (locks.cancel caller).caller? other =
      if other = caller then none else locks.caller? other :=
  lookup_filter_ne locks.callers other caller

@[simp] lemma lock?_move (phase : CallerPhase) :
    (locks.move caller phase).lock? uri = locks.lock? uri := rfl

@[simp] lemma lock?_release : (locks.release caller).lock? uri = locks.lock? uri := rfl

@[simp] lemma lock?_cancel : (locks.cancel caller).lock? uri = locks.lock? uri := rfl

@[simp] lemma caller?_tidy : (locks.tidy uri).caller? caller = locks.caller? caller := by
  unfold tidy
  split
  · split <;> rfl
  · rfl

/-- A caller takes its lock if it waits and nobody holds the lock, and else nothing changes. -/
lemma acquire_cases (locks : Locks) (caller : Nat) :
    locks.acquire caller = (locks, false) ∨
      ∃ place, locks.caller? caller = some place ∧ place.phase = .waiting ∧
        (∀ other holder, locks.caller? other = some holder → holder.lock = place.lock →
          holder.phase ≠ .holding) ∧
        locks.acquire caller = (locks.move caller .holding, true) := by
  unfold acquire
  cases hplace : locks.callers.lookup caller with
  | none => exact Or.inl rfl
  | some place =>
    by_cases hfree : place.phase = .waiting ∧ ¬ locks.isHeld place.lock
    · refine Or.inr ⟨place, hplace, hfree.1, ?_, if_pos hfree⟩
      intro other holder hholder hlock hholding
      apply hfree.2
      obtain ⟨before, behind, hcallers, -⟩ := List.lookup_eq_some_iff.1 hholder
      rw [isHeld, hcallers]
      simp [hlock, hholding]
    · exact Or.inl (if_neg hfree)

/-- A lock that two callers share is not forgotten. -/
lemma lock?_tidy {target : String} (h : locks.lock? target = some lock)
    (hshared : target = uri → 2 ≤ locks.sharers lock) :
    (locks.tidy uri).lock? target = some lock := by
  unfold tidy
  split
  · next found hfound =>
    split
    · next hfew =>
      have hne : target ≠ uri := by
        rintro rfl
        have hsame : lock = found := Option.some.inj (h.symm.trans hfound)
        have htwo := hshared rfl
        rw [hsame] at htwo
        omega
      show (locks.locks.filter (·.1 ≠ uri)).lookup target = some lock
      rw [lookup_filter_ne, if_neg hne]
      exact h
    · exact h
  · exact h

/-- A caller that leaves forgets the lock of its uri if it may, and gives up its place. -/
lemma leave_eq {place : Caller} (h : locks.caller? caller = some place) :
    locks.leave caller = (locks.tidy place.uri).cancel caller := by
  unfold leave
  rw [show locks.callers.lookup caller = some place from h]

/-- Two callers at a lock share it. -/
lemma two_le_sharers {a b : Caller} (hne : caller ≠ other) (ha : locks.caller? caller = some a)
    (hb : locks.caller? other = some b) (hla : a.lock = lock) (hlb : b.lock = lock) :
    2 ≤ locks.sharers lock :=
  two_le_countP hne ha hb (beq_iff_eq.2 hla) (beq_iff_eq.2 hlb)

/-! ## Mutual exclusion -/

lemma exclusive_empty : ({} : Locks).Exclusive := by
  intro i j a b ha
  cases ha

/-- Callers that hold a lock after a step did so before. -/
lemma Exclusive.of_holding {locks' : Locks} (h : locks.Exclusive)
    (hold : ∀ i a, locks'.caller? i = some a → a.phase = .holding → locks.caller? i = some a) :
    locks'.Exclusive := by
  intro i j a b ha hb hlock hholding hholding'
  exact h i j a b (hold i a ha hholding) (hold j b hb hholding') hlock hholding hholding'

lemma Exclusive.enter (h : locks.Exclusive) (caller : Nat) (uri : String) :
    (locks.enter caller uri).Exclusive := by
  apply h.of_holding
  intro i a ha hholding
  by_cases hsame : i = caller
  · obtain ⟨lock, -, hself⟩ := caller?_enter_self locks caller uri
    rw [hsame, hself] at ha
    cases ha
    cases hholding
  · rw [caller?_enter_of_ne uri hsame] at ha
    exact ha

lemma Exclusive.release (h : locks.Exclusive) (caller : Nat) :
    (locks.release caller).Exclusive := by
  apply h.of_holding
  intro i a ha hholding
  rw [Locks.release, caller?_move] at ha
  split at ha
  · obtain ⟨place, -, rfl⟩ := Option.map_eq_some_iff.1 ha
    cases hholding
  · exact ha

lemma Exclusive.tidy (h : locks.Exclusive) (uri : String) : (locks.tidy uri).Exclusive := by
  apply h.of_holding
  intro i a ha _
  rw [caller?_tidy] at ha
  exact ha

lemma Exclusive.cancel (h : locks.Exclusive) (caller : Nat) : (locks.cancel caller).Exclusive := by
  apply h.of_holding
  intro i a ha _
  rw [caller?_cancel] at ha
  split at ha
  · cases ha
  · exact ha

lemma Exclusive.acquire (h : locks.Exclusive) (caller : Nat) :
    (locks.acquire caller).1.Exclusive := by
  rcases acquire_cases locks caller with hsame | ⟨place, hplace, -, hfree, hacquire⟩
  · rw [hsame]
    exact h
  · rw [hacquire]
    intro i j a b ha hb hlock hholding hholding'
    rw [caller?_move] at ha hb
    -- nobody else holds the lock that is taken
    have hself : ∀ c : Caller, (locks.caller? caller).map (fun place =>
        { place with phase := .holding }) = some c → c.lock = place.lock := by
      intro c hc
      rw [hplace] at hc
      cases hc
      rfl
    split at ha
    · next hi =>
      split at hb
      · next hj => exact hi.trans hj.symm
      · rw [hi] at ha
        exact absurd hholding' (hfree j b hb (hlock.symm.trans (hself a ha)))
    · split at hb
      · next hj =>
        rw [hj] at hb
        exact absurd hholding (hfree i a ha (hlock.trans (hself b hb)))
      · exact h i j a b ha hb hlock hholding hholding'

end Locks

end CallDispatch
