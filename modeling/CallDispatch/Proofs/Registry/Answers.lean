import CallDispatch.Proofs.Dispatch.Attempts

/-!
# What the registry answers

The answer of an operation says what the operation has done. A selection answers with the first
connection of the snapshot that it may choose, although it does not sort the pool as the snapshot
does, and it has then changed the stamp and the calls of that connection and nothing else. An
operation that answers with an error, with nothing or with `false` has changed nothing at all; those
that may answer with an error do so for the reasons that the error names, and for no others.

## Main definitions

* `Registry.Fails`: an operation answers that it could not do what was asked.
-/

namespace CallDispatch

namespace Registry

variable {registry : Registry} {id : EntryId} {op : Op}

/-! ## The next in turn -/

/-- **The next in turn.** In every state that is reached, a selection from a pool answers with the
first connection of the snapshot of the pool that is not excluded, and with nothing exactly if all
of them are. If there is one, the selection stamps it with the next number and counts a call on it,
and besides only that number has become the last one; giving the call back at once leaves nothing
else than the stamp and the number. If there is none, nothing has changed. -/
theorem reserve_eq_first_of_snapshot {ops : List Op} (hregistry : registry = ({} : Registry).run ops)
    {selector : Selector} {method : Option String} {excluded : List EntryId} {after : Registry}
    {answer : Option Reservation}
    (hreserve : registry.reserve selector method excluded = (after, answer)) :
    answer.map Reservation.handle =
        (registry.snapshot selector method).find? (fun handle => decide (handle.id ∉ excluded)) ∧
      (answer = none ↔ ∀ handle ∈ registry.snapshot selector method, handle.id ∈ excluded) ∧
      (answer = none → after = registry) ∧
      ∀ reservation, answer = some reservation →
        (∃ slot, registry.find? reservation.handle.id = some slot ∧
          slot.handle = reservation.handle) ∧
        after = { registry.update reservation.handle.id fun slot =>
            { slot with lastUsed := registry.lastSeq + 1, calls := slot.calls + 1 } with
          lastSeq := registry.lastSeq + 1 } ∧
        after.rollBack reservation = { registry.update reservation.handle.id fun slot =>
            { slot with lastUsed := registry.lastSeq + 1 } with
          lastSeq := registry.lastSeq + 1 } := by
  have h : registry.Ascending := hregistry ▸ (consistent_run ops).ascending
  have hafter : (registry.reserve selector method excluded).1 = after := congrArg Prod.fst hreserve
  have hanswer : (registry.reserve selector method excluded).2 = answer :=
    congrArg Prod.snd hreserve
  have hfirst : answer.map Reservation.handle = (registry.snapshot selector method).find?
      (fun handle => decide (handle.id ∉ excluded)) := by
    rw [← hanswer, reserve_eq_find?, Option.map_map]
    simp [Function.comp_def]
  refine ⟨hfirst, ?_, fun hnone => ?_, fun reservation hsome => ?_⟩
  · rw [← Option.map_eq_none_iff (f := Reservation.handle), hfirst, List.find?_eq_none]
    simp
  · rw [← hafter]
    exact eq_of_reserve_eq_none (hanswer.trans hnone)
  · rw [hsome] at hanswer
    obtain ⟨slot, hfind, hhandle, -, hmark⟩ := exists_of_reserve_eq_some h hanswer
    refine ⟨⟨slot, hfind, hhandle⟩, ?_, ?_⟩
    · rw [← hafter, hmark]
      rfl
    · rw [← hafter, rollBack_reserve h hanswer]
      rfl

/-- The connection with the given number, which anybody may select. -/
def guest (id : EntryId) : Handle :=
  ⟨id, .inbound, .plain, .empty, none, none, id⟩

/-- Three connections are registered, and the first one is selected. -/
def oneOfThree : List Op :=
  [.add ⟨guest 1, .connecting⟩, .add ⟨guest 2, .connecting⟩, .add ⟨guest 3, .connecting⟩,
    .reserve .untagged none []]

theorem reserve_eq_first_of_snapshot_oneOfThree :
    let registry := ({} : Registry).run oneOfThree
    registry.snapshot .untagged none = [guest 2, guest 3, guest 1] ∧
      ∃ after, registry.reserve .untagged none [2] = (after, some ⟨guest 3⟩) ∧
        (after.rollBack ⟨guest 3⟩).find? 3 = some { handle := guest 3, lastUsed := 2 } := by
  intro registry
  have hpool : registry.pool .untagged none = [{ handle := guest 1, lastUsed := 1, calls := 1 },
      { handle := guest 2 }, { handle := guest 3 }] := by decide
  have hsnapshot : registry.snapshot .untagged none = [guest 2, guest 3, guest 1] := by
    rw [snapshot, hpool]
    simp [List.mergeSort, List.MergeSort.Internal.splitInTwo]
  obtain ⟨hfirst, -, -, hchosen⟩ := reserve_eq_first_of_snapshot (rfl : registry = _)
    (Prod.mk.eta.symm : registry.reserve .untagged none [2] = _)
  rw [hsnapshot] at hfirst
  obtain ⟨reservation, hanswer, hhandle⟩ := Option.map_eq_some_iff.1 hfirst
  obtain rfl : reservation = ⟨guest 3⟩ := congrArg Reservation.mk hhandle
  refine ⟨hsnapshot, (registry.reserve .untagged none [2]).1, Prod.ext rfl hanswer, ?_⟩
  rw [(hchosen _ hanswer).2.2]
  rfl

/-! ## Failures -/

/-- An operation answers with an error, with nothing or with `false`. -/
def Fails (registry : Registry) : Op → Prop
  | .add entry => ∃ error, (registry.add entry).2 = .error error
  | .remove id => (registry.remove id).2 = none
  | .beginDrain now id => ∃ error, (registry.beginDrain now id).2 = .error error
  | .subscribe id method => ∃ error, (registry.subscribe id method).2 = .error error
  | .reserve selector method excluded => (registry.reserve selector method excluded).2 = none
  | .reserveEntry id => (registry.reserveEntry id).2 = none
  | .release id => (registry.release id).2 = false
  | _ => False

/-- A connection is refused if its id is taken, or if it is not connecting any more. -/
lemma add_eq_error_iff (registry : Registry) (entry : Entry) (error : RegistryError) :
    (registry.add entry).2 = .error error ↔
      if registry.contains entry.handle.id = true then error = .duplicateId entry.handle.id
      else entry.state ≠ .connecting ∧ error = .invalidTransition entry.state .active := by
  unfold add
  dsimp only
  split
  · simp [eq_comm]
  · cases hstate : entry.state <;>
      simp [Entry.transition, hstate, EntryState.canBecome, EntryState.rank, eq_comm]

/-- Only an unknown connection cannot ask for a method. -/
lemma subscribe_eq_error_iff (registry : Registry) (id : EntryId) (method : String)
    (error : RegistryError) :
    (registry.subscribe id method).2 = .error error ↔
      registry.contains id = false ∧ error = .notFound id := by
  rw [contains_eq_false_iff]
  unfold subscribe
  cases hfind : registry.find? id with
  | none => simp [eq_comm]
  | some slot => simp

/-- Only an unknown connection cannot be closed, and then nothing has changed. -/
lemma eq_of_close_eq_none (hclose : (registry.close id).2 = none) :
    (registry.close id).1 = registry := by
  unfold close at hclose ⊢
  cases hfind : registry.find? id with
  | none => rfl
  | some slot => simp [hfind] at hclose

/-- Only on an unknown connection no call can end, and then nothing has changed. -/
lemma eq_of_release_eq_false (hrelease : (registry.release id).2 = false) :
    (registry.release id).1 = registry := by
  unfold release at hrelease ⊢
  cases hfind : registry.find? id with
  | none => rfl
  | some slot =>
    simp only [hfind] at hrelease
    split at hrelease <;> cases hrelease

/-- An operation that fails changes nothing. -/
lemma after_eq_of_fails (h : registry.Consistent) (hfails : registry.Fails op) :
    registry.after op = registry := by
  cases op with
  | add entry =>
    obtain ⟨error, herror⟩ := hfails
    rcases add_cases registry entry with ⟨other, hrefused⟩ | ⟨-, hadd⟩
    · rw [after, hrefused]
    · rw [hadd] at herror
      cases herror
  | remove id => exact eq_of_close_eq_none hfails
  | beginDrain now id =>
    obtain ⟨error, herror⟩ := hfails
    have hunknown := ((h.beginDrain_eq_error_iff now id error).1 herror).1
    rw [after, beginDrain, contains_eq_false_iff.1 hunknown]
  | subscribe id method =>
    obtain ⟨error, herror⟩ := hfails
    have hunknown := ((subscribe_eq_error_iff registry id method error).1 herror).1
    rw [after, subscribe, contains_eq_false_iff.1 hunknown]
  | reserve selector method excluded => exact eq_of_reserve_eq_none hfails
  | reserveEntry id => exact eq_of_reserveEntry_eq_none hfails
  | release id => exact eq_of_release_eq_false hfails
  | _ => exact hfails.elim

/-- **Failures leave no trace.** In every state that is reached, a connection is refused exactly if
its id is registered, or if it is not connecting, and the error says which; telling a connection to
drain and subscribing it to a method fail exactly if the connection is not registered. An operation
that answers with an error, with nothing or with `false` leaves the slots, the cached uris and the
number of the last selection as they were. -/
theorem after_eq_self_of_fails {ops : List Op} (hregistry : registry = ({} : Registry).run ops) :
    (∀ entry error, (registry.add entry).2 = .error error ↔
        if registry.contains entry.handle.id = true then error = .duplicateId entry.handle.id
        else entry.state ≠ .connecting ∧ error = .invalidTransition entry.state .active) ∧
      (∀ now id error, (registry.beginDrain now id).2 = .error error ↔
        registry.contains id = false ∧ error = .notFound id) ∧
      (∀ id method error, (registry.subscribe id method).2 = .error error ↔
        registry.contains id = false ∧ error = .notFound id) ∧
      ∀ op, registry.Fails op → registry.after op = registry := by
  have h : registry.Consistent := hregistry ▸ consistent_run ops
  exact ⟨add_eq_error_iff registry, h.beginDrain_eq_error_iff, subscribe_eq_error_iff registry,
    fun _ => after_eq_of_fails h⟩

/-- A connection is dialed, and then another one at the same uri that is not connecting any more. -/
theorem after_eq_self_of_fails_closed :
    let dialed : Handle := ⟨1, .outbound, .plain, .empty, some "app:5000", none, 1⟩
    let late : Entry := ⟨⟨2, .outbound, .plain, .empty, some "app:5000", none, 2⟩, .closed⟩
    let registry := ({} : Registry).run [.add ⟨dialed, .connecting⟩]
    (registry.add late).2 = .error (.invalidTransition .closed .active) ∧
      (registry.after (.add late)).findTarget "app:5000" = some dialed ∧
      (registry.beginDrain 0 2).2 = .error (.notFound 2) := by
  intro dialed late registry
  obtain ⟨hadd, hdrain, -, hsame⟩ := after_eq_self_of_fails (rfl : registry = _)
  have hrefused : (registry.add late).2 = .error (.invalidTransition .closed .active) :=
    (hadd late _).2 ⟨by decide, rfl⟩
  refine ⟨hrefused, ?_, (hdrain 0 2 _).2 ⟨rfl, rfl⟩⟩
  rw [hsame (.add late) ⟨_, hrefused⟩]
  rfl

end Registry

end CallDispatch
