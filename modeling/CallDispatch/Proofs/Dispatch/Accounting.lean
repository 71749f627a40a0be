import CallDispatch.Proofs.Dispatch.Traffic
import Mathlib

/-!
# Call accounting

A connection has a call for each transaction bound to it and for each reservation on it that is not
settled. What is owed to a connection (`Traffic.owed`) lies in the dispatcher, in the reservations
held outside and in the dispatches that wait, and every act moves it about in step with the counts
of the registry (`Traffic.owed_proceed`). So the counts are exact in every state that is reached
while ids are fresh and only calls end that are counted.

## Main definitions

* `Traffic.owed`: the transactions bound to a connection and the reservations on it.
* `Traffic.Allows`: an act that brings no id back and ends no call that is not there.
-/

namespace CallDispatch

open Text

/-- How many transactions are bound to a connection. -/
def Dispatcher.mapped (dispatcher : Dispatcher) (id : EntryId) : Nat :=
  dispatcher.calls.countP (·.2 == id)

/-- Whether a dispatch has a call reserved on a connection. -/
def Stage.holds (id : EntryId) : Stage → Bool
  | waiting attempt => attempt.reservation.handle.id == id
  | _ => false

lemma Stage.toNat_holds_waiting (id : EntryId) (attempt : Attempt) :
    ((waiting attempt).holds id).toNat = if attempt.reservation.handle.id = id then 1 else 0 := by
  simp [holds, Bool.toNat, Bool.cond_eq_ite]

/-- A dispatch that can go on by itself has no call reserved. -/
lemma Stage.holds_of_isPending {stage : Stage} (h : stage.isPending = true) (id : EntryId) :
    stage.holds id = false := by
  cases stage with
  | waiting => cases h
  | _ => rfl

namespace Traffic

/-- How many reservations on a connection are not settled. -/
def unsettled (traffic : Traffic) (id : EntryId) : Nat :=
  traffic.held.countP (·.handle.id == id) + traffic.flights.countP (·.stage.holds id)

/-- How many calls a connection should have. -/
def owed (traffic : Traffic) (id : EntryId) : Nat :=
  traffic.dispatcher.mapped id + traffic.unsettled id

/-- An act that registers no id a second time, and ends or keeps only calls that the dispatcher
knows about. -/
def Allows (traffic : Traffic) : Act → Prop
  | .operate (.add entry) => entry.handle.id ∉ traffic.known
  | .operate (.commit _) | .operate (.release _) => False
  | _ => True

/-- A sequence of such acts. -/
def AllowsAll : Traffic → List Act → Prop
  | _, [] => True
  | traffic, act :: rest => traffic.Allows act ∧ AllowsAll (traffic.perform act) rest

end Traffic

/-! ## Calls of the dispatcher -/

section Calls

variable {calls : List (String × EntryId)} {transactionId : String}

/-- Forgetting a transaction that is not bound changes nothing. -/
lemma filter_of_lookup_eq_none (h : calls.lookup transactionId = none) :
    calls.filter (·.1 ≠ transactionId) = calls := by
  rw [List.lookup_eq_none_iff] at h
  refine List.filter_eq_self.2 fun call hcall => ?_
  have hne : transactionId ≠ call.1 := by simpa using h call hcall
  simpa using hne.symm

/-- Forgetting a transaction takes a call off the connection to which it was bound. -/
lemma countP_of_lookup_eq_some (hnodup : (calls.map Prod.fst).Nodup) {previous : EntryId}
    (h : calls.lookup transactionId = some previous) (id : EntryId) :
    calls.countP (·.2 == id) =
      (calls.filter (·.1 ≠ transactionId)).countP (·.2 == id) + if previous = id then 1 else 0 := by
  induction calls with
  | nil => cases h
  | cons call rest ih =>
    obtain ⟨hnew, hrest⟩ := List.nodup_cons.1 hnodup
    by_cases hsame : call.1 = transactionId
    · -- the transaction is bound once, so nothing else is forgotten
      have hkeep : rest.filter (·.1 ≠ transactionId) = rest := by
        refine List.filter_eq_self.2 fun other hother => ?_
        have hne : other.1 ≠ transactionId := fun heq =>
          hnew (hsame ▸ heq ▸ List.mem_map_of_mem hother)
        simpa using hne
      have hprevious : call.2 = previous := by
        rw [List.lookup, beq_iff_eq.2 hsame.symm] at h
        exact Option.some.inj h
      rw [List.filter_cons_of_neg (by simpa using hsame), hkeep, List.countP_cons, hprevious]
      simp
    · have hlookup : rest.lookup transactionId = some previous := by
        rw [List.lookup, beq_eq_false_iff_ne.2 (Ne.symm hsame)] at h
        exact h
      rw [List.filter_cons_of_pos (by simpa using hsame), List.countP_cons, List.countP_cons,
        ih hrest hlookup]
      omega

/-- The transactions stay distinct when one is bound anew. -/
lemma nodup_bind (hnodup : (calls.map Prod.fst).Nodup) (transactionId : String) (id : EntryId) :
    (((transactionId, id) :: calls.filter (·.1 ≠ transactionId)).map Prod.fst).Nodup := by
  refine List.nodup_cons.2 ⟨?_, hnodup.sublist (List.filter_sublist.map Prod.fst)⟩
  simp

end Calls

/-! ## Moves of a flight -/

namespace Flight.Moves

open Registry

variable {flight flight' : Flight} {dispatcher dispatcher' : Dispatcher} {op : Option Op}

/-- The transactions stay distinct. -/
lemma nodup_transactions (h : flight.Moves dispatcher op dispatcher' flight')
    (hnodup : (dispatcher.calls.map Prod.fst).Nodup) :
    (dispatcher'.calls.map Prod.fst).Nodup := by
  cases h with
  | accept attempt hstage =>
    have hbind := nodup_bind hnodup attempt.request.transactionId attempt.reservation.handle.id
    unfold Dispatcher.bind
    cases dispatcher.callOf attempt.request.transactionId <;> exact hbind
  | _ => exact hnodup

/-- A dispatch registers nothing. -/
lemma added_eq_none (h : flight.Moves dispatcher op dispatcher' flight') (registry : Registry) :
    op.bind registry.added? = none := by
  cases h with
  | accept attempt hstage => cases dispatcher.callOf attempt.request.transactionId <;> rfl
  | _ => rfl

/-- Binding a transaction counts a call for its connection, and the one that it was bound to before
loses the call. -/
lemma mapped_bind_add_ends (hnodup : (dispatcher.calls.map Prod.fst).Nodup) (transactionId : String)
    (bound id : EntryId) :
    (dispatcher.bind transactionId bound).mapped id +
        ends ((dispatcher.callOf transactionId).map .release) id =
      dispatcher.mapped id + if bound = id then 1 else 0 := by
  have hbound : ((transactionId, bound) ::
      dispatcher.calls.filter (·.1 ≠ transactionId)).countP (·.2 == id) =
      (dispatcher.calls.filter (·.1 ≠ transactionId)).countP (·.2 == id) +
        if bound = id then 1 else 0 := by
    simp [List.countP_cons]
  cases hcall : dispatcher.callOf transactionId with
  | none =>
    simp only [Dispatcher.bind, Dispatcher.mapped, hcall, hbound]
    rw [filter_of_lookup_eq_none hcall]
    rfl
  | some previous =>
    simp only [Dispatcher.bind, Dispatcher.mapped, hcall, hbound, Option.map_some]
    rw [countP_of_lookup_eq_some hnodup hcall, ends_of_released rfl]
    omega

/-- The calls owed to a connection by the dispatcher and by the dispatch rise by the call reserved
and fall by the one that ends. -/
lemma mapped_add_holds (h : flight.Moves dispatcher op dispatcher' flight')
    (hnodup : (dispatcher.calls.map Prod.fst).Nodup) (id : EntryId) :
    dispatcher'.mapped id + (flight'.stage.holds id).toNat + ends op id =
      dispatcher.mapped id + (flight.stage.holds id).toNat +
        dispatcher.registry.reserves op id := by
  cases h with
  | stay => rfl
  | refuse error hstage =>
    have hholds : flight.stage.holds id = false := by
      rcases hstage with hstage | ⟨selector, hstage⟩ <;> rw [hstage] <;> rfl
    rw [hholds]
    rfl
  | enter _ hstage | locate _ _ hstage | look _ _ hstage | exhaust _ _ hstage =>
    rw [hstage]
    rfl
  | miss selector tries failed hstage hreserve =>
    have hreserved : dispatcher.registry.reserved?
        (.reserve selector (some flight.request.method) failed) = none := hreserve
    rw [reserves_of_eq_none hreserved, hstage]
    rfl
  | vanish uri target hstage hreserve =>
    have hreserved : dispatcher.registry.reserved? (.reserveEntry target) = none := hreserve
    rw [reserves_of_eq_none hreserved, hstage]
    rfl
  | choose selector tries failed reservation hstage hreserve =>
    have hreserved : dispatcher.registry.reserved?
        (.reserve selector (some flight.request.method) failed) = some reservation := hreserve
    rw [reserves_of_eq_some hreserved, hstage, Stage.toNat_holds_waiting]
    rfl
  | reach uri target reservation hstage hreserve =>
    have hreserved : dispatcher.registry.reserved? (.reserveEntry target) = some reservation :=
      hreserve
    rw [reserves_of_eq_some hreserved, hstage, Stage.toNat_holds_waiting]
    rfl
  | accept attempt hstage =>
    -- the call moves from the dispatch to the dispatcher
    have hbind := mapped_bind_add_ends hnodup attempt.request.transactionId
      attempt.reservation.handle.id id
    have hreserves : dispatcher.registry.reserves
        ((dispatcher.callOf attempt.request.transactionId).map .release) id = 0 := by
      cases dispatcher.callOf attempt.request.transactionId <;> rfl
    rw [hstage, Stage.toNat_holds_waiting, hreserves]
    exact hbind
  | oversize attempt length hstage =>
    rw [reserves_of_released rfl, ends_of_released rfl, hstage, Stage.toNat_holds_waiting]
    rfl
  | retry now attempt selector tries failed hstage hroute =>
    rw [reserves_of_released rfl, ends_of_released rfl, hstage, Stage.toNat_holds_waiting]
    rfl
  | lose now attempt uri hstage hroute =>
    rw [reserves_of_released rfl, ends_of_released rfl, hstage, Stage.toNat_holds_waiting]
    rfl
  | giveUp attempt hstage =>
    rw [reserves_of_released rfl, ends_of_released rfl, hstage, Stage.toNat_holds_waiting]
    rfl
  | giveUpPending hpending =>
    rw [Stage.holds_of_isPending hpending]
    rfl

end Flight.Moves

/-! ## Acts -/

namespace Traffic

open Registry

variable {traffic : Traffic} {act : Act}

/-- Replacing a flight takes it out of a count and puts the new one in. -/
lemma countP_set_add {flights : List Flight} {index : Nat} {flight : Flight}
    (h : flights[index]? = some flight) (next : Flight) (p : Flight → Bool) :
    (flights.set index next).countP p + (p flight).toNat =
      flights.countP p + (p next).toNat := by
  obtain ⟨hindex, rfl⟩ := List.getElem?_eq_some_iff.1 h
  have hle : (if p flights[index] then 1 else 0) ≤ flights.countP p :=
    List.boole_getElem_le_countP hindex
  rw [List.countP_set hindex, Bool.toNat, Bool.toNat, Bool.cond_eq_ite, Bool.cond_eq_ite]
  omega

/-- Settling a reservation takes it out of those that are held. -/
lemma countP_erase_add {held : List Reservation} {reservation : Reservation}
    (h : reservation ∈ held) (id : EntryId) :
    (held.erase reservation).countP (·.handle.id == id) +
        (if reservation.handle.id = id then 1 else 0) =
      held.countP (·.handle.id == id) := by
  rw [(List.perm_cons_erase h).countP_eq, List.countP_cons]
  simp

/-- Looking who became eligible moves no call. -/
lemma owed_perform (traffic : Traffic) (act : Act) (id : EntryId) :
    (traffic.perform act).owed id = (traffic.proceed act).owed id := by
  have hflights : (traffic.perform act).flights.countP (·.stage.holds id) =
      (traffic.proceed act).flights.countP (·.stage.holds id) := by
    rw [perform, List.countP_map]
    rfl
  rw [owed, owed, unsettled, unsettled, hflights]
  rfl

/-- An operation from outside moves calls only into the reservations held and out of them. -/
lemma owed_operate {op : Op} (hallows : traffic.Allows (.operate op)) (id : EntryId) :
    (traffic.operate op).owed id + ends (traffic.op? (.operate op)) id =
      traffic.owed id + traffic.registry.reserves (traffic.op? (.operate op)) id := by
  have hsettles : ∀ reservation, op.settled? = some reservation →
      op.released? = some reservation.handle.id →
      (traffic.operate op).owed id + ends (traffic.op? (.operate op)) id =
        traffic.owed id + traffic.registry.reserves (traffic.op? (.operate op)) id := by
    intro reservation hsettled hreleased
    simp only [operate, op?, hsettled]
    split
    · next hheld =>
      rw [ends_of_released hreleased, reserves_of_released hreleased]
      have herase := countP_erase_add hheld id
      simp only [owed, unsettled, Dispatcher.operate, Dispatcher.mapped]
      omega
    · rfl
  have hmakes : op.settled? = none → op.released? = none →
      (traffic.operate op).owed id + ends (traffic.op? (.operate op)) id =
        traffic.owed id + traffic.registry.reserves (traffic.op? (.operate op)) id := by
    intro hsettled hreleased
    have hends : ends (some op) id = 0 := by simp [ends, hreleased]
    simp only [operate, op?, hsettled, hends]
    cases hreserved : traffic.registry.reserved? op with
    | none =>
      rw [reserves_of_eq_none hreserved]
      rfl
    | some reservation =>
      rw [reserves_of_eq_some hreserved]
      simp only [owed, unsettled, Dispatcher.operate, Dispatcher.mapped, Option.toList_some,
        List.singleton_append, List.countP_cons, beq_iff_eq]
      omega
  -- what settles a reservation takes it out, and of the rest only a reservation puts one in
  cases op with
  | commit | release => cases hallows
  | rollBack reservation => exact hsettles reservation rfl rfl
  | abandonDead now reservation => exact hsettles reservation rfl rfl
  | _ => exact hmakes rfl rfl

/-- Every act but a purge moves calls in step with the registry: what is owed to a connection rises
by the call reserved on it and falls by the one that ends. -/
lemma owed_proceed (hnodup : (traffic.dispatcher.calls.map Prod.fst).Nodup)
    (hallows : traffic.Allows act) (hact : act ≠ .purge) (id : EntryId) :
    (traffic.proceed act).owed id + ends (traffic.op? act) id =
      traffic.owed id + traffic.registry.reserves (traffic.op? act) id := by
  cases act with
  | operate op => exact owed_operate hallows id
  | start request outcome =>
    have hnew : [Flight.mk request outcome .arrived [] [] [] false].countP (·.stage.holds id) =
        0 := rfl
    simp only [proceed, op?, owed, unsettled, List.countP_append, hnew]
    rfl
  | flight index event =>
    simp only [proceed, op?]
    cases hflight : traffic.flights[index]? with
    | none => rfl
    | some flight =>
      have hmoves := (flight.moves_after traffic.dispatcher event).mapped_add_holds hnodup id
      have hset := countP_set_add hflight (flight.after traffic.dispatcher event).2
        (·.stage.holds id)
      simp only [Option.bind_some, owed, unsettled, registry]
      omega
  | callEnded transactionId =>
    simp only [proceed, op?, Dispatcher.callEnded]
    cases hcall : traffic.dispatcher.callOf transactionId with
    | none => rfl
    | some ended =>
      have hcalls := countP_of_lookup_eq_some hnodup hcall id
      rw [Option.map_some, ends_of_released rfl, reserves_of_released rfl]
      simp only [owed, unsettled, Dispatcher.mapped]
      omega
  | peerDisconnected now id => rfl
  | purge => exact absurd rfl hact

/-- A purge forgets the calls of connections that are not registered, and no others. -/
lemma owed_purge (traffic : Traffic) (id : EntryId) :
    (traffic.proceed .purge).owed id =
      if traffic.registry.contains id then traffic.owed id else traffic.unsettled id := by
  have hmapped : (traffic.dispatcher.calls.filter (traffic.registry.contains ·.2)).countP
      (·.2 == id) = if traffic.registry.contains id then traffic.dispatcher.mapped id else 0 := by
    rw [List.countP_filter]
    split
    · next hregistered =>
      refine List.countP_congr fun call _ => ?_
      simp only [Bool.and_eq_true, beq_iff_eq, and_iff_left_iff_imp]
      rintro rfl
      exact hregistered
    · next hgone =>
      refine List.countP_eq_zero.2 fun call _ => ?_
      simp only [Bool.and_eq_true, beq_iff_eq, not_and]
      rintro rfl
      exact hgone
  have howed : (traffic.proceed .purge).owed id =
      (traffic.dispatcher.calls.filter (traffic.registry.contains ·.2)).countP (·.2 == id) +
        traffic.unsettled id := rfl
  rw [howed, hmapped]
  split
  · rfl
  · exact Nat.zero_add _

/-! ## The invariant -/

/-- The counts of the registry are those of the calls under way. -/
structure Accounted (traffic : Traffic) : Prop where
  consistent : traffic.registry.Consistent
  /-- A transaction is bound to one connection. -/
  nodup_transactions : (traffic.dispatcher.calls.map Prod.fst).Nodup
  balanced : traffic.registry.Balanced traffic.known traffic.owed

lemma accounted_empty : ({} : Traffic).Accounted where
  consistent := consistent_empty
  nodup_transactions := List.nodup_nil
  balanced := ⟨by simp [registry], by simp [registry], by simp [owed, unsettled, Dispatcher.mapped]⟩

/-- The transactions stay distinct. -/
lemma nodup_transactions_proceed (hnodup : (traffic.dispatcher.calls.map Prod.fst).Nodup)
    (act : Act) : ((traffic.proceed act).dispatcher.calls.map Prod.fst).Nodup := by
  cases act with
  | operate op =>
    simp only [proceed, operate]
    split
    · split <;> exact hnodup
    · exact hnodup
  | start request outcome => exact hnodup
  | flight index event =>
    simp only [proceed]
    cases traffic.flights[index]? with
    | none => exact hnodup
    | some flight => exact (flight.moves_after traffic.dispatcher event).nodup_transactions hnodup
  | callEnded transactionId =>
    simp only [proceed, Dispatcher.callEnded]
    cases traffic.dispatcher.callOf transactionId with
    | none => exact hnodup
    | some ended => exact hnodup.sublist (List.filter_sublist.map Prod.fst)
  | peerDisconnected now id => exact hnodup
  | purge => exact hnodup.sublist (List.filter_sublist.map Prod.fst)

/-- The ids known are those known before and the one that is registered. -/
lemma known_proceed (traffic : Traffic) (act : Act) :
    (traffic.proceed act).known =
      ((traffic.op? act).bind traffic.registry.added?).toList ++ traffic.known := by
  cases act with
  | operate op =>
    simp only [proceed, operate, op?]
    cases hsettled : op.settled? with
    | none => rfl
    | some reservation =>
      have hadds : traffic.registry.added? op = none := by
        cases op with
        | commit | rollBack | abandonDead => rfl
        | _ => cases hsettled
      dsimp only
      split <;> simp [hadds]
  | flight index event =>
    simp only [proceed, op?]
    cases traffic.flights[index]? with
    | none => rfl
    | some flight =>
      have hadds := (flight.moves_after traffic.dispatcher event).added_eq_none traffic.registry
      simp [hadds]
  | callEnded transactionId =>
    simp only [proceed, op?]
    cases traffic.dispatcher.callOf transactionId <;> rfl
  | start | peerDisconnected | purge => rfl

/-- An id that is registered by an act that is allowed is new. -/
lemma fresh_of_allows (hallows : traffic.Allows act) {id : EntryId}
    (hadded : (traffic.op? act).bind traffic.registry.added? = some id) : id ∉ traffic.known := by
  obtain ⟨op, hop, hadds⟩ := Option.bind_eq_some_iff.1 hadded
  obtain ⟨entry, rfl, rfl⟩ := eq_add_of_added hadds
  cases act with
  | operate op =>
    simp only [op?] at hop
    split at hop
    · split at hop
      · cases hop
        exact hallows
      · cases hop
    · cases hop
      exact hallows
  | flight index event =>
    obtain ⟨flight, -, hmade⟩ := Option.bind_eq_some_iff.1 hop
    have hmoves := flight.moves_after traffic.dispatcher event
    rw [hmade] at hmoves
    exact absurd (hmoves.added_eq_none traffic.registry) (by simp [hadds])
  | callEnded transactionId =>
    simp [op?] at hop
  | _ => cases hop

/-- The invariant is kept by every act that is allowed. -/
lemma Accounted.perform (h : traffic.Accounted) (hallows : traffic.Allows act) :
    (traffic.perform act).Accounted := by
  refine ⟨consistent_perform h.consistent act,
    nodup_transactions_proceed h.nodup_transactions act, ?_⟩
  rw [registry_perform, known_perform, known_proceed]
  have howed : ∀ id, (traffic.perform act).owed id + ends (traffic.op? act) id =
      traffic.owed id + traffic.registry.reserves (traffic.op? act) id ∨
      act = .purge ∧ (traffic.perform act).owed id =
        if traffic.registry.contains id then traffic.owed id else traffic.unsettled id := by
    intro id
    rw [owed_perform]
    by_cases hact : act = .purge
    · exact Or.inr ⟨hact, hact ▸ owed_purge traffic id⟩
    · exact Or.inl (owed_proceed h.nodup_transactions hallows hact id)
  -- a purge forgets only what is owed to connections that are gone
  refine h.balanced.after h.consistent _ (fun id => fresh_of_allows hallows)
    (fun slot hslot => ?_) fun id => ?_
  · rcases howed slot.id with howed | ⟨rfl, howed⟩
    · exact howed
    · rw [howed, if_pos (contains_iff.2 ⟨slot, hslot, rfl⟩)]
      rfl
  · rcases howed id with howed | ⟨rfl, howed⟩
    · exact Nat.le.intro howed
    · rw [howed]
      split
      · exact Nat.le_add_right _ _
      · exact Nat.le_trans (Nat.le_add_left _ _) (Nat.le_add_right _ _)

/-- The invariant holds after every run of acts that are allowed. -/
lemma Accounted.run {acts : List Act} (h : traffic.Accounted) (hallows : traffic.AllowsAll acts) :
    (traffic.run acts).Accounted := by
  induction acts generalizing traffic with
  | nil => exact h
  | cons act rest ih => exact ih (h.perform hallows.1) hallows.2

/-! ## Sums of calls -/

/-- Of ids that are distinct, at most one is the one looked for. -/
lemma sum_indicator {ids : List EntryId} (hids : ids.Nodup) (id : EntryId) :
    (ids.map fun other => if id = other then 1 else 0).sum = if id ∈ ids then 1 else 0 := by
  induction ids with
  | nil => simp
  | cons other rest ih =>
    obtain ⟨hnew, hrest⟩ := List.nodup_cons.1 hids
    rw [List.map_cons, List.sum_cons, ih hrest]
    by_cases hsame : id = other
    · rw [hsame, if_pos rfl, if_neg hnew, if_pos List.mem_cons_self]
    · simp [hsame]

/-- Counting the items of each id counts all items that have one of the ids. -/
lemma sum_countP {α : Type} (idOf : α → EntryId) {ids : List EntryId} (hids : ids.Nodup)
    (items : List α) :
    (ids.map fun id => items.countP (idOf · == id)).sum =
      items.countP (fun item => decide (idOf item ∈ ids)) := by
  induction items with
  | nil => simp
  | cons item rest ih =>
    simp only [List.countP_cons, List.sum_map_add, ih, beq_iff_eq, sum_indicator hids,
      decide_eq_true_eq]

/-- While no dispatch waits for a link, the registry counts the transactions that are bound to
registered connections and the reservations held on them. -/
lemma Accounted.activeCalls_eq (h : traffic.Accounted)
    (hidle : ∀ flight ∈ traffic.flights, ∀ attempt, flight.stage ≠ .waiting attempt) :
    traffic.registry.stats.activeCalls =
      traffic.dispatcher.calls.countP (traffic.registry.contains ·.2) +
        traffic.held.countP (traffic.registry.contains ·.handle.id) := by
  have hflights : ∀ id, traffic.flights.countP (·.stage.holds id) = 0 := by
    refine fun id => List.countP_eq_zero.2 fun flight hflight => ?_
    cases hstage : flight.stage with
    | waiting attempt => exact absurd hstage (hidle flight hflight attempt)
    | _ => simp [Stage.holds]
  have hcontains : ∀ id, decide (id ∈ traffic.registry.slots.map Slot.id) =
      traffic.registry.contains id := by
    intro id
    rw [Bool.eq_iff_iff, decide_eq_true_eq, List.mem_map, contains_iff]
  have hcalls : traffic.registry.slots.map Slot.calls =
      (traffic.registry.slots.map Slot.id).map fun id =>
        traffic.dispatcher.calls.countP (·.2 == id) + traffic.held.countP (·.handle.id == id) := by
    rw [List.map_map]
    refine List.map_congr_left fun slot hslot => ?_
    rw [h.balanced.calls_eq slot hslot, owed, unsettled, hflights]
    rfl
  -- each transaction and each reservation is counted at one connection
  have hids := h.consistent.ascending.nodup_ids
  have hsum : traffic.registry.stats.activeCalls = (traffic.registry.slots.map Slot.calls).sum := by
    rw [List.sum_eq_foldl, List.foldl_map]
    rfl
  rw [hsum, hcalls, List.sum_map_add, sum_countP _ hids, sum_countP _ hids]
  simp only [hcontains]

/-! ## The main result -/

/-- **Exact accounting.** In every state that is reached while registered ids are new, each
connection has exactly as many calls as there are transactions bound to it and unsettled
reservations on it. Every act makes one operation of the registry at most, and a call that it ends
is there to be ended. After a purge, while no dispatch waits for a link, the registry counts as many
calls as the dispatcher, besides those reserved from outside. -/
theorem calls_exact {acts : List Act} (hallows : ({} : Traffic).AllowsAll acts) {traffic : Traffic}
    (htraffic : traffic = ({} : Traffic).run acts) :
    (traffic.dispatcher.calls.map Prod.fst).Nodup ∧
      (∀ slot ∈ traffic.registry.slots,
        slot.calls = traffic.dispatcher.mapped slot.id + traffic.unsettled slot.id) ∧
      (∀ act, traffic.Allows act →
        (traffic.perform act).registry = traffic.registry.afterAny (traffic.op? act) ∧
        ∀ op, traffic.op? act = some op → ∀ slot ∈ traffic.registry.slots,
          op.released? = some slot.id → 0 < slot.calls) ∧
      ((∀ flight ∈ traffic.flights, ∀ attempt, flight.stage ≠ .waiting attempt) →
        let purged := traffic.perform .purge
        purged.registry.stats.activeCalls = purged.dispatcher.activeCalls +
            purged.held.countP (purged.registry.contains ·.handle.id) ∧
          (purged.held = [] →
            purged.registry.stats.activeCalls = purged.dispatcher.activeCalls)) := by
  have h : traffic.Accounted := htraffic ▸ accounted_empty.run hallows
  refine ⟨h.nodup_transactions, h.balanced.calls_eq, fun act hact => ⟨registry_perform traffic act,
    fun op hop slot hslot hreleased => ?_⟩, fun hidle => ?_⟩
  · have hpurge : act ≠ .purge := by
      rintro rfl
      cases hop
    have howed := owed_proceed h.nodup_transactions hact hpurge slot.id
    rw [hop] at howed
    exact h.balanced.calls_pos hslot hreleased howed
  · have hpurged : (traffic.perform .purge).Accounted := h.perform trivial
    have hsum := hpurged.activeCalls_eq fun flight hflight attempt => by
      obtain ⟨old, hold, rfl⟩ := List.mem_map.1 hflight
      exact hidle old hold attempt
    -- all calls that are left are those of registered connections
    have hcalls : (traffic.perform .purge).dispatcher.calls.countP
        ((traffic.perform .purge).registry.contains ·.2) =
          (traffic.perform .purge).dispatcher.activeCalls := by
      refine List.countP_eq_length.2 fun call hcall => ?_
      exact (List.mem_filter.1 hcall).2
    rw [hcalls] at hsum
    refine ⟨hsum, fun hheld => ?_⟩
    rw [hsum, hheld]
    rfl

/-- An application is dialed and gets a request, whose call ends while another one is reserved. -/
def oneCall : List Act :=
  [.operate (.add ⟨⟨1, .outbound, .plain, .empty, some "sip:app", none, 1⟩, .connecting⟩),
    .start { transactionId := "t", method := "INVITE", uri := "sip:callee" }
      (.routeByUri "sip:app"),
    .flight 0 .step,
    .flight 0 .step,
    .operate (.reserveEntry 1),
    .flight 0 (.answer 0 (.ok ())),
    .callEnded "t"]

theorem calls_exact_of_oneCall :
    let traffic := ({} : Traffic).run oneCall
    ({} : Traffic).AllowsAll oneCall ∧
      traffic.registry.slots.map Slot.calls = [1] ∧
      ∀ slot ∈ traffic.registry.slots,
        slot.calls = traffic.dispatcher.mapped slot.id + traffic.unsettled slot.id := by
  have hallows : ({} : Traffic).AllowsAll oneCall :=
    ⟨List.not_mem_nil, trivial, trivial, trivial, trivial, trivial, trivial, trivial⟩
  exact ⟨hallows, by decide, (calls_exact hallows rfl).2.1⟩

end Traffic

end CallDispatch
