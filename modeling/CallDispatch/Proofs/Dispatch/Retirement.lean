import CallDispatch.Proofs.Dispatch.Accounting
import CallDispatch.Proofs.Registry.Phases

/-!
# Retirement

A connection that drains or is closed never comes back, whatever the registry and the dispatches do,
as long as its id is not given to another connection. From one state to a later one it only goes on
in its life (`Traffic.Outlives`), which is shown act by act; and while it is not active, nothing
that looks for connections comes upon it, so no call is reserved on it and those it has can only
end. Reservations and recorded calls may outlive the connection; to settle or end them has then no
effect.

## Main definitions

* `Traffic.Fresh`, `Traffic.FreshAll`: acts that register no id a second time.
* `Traffic.Outlives`: what holds of a connection between one state and a later one.
* `Traffic.Forgotten`: what is left of a closed connection has no effect on the registry.
-/

namespace CallDispatch

open Registry

/-- A dispatch has a call reserved on a connection afterwards only if it had one before, or reserved
it now. -/
lemma Flight.Moves.holds_le {flight flight' : Flight} {dispatcher dispatcher' : Dispatcher}
    {op : Option Op} (h : flight.Moves dispatcher op dispatcher' flight') (id : EntryId) :
    (flight'.stage.holds id).toNat ≤
      (flight.stage.holds id).toNat + dispatcher.registry.reserves op id := by
  cases h with
  | stay => exact Nat.le_add_right _ _
  | choose selector tries failed reservation hstage hreserve =>
    have hreserved : dispatcher.registry.reserved?
        (.reserve selector (some flight.request.method) failed) = some reservation := hreserve
    rw [reserves_of_eq_some hreserved, Stage.toNat_holds_waiting]
    exact Nat.le_add_left _ _
  | reach uri target reservation hstage hreserve =>
    have hreserved : dispatcher.registry.reserved? (.reserveEntry target) = some reservation :=
      hreserve
    rw [reserves_of_eq_some hreserved, Stage.toNat_holds_waiting]
    exact Nat.le_add_left _ _
  | _ => exact Nat.zero_le _

namespace Traffic

/-- An act that registers no id a second time. -/
def Fresh (traffic : Traffic) : Act → Prop
  | .operate (.add entry) => entry.handle.id ∉ traffic.known
  | _ => True

/-- A sequence of such acts. -/
def FreshAll : Traffic → List Act → Prop
  | _, [] => True
  | traffic, act :: rest => traffic.Fresh act ∧ FreshAll (traffic.perform act) rest

/-- All connections of the registry are known, and the registry is consistent. -/
structure Recorded (traffic : Traffic) : Prop where
  consistent : traffic.registry.Consistent
  known_of_mem : ∀ slot ∈ traffic.registry.slots, slot.id ∈ traffic.known

/-- A connection has only gone on in its life, and no call has been reserved on it since it was
not active. -/
structure Outlives (earlier later : Traffic) (id : EntryId) : Prop where
  known : id ∈ later.known
  rank_le : (earlier.registry.phase id).rank ≤ (later.registry.phase id).rank
  calls_le : earlier.registry.phase id ≠ .active →
    later.registry.callsOf id ≤ earlier.registry.callsOf id
  unsettled_le : earlier.registry.phase id ≠ .active → later.unsettled id ≤ earlier.unsettled id

/-- Settling a reservation on a connection, or ending one of its calls, changes nothing about the
registry, whether it is done by an operation, by an act or as the end of a transaction. -/
structure Forgotten (traffic : Traffic) (id : EntryId) : Prop where
  operation : ∀ op : Op, op.SettlesOn id → traffic.registry.after op = traffic.registry
  act : ∀ act op, traffic.op? act = some op → op.SettlesOn id →
    (traffic.perform act).registry = traffic.registry
  transaction : ∀ transactionId, traffic.dispatcher.callOf transactionId = some id →
    (traffic.dispatcher.callEnded transactionId).1.registry = traffic.registry

variable {traffic : Traffic} {act : Act} {id : EntryId}

/-! ## What is known -/

/-- An id that is registered by a fresh act is new. -/
lemma Fresh.not_known (h : traffic.Fresh act)
    (hadded : (traffic.op? act).bind traffic.registry.added? = some id) : id ∉ traffic.known := by
  refine fresh_of_allows ?_ hadded
  -- acts that the accounts do not allow for another reason register nothing
  unfold Allows
  split
  · exact h
  · simp only [op?, Op.settled?] at hadded
    split at hadded <;> cases hadded
  · cases hadded
  · trivial

lemma recorded_empty : ({} : Traffic).Recorded where
  consistent := consistent_empty
  known_of_mem := by simp [registry]

/-- What was known stays known. -/
lemma known_subset_perform (traffic : Traffic) (act : Act) :
    traffic.known ⊆ (traffic.perform act).known := by
  rw [known_perform, known_proceed]
  exact List.subset_append_right _ _

/-- All connections of the registry are known after every act. -/
lemma Recorded.perform (h : traffic.Recorded) (act : Act) : (traffic.perform act).Recorded := by
  refine ⟨consistent_perform h.consistent act, fun slot' hslot' => ?_⟩
  rw [registry_perform] at hslot'
  have hold : ∀ slot ∈ traffic.registry.slots, slot.id ∈ (traffic.perform act).known :=
    fun slot hslot => known_subset_perform traffic act (h.known_of_mem slot hslot)
  cases hop : traffic.op? act with
  | none =>
    rw [hop] at hslot'
    exact hold slot' hslot'
  | some op =>
    rw [hop] at hslot'
    by_cases hadded : traffic.registry.added? op = some slot'.id
    · rw [known_perform, known_proceed, hop, Option.bind_some, hadded]
      exact List.mem_append_left _ (List.mem_singleton_self _)
    · obtain ⟨slot, hslot, hhandle⟩ := exists_same_handle h.consistent hslot' hadded
      have hid : slot.id = slot'.id := congrArg Handle.id hhandle
      rw [← hid]
      exact hold slot hslot

/-- All connections of the registry are known after every run. -/
lemma Recorded.run (h : traffic.Recorded) (acts : List Act) : (traffic.run acts).Recorded := by
  induction acts generalizing traffic with
  | nil => exact h
  | cons act rest ih => exact ih (h.perform act)

/-! ## Reservations that are not settled -/

/-- An operation from outside adds no more to the unsettled reservations on a connection than it
reserves. -/
lemma unsettled_operate_le (traffic : Traffic) (op : Op) (id : EntryId) :
    (traffic.operate op).unsettled id ≤
      traffic.unsettled id + traffic.registry.reserves (traffic.op? (.operate op)) id := by
  cases hsettled : op.settled? with
  | some reservation =>
    refine Nat.le_trans ?_ (Nat.le_add_right _ _)
    simp only [operate, hsettled]
    split
    · next hheld =>
      have herase := countP_erase_add hheld id
      simp only [unsettled]
      omega
    · exact Nat.le_refl _
  | none =>
    simp only [operate, op?, hsettled]
    cases hreserved : traffic.registry.reserved? op with
    | none =>
      rw [reserves_of_eq_none hreserved]
      exact Nat.le_refl _
    | some reservation =>
      rw [reserves_of_eq_some hreserved]
      simp only [unsettled, Option.toList_some, List.singleton_append, List.countP_cons,
        beq_iff_eq]
      omega

/-- An act adds no more to the unsettled reservations on a connection than it reserves. -/
lemma unsettled_perform_le (traffic : Traffic) (act : Act) (id : EntryId) :
    (traffic.perform act).unsettled id ≤
      traffic.unsettled id + traffic.registry.reserves (traffic.op? act) id := by
  have hwatched : (traffic.perform act).unsettled id = (traffic.proceed act).unsettled id := by
    rw [unsettled, unsettled, perform, List.countP_map]
    rfl
  rw [hwatched]
  cases act with
  | operate op => exact unsettled_operate_le traffic op id
  | start request outcome =>
    have hnew : [Flight.mk request outcome .arrived [] [] [] false].countP (·.stage.holds id) =
        0 := rfl
    simp only [proceed, unsettled, List.countP_append, hnew]
    exact Nat.le_add_right _ _
  | flight index event =>
    simp only [proceed, op?]
    cases hflight : traffic.flights[index]? with
    | none => exact Nat.le_add_right _ _
    | some flight =>
      have hholds := (flight.moves_after traffic.dispatcher event).holds_le id
      have hset := countP_set_add hflight (flight.after traffic.dispatcher event).2
        (·.stage.holds id)
      simp only [Option.bind_some, unsettled, registry]
      omega
  | callEnded | peerDisconnected | purge => exact Nat.le_add_right _ _

/-! ## One act and many -/

lemma Outlives.refl (hknown : id ∈ traffic.known) : Outlives traffic traffic id :=
  ⟨hknown, Nat.le_refl _, fun _ => Nat.le_refl _, fun _ => Nat.le_refl _⟩

/-- A connection that is not active any more is not active later. -/
lemma Outlives.ne_active {earlier later : Traffic} (h : Outlives earlier later id)
    (hconsistent : earlier.registry.Consistent) (hphase : earlier.registry.phase id ≠ .active) :
    later.registry.phase id ≠ .active := by
  intro hactive
  have hlt : EntryState.active.rank < (later.registry.phase id).rank :=
    Nat.lt_of_lt_of_le (hconsistent.rank_active_lt hphase) h.rank_le
  rw [hactive] at hlt
  exact Nat.lt_irrefl _ hlt

lemma Outlives.trans {first second third : Traffic} (h : Outlives first second id)
    (hconsistent : first.registry.Consistent) (h' : Outlives second third id) :
    Outlives first third id where
  known := h'.known
  rank_le := Nat.le_trans h.rank_le h'.rank_le
  calls_le hphase :=
    Nat.le_trans (h'.calls_le (h.ne_active hconsistent hphase)) (h.calls_le hphase)
  unsettled_le hphase :=
    Nat.le_trans (h'.unsettled_le (h.ne_active hconsistent hphase)) (h.unsettled_le hphase)

/-- Every act takes a connection on in its life, or leaves it where it is. -/
lemma outlives_perform (h : traffic.Recorded) (hfresh : traffic.Fresh act)
    (hknown : id ∈ traffic.known) : Outlives traffic (traffic.perform act) id := by
  have hadded : ∀ op, traffic.op? act = some op → traffic.registry.added? op ≠ some id := by
    intro op hop hadds
    refine hfresh.not_known ?_ hknown
    rw [hop]
    exact hadds
  refine ⟨known_subset_perform traffic act hknown, ?_, fun hphase => ?_, fun hphase => ?_⟩
  · rw [registry_perform]
    cases hop : traffic.op? act with
    | none => exact Nat.le_refl _
    | some op => exact rank_phase_le_after h.consistent (hadded op hop)
  · rw [registry_perform]
    cases hop : traffic.op? act with
    | none => exact Nat.le_refl _
    | some op => exact callsOf_after_le h.consistent (hadded op hop) hphase
  · have hle := unsettled_perform_le traffic act id
    rw [(h.consistent.hidden hphase).reserves_eq_zero] at hle
    exact hle

/-- Every run takes a connection on in its life, or leaves it where it is. -/
lemma outlives_run {acts : List Act} (h : traffic.Recorded) (hfresh : traffic.FreshAll acts)
    (hknown : id ∈ traffic.known) : Outlives traffic (traffic.run acts) id := by
  induction acts generalizing traffic with
  | nil => exact Outlives.refl hknown
  | cons act rest ih =>
    have hstep : Outlives traffic (traffic.perform act) id :=
      outlives_perform h hfresh.1 hknown
    exact hstep.trans h.consistent (ih (h.perform act) hfresh.2 hstep.known)

/-- Once a connection is closed, what is left of it is forgotten. -/
lemma forgotten_of_closed (h : traffic.registry.Consistent)
    (hclosed : traffic.registry.phase id = .closed) : traffic.Forgotten id where
  operation op hop := after_of_closed h hclosed hop
  act act op hop hsettles := by
    rw [registry_perform, hop]
    exact after_of_closed h hclosed hsettles
  transaction transactionId hcall := by
    have hreleased : traffic.registry.after (.release id) = traffic.registry :=
      after_of_closed h hclosed (Or.inl rfl)
    simp only [Dispatcher.callEnded, hcall]
    exact hreleased

/-! ## The main result -/

/-- **Retirement.** As long as no id is registered a second time, a connection that was registered
is active, drains or is closed, and never goes back. Once it is not active any more,
nothing that looks for connections comes upon it, no call is reserved on it, and those it has can
only end. Once it is closed, settling what was reserved on it or ending a call that is recorded for
it changes nothing about the registry. -/
theorem retired_for_good {before behind : List Act} {earlier later : Traffic} {id : EntryId}
    (hearlier : earlier = ({} : Traffic).run before) (hfresh : earlier.FreshAll behind)
    (hlater : later = earlier.run behind) (hknown : id ∈ earlier.known) :
    (earlier.registry.phase id = .active ∨ earlier.registry.phase id = .draining ∨
        earlier.registry.phase id = .closed) ∧
      (earlier.registry.phase id).rank ≤ (later.registry.phase id).rank ∧
      (earlier.registry.phase id ≠ .active →
        later.registry.Hidden id ∧ later.unsettled id ≤ earlier.unsettled id ∧
          later.registry.callsOf id ≤ earlier.registry.callsOf id) ∧
      (earlier.registry.phase id = .closed →
        later.registry.phase id = .closed ∧ later.Forgotten id) := by
  have h : earlier.Recorded := hearlier ▸ recorded_empty.run before
  have h' : later.Recorded := hlater ▸ h.run behind
  have houtlives : Outlives earlier later id := hlater ▸ outlives_run h hfresh hknown
  refine ⟨h.consistent.phase_cases id, houtlives.rank_le, fun hphase => ?_, fun hclosed => ?_⟩
  · have hhidden := h'.consistent.hidden (houtlives.ne_active h.consistent hphase)
    exact ⟨hhidden, houtlives.unsettled_le hphase, houtlives.calls_le hphase⟩
  · have hclosed' : later.registry.phase id = .closed :=
      EntryState.eq_closed_of_rank_le (hclosed ▸ houtlives.rank_le)
    exact ⟨hclosed', forgotten_of_closed h'.consistent hclosed'⟩

/-- An application is dialed and takes a request, and another call is reserved on it when its peer
disconnects. -/
def peerLost : List Act :=
  [.operate (.add ⟨⟨1, .outbound, .plain, .empty, some "sip:app", none, 1⟩, .connecting⟩),
    .start { transactionId := "t", method := "INVITE", uri := "sip:callee" }
      (.routeByUri "sip:app"),
    .flight 0 .step,
    .flight 0 .step,
    .flight 0 (.answer 0 (.ok ())),
    .operate (.reserveEntry 1),
    .peerDisconnected 0 1]

/-- The connection is closed while another request is on its way to it, and somebody else is dialed
at the same uri. -/
def redialed : List Act :=
  [.start { transactionId := "u", method := "INVITE", uri := "sip:callee" }
      (.routeByUri "sip:app"),
    .operate (.remove 1),
    .flight 1 .step,
    .operate (.add ⟨⟨2, .outbound, .plain, .empty, some "sip:app", none, 2⟩, .connecting⟩)]

theorem retired_for_good_redialed :
    let earlier := ({} : Traffic).run peerLost
    let later := earlier.run redialed
    earlier.FreshAll redialed ∧ 1 ∈ earlier.known ∧ earlier.registry.phase 1 = .draining ∧
      later.registry.phase 1 = .closed ∧ later.dispatcher.callOf "t" = some 1 ∧
      later.unsettled 1 = 1 ∧ later.registry.Hidden 1 ∧ later.Forgotten 1 := by
  intro earlier later
  have hnew : (2 : EntryId) ∉ (((earlier.perform (.start
      { transactionId := "u", method := "INVITE", uri := "sip:callee" }
      (.routeByUri "sip:app"))).perform (.operate (.remove 1))).perform (.flight 1 .step)).known := by
    decide
  have hfresh : earlier.FreshAll redialed := ⟨trivial, trivial, trivial, hnew, trivial⟩
  have hknown : 1 ∈ earlier.known := by decide
  have hdraining : earlier.registry.phase 1 = .draining := by decide
  have hclosed : later.registry.phase 1 = .closed := by decide
  -- from the state in which the connection drains, and from the one in which it is closed
  have hhidden : later.registry.Hidden 1 :=
    ((retired_for_good rfl hfresh rfl hknown).2.2.1 (by rw [hdraining]; decide)).1
  have hlater : later = ({} : Traffic).run (peerLost ++ redialed) := rfl
  have hnothing : later.FreshAll [] := trivial
  have hforgotten : later.Forgotten 1 :=
    ((retired_for_good hlater hnothing rfl (by decide)).2.2.2 hclosed).2
  exact ⟨hfresh, hknown, hdraining, hclosed, by decide, by decide, hhidden, hforgotten⟩

end Traffic

end CallDispatch
