import CallDispatch.Proofs.Dispatch.Traffic
import Mathlib

/-!
# Retrying in a pool

A dispatch to a pool asks one connection after another, while the pool changes under it. It may ask
as many as it saw when it looked at the pool, and none twice. If nobody new has come since, those
that are eligible are among those it saw and are none of those that failed, since a connection whose
peer is dead is drained (`Search`). So when the tries are used up, or none is left to be selected,
none of those it saw is eligible any more.

## Main definitions

* `Search`: what holds between those that were seen, those that failed and those that are eligible.
* `Flight.Faithful`: what the record of a dispatch to a pool says at each stage.
-/

namespace CallDispatch

open Text

/-! ## Dead peers -/

/-- A connection whose peer is dead is in no pool. -/
lemma Registry.not_mem_members_abandonDead {registry : Registry} (h : registry.Consistent)
    (now : Nat) (reservation : Reservation) (selector : Selector) (method : Option String) :
    reservation.handle.id ∉ (registry.abandonDead now reservation).members selector method := by
  have hreleased := h.release reservation.handle.id
  intro hmem
  obtain ⟨slot', hslot', hid⟩ := mem_members.1 hmem
  obtain ⟨hslot', hpool⟩ := mem_pool.1 hslot'
  have hactive : slot'.state = .active := Slot.active_of_inPool hpool
  rw [abandonDead, rollBack, slots_beginDrain hreleased.ascending] at hslot'
  rcases mem_alter.1 hslot' with ⟨-, hne⟩ | ⟨old, hold, -, hdrained⟩
  · exact hne hid
  · -- an active connection may always be told to drain
    rcases Slot.drained_cases hdrained with ⟨hcannot, rfl⟩ | rfl
    · rw [hactive] at hcannot
      cases hcannot
    · cases hactive

/-! ## Searching a pool -/

/-- What holds while a dispatch searches a pool, with so many tries left. -/
structure Search (observed failed eligible : List EntryId) (tries : Nat) (renewed : Bool) :
    Prop where
  nodup : failed.Nodup
  length_add : failed.length + tries = observed.length
  observed_of_failed : renewed = false → ∀ id ∈ failed, id ∈ observed
  observed_of_eligible : renewed = false → ∀ id ∈ eligible, id ∈ observed
  not_failed : renewed = false → ∀ id ∈ eligible, id ∉ failed

namespace Search

variable {observed failed eligible eligible' : List EntryId} {tries : Nat} {renewed renewed' : Bool}

/-- A search begins with as many tries as connections are seen. -/
lemma start (observed : List EntryId) : Search observed [] observed observed.length false :=
  ⟨List.nodup_nil, Nat.zero_add _, by simp, fun _ _ hid => hid, by simp⟩

/-- A search goes on while nobody new comes. -/
lemma mono (h : Search observed failed eligible tries renewed)
    (hrenewed : renewed' = false → renewed = false ∧ ∀ id ∈ eligible', id ∈ eligible) :
    Search observed failed eligible' tries renewed' where
  nodup := h.nodup
  length_add := h.length_add
  observed_of_failed hnone := h.observed_of_failed (hrenewed hnone).1
  observed_of_eligible hnone id hid :=
    h.observed_of_eligible (hrenewed hnone).1 id ((hrenewed hnone).2 id hid)
  not_failed hnone id hid := h.not_failed (hrenewed hnone).1 id ((hrenewed hnone).2 id hid)

/-- A connection that was asked has failed, and is not eligible any more. -/
lemma fail (h : Search observed failed eligible (tries + 1) renewed) {id : EntryId}
    (hnew : id ∉ failed) (hseen : renewed = false → id ∈ observed) (hgone : id ∉ eligible) :
    Search observed (id :: failed) eligible tries renewed where
  nodup := List.nodup_cons.2 ⟨hnew, h.nodup⟩
  length_add := by
    have hlength := h.length_add
    simp only [List.length_cons]
    omega
  observed_of_failed hnone := List.forall_mem_cons.2 ⟨hseen hnone, h.observed_of_failed hnone⟩
  observed_of_eligible := h.observed_of_eligible
  not_failed hnone other hother := by
    have hne : other ≠ id := fun heq => hgone (heq ▸ hother)
    exact List.not_mem_cons_of_ne_of_not_mem hne (h.not_failed hnone other hother)

/-- When the tries are used up, nobody who was seen is eligible. -/
lemma exhausted (h : Search observed failed eligible 0 renewed) (hnone : renewed = false) :
    ∀ id ∈ observed, id ∉ eligible := by
  intro id hid heligible
  -- as many have failed as were seen, so they are the same
  have hperm : failed.Perm observed :=
    (List.subperm_of_subset h.nodup (h.observed_of_failed hnone)).perm_of_length_le
      (Nat.le_of_eq h.length_add.symm)
  exact h.not_failed hnone id heligible (hperm.mem_iff.2 hid)

/-- When all who are eligible have failed, nobody is eligible. -/
lemma missed (h : Search observed failed eligible tries renewed) (hnone : renewed = false)
    (hfailed : ∀ id ∈ eligible, id ∈ failed) : ∀ id ∈ observed, id ∉ eligible :=
  fun id _ heligible => h.not_failed hnone id heligible (hfailed id heligible)

end Search

/-! ## The record of a dispatch -/

/-- The connection to which a dispatch has been delivered. -/
def Stage.delivered? : Stage → Option Handle
  | finished (.delivered handle) => some handle
  | _ => none

namespace Flight

variable {flight flight' : Flight} {selector : Selector}

/-- What a dispatch to a pool may do next, or why it has ended. -/
def Searching (selector : Selector) (registry : Registry) (flight : Flight) : Prop :=
  match flight.stage with
  | .arrived => flight.asked = []
  | .admitted selector' => selector' = selector ∧ flight.asked = []
  | .choosing selector' tries failed =>
    selector' = selector ∧ failed = flight.asked.map Handle.id ∧
      Search flight.observed failed (flight.eligible registry) tries flight.renewed
  | .located .. => False
  | .waiting attempt =>
    ∃ tries earlier, flight.asked = attempt.reservation.handle :: earlier ∧
      attempt.route = .pooled selector tries (earlier.map Handle.id) ∧
      Search flight.observed (earlier.map Handle.id) (flight.eligible registry) (tries + 1)
        flight.renewed ∧
      (flight.renewed = false → attempt.reservation.handle.id ∈ flight.observed)
  | .finished (.rejected error) =>
    error.status = 503 → flight.asked ≠ [] → flight.renewed = false →
      ∀ id ∈ flight.observed, id ∉ flight.eligible registry
  | .finished (.delivered _) | .cancelled => True

/-- What the record of a dispatch to a pool says. -/
structure Faithful (selector : Selector) (registry : Registry) (flight : Flight) : Prop where
  /-- No connection is asked twice. -/
  nodup : (flight.asked.map Handle.id).Nodup
  /-- No more connections are asked than were seen. -/
  length_le : flight.asked.length ≤ flight.observed.length
  /-- The request is delivered where it was taken, and taken once. -/
  accepted_eq : flight.accepted = flight.stage.delivered?.toList
  asked_of_accepted : ∀ handle ∈ flight.accepted, handle ∈ flight.asked
  searching : flight.Searching selector registry

/-- A dispatch begins with an empty record. -/
lemma faithful_start (selector : Selector) (registry : Registry) (request : Request)
    (outcome : Outcome) : Faithful selector registry { request, outcome } where
  nodup := List.nodup_nil
  length_le := Nat.le_refl 0
  accepted_eq := rfl
  asked_of_accepted := by simp
  searching := rfl

/-- While nobody has come, those that are eligible were so before. -/
lemma eligible_of_watched {before now : Registry}
    (h : (flight.watched before now).renewed = false) :
    flight.renewed = false ∧ ∀ id ∈ flight.eligible now, id ∈ flight.eligible before := by
  simpa [watched] using h

/-- What the record says stays true when the registry is changed by something else. -/
lemma Faithful.watched {before : Registry} (h : flight.Faithful selector before)
    (now : Registry) : (flight.watched before now).Faithful selector now := by
  refine ⟨h.nodup, h.length_le, h.accepted_eq, h.asked_of_accepted, ?_⟩
  have hrenewed : (flight.watched before now).renewed = false → flight.renewed = false ∧
      ∀ id ∈ flight.eligible now, id ∈ flight.eligible before := eligible_of_watched
  have hsearching := h.searching
  unfold Searching at hsearching ⊢
  simp only [Flight.watched] at hrenewed ⊢
  cases hstage : flight.stage with
  | choosing selector' tries failed =>
    rw [hstage] at hsearching
    obtain ⟨hselector, hfailed, hsearch⟩ := hsearching
    exact ⟨hselector, hfailed, hsearch.mono hrenewed⟩
  | waiting attempt =>
    rw [hstage] at hsearching
    obtain ⟨tries, earlier, hasked, hroute, hsearch, hseen⟩ := hsearching
    exact ⟨tries, earlier, hasked, hroute, hsearch.mono hrenewed,
      fun hnone => hseen (hrenewed hnone).1⟩
  | finished result =>
    rw [hstage] at hsearching
    cases result with
    | delivered handle => trivial
    | rejected error =>
      intro hstatus hasked hnone id hid heligible
      obtain ⟨hbefore, hold⟩ := hrenewed hnone
      exact hsearching hstatus hasked hbefore id hid (hold id heligible)
  | arrived | admitted | located | cancelled =>
    rw [hstage] at hsearching
    exact hsearching

/-! ## Moves -/

variable {dispatcher dispatcher' : Dispatcher} {op : Option Registry.Op}

/-- A dispatch that does not end as delivered leaves the rest of its record alone. -/
lemma Faithful.toStage {registry : Registry} (h : flight.Faithful selector registry)
    (stage : Stage) (hbefore : flight.stage.delivered? = none) (hnow : stage.delivered? = none)
    (hsearching : Searching selector registry { flight with stage }) :
    Faithful selector registry { flight with stage } where
  nodup := h.nodup
  length_le := h.length_le
  accepted_eq := by rw [h.accepted_eq, hbefore, hnow]
  asked_of_accepted := h.asked_of_accepted
  searching := hsearching

/-- What the record says stays true when the dispatch looks at its pool. -/
lemma Faithful.look {registry : Registry} (h : flight.Faithful selector registry)
    (hselector : flight.outcome.selector? = some selector)
    (hstage : flight.stage = .admitted selector) {tries : Nat}
    (htries : tries = (registry.members selector (some flight.request.method)).length) :
    Faithful selector registry { flight with
      stage := .choosing selector tries []
      observed := flight.eligible registry
      renewed := false } := by
  have hsearching := h.searching
  simp only [Searching, hstage] at hsearching
  have heligible : flight.eligible registry =
      registry.members selector (some flight.request.method) := by
    rw [eligible, hselector]
  refine ⟨h.nodup, ?_, ?_, h.asked_of_accepted, ?_⟩
  · simp [hsearching.2]
  · simp [h.accepted_eq, hstage, Stage.delivered?]
  · refine ⟨rfl, by simp [hsearching.2], ?_⟩
    rw [htries, ← heligible]
    exact Search.start _

/-- What the record says stays true when a connection is selected. -/
lemma Faithful.choose {registry : Registry} (h : flight.Faithful selector registry)
    (hselector : flight.outcome.selector? = some selector) {tries : Nat}
    {failed : List EntryId} {reservation : Reservation}
    (hstage : flight.stage = .choosing selector (tries + 1) failed)
    (hmem : reservation.handle.id ∈ registry.members selector (some flight.request.method))
    (hnew : reservation.handle.id ∉ failed) :
    Faithful selector registry { flight with
      stage := .waiting ⟨flight.request, .pooled selector tries failed, reservation⟩
      asked := reservation.handle :: flight.asked } := by
  have hsearching := h.searching
  simp only [Searching, hstage] at hsearching
  obtain ⟨-, rfl, hsearch⟩ := hsearching
  have heligible : reservation.handle.id ∈ flight.eligible registry := by
    rwa [eligible, hselector]
  refine ⟨List.nodup_cons.2 ⟨hnew, h.nodup⟩, ?_, ?_, ?_, ?_⟩
  · have hlength := hsearch.length_add
    simp only [List.length_map] at hlength
    simp only [List.length_cons]
    omega
  · simp [h.accepted_eq, hstage, Stage.delivered?]
  · exact fun handle hhandle => List.mem_cons_of_mem _ (h.asked_of_accepted handle hhandle)
  · exact ⟨tries, flight.asked, rfl, rfl, hsearch,
      fun hnone => hsearch.observed_of_eligible hnone _ heligible⟩

/-- What the record says stays true when a link takes the request. -/
lemma Faithful.accept {registry : Registry} (h : flight.Faithful selector registry)
    {attempt : Attempt} (hstage : flight.stage = .waiting attempt) :
    Faithful selector registry { flight with
      stage := .finished (.delivered attempt.reservation.handle)
      accepted := attempt.reservation.handle :: flight.accepted } := by
  have hsearching := h.searching
  simp only [Searching, hstage] at hsearching
  obtain ⟨tries, earlier, hasked, -⟩ := hsearching
  refine ⟨h.nodup, h.length_le, ?_, ?_, trivial⟩
  · simp [h.accepted_eq, hstage, Stage.delivered?]
  · refine List.forall_mem_cons.2 ⟨?_, h.asked_of_accepted⟩
    rw [hasked]
    exact List.mem_cons_self

/-- What the record says stays true when a peer is dead: its connection is not eligible any more. -/
lemma Faithful.retry (h : flight.Faithful selector dispatcher.registry)
    (hconsistent : dispatcher.registry.Consistent) {now : Nat} {attempt : Attempt} {tries : Nat}
    {selector' : Selector} {failed : List EntryId} (hstage : flight.stage = .waiting attempt)
    (hroute : attempt.route = .pooled selector' tries failed) {after : Registry}
    (hafter : after = dispatcher.registry.abandonDead now attempt.reservation) :
    ({ flight with
        stage := .choosing selector' tries (attempt.reservation.handle.id :: failed) }.watched
      dispatcher.registry after).Faithful selector after := by
  have hsearching := h.searching
  simp only [Searching, hstage] at hsearching
  obtain ⟨triesLeft, earlier, hasked, hroute', hsearch, hseen⟩ := hsearching
  rw [hroute] at hroute'
  cases hroute'
  have hnew : attempt.reservation.handle.id ∉ earlier.map Handle.id := by
    have hnodup := h.nodup
    rw [hasked, List.map_cons] at hnodup
    exact (List.nodup_cons.1 hnodup).1
  have hgone : attempt.reservation.handle.id ∉ flight.eligible after := by
    unfold eligible
    split
    · exact List.not_mem_nil
    · rw [hafter]
      exact Registry.not_mem_members_abandonDead hconsistent now _ _ _
  have hrenewed : (flight.watched dispatcher.registry after).renewed = false →
      flight.renewed = false ∧
        ∀ id ∈ flight.eligible after, id ∈ flight.eligible dispatcher.registry :=
    eligible_of_watched
  -- the search goes on in the registry afterwards, with the dead connection among the failed
  refine ⟨h.nodup, h.length_le, ?_, h.asked_of_accepted, ?_⟩
  · simp [Flight.watched, h.accepted_eq, hstage, Stage.delivered?]
  · refine ⟨rfl, by simp [Flight.watched, hasked], ?_⟩
    exact (hsearch.mono hrenewed).fail hnew (fun hnone => hseen (hrenewed hnone).1) hgone

/-- What the record of a dispatch to a pool says stays true with every move. -/
lemma Faithful.move (h : flight.Faithful selector dispatcher.registry)
    (hconsistent : dispatcher.registry.Consistent)
    (hselector : flight.outcome.selector? = some selector)
    (hmove : flight.Moves dispatcher op dispatcher' flight') :
    (flight'.watched dispatcher.registry dispatcher'.registry).Faithful selector
      dispatcher'.registry := by
  have hsearching := h.searching
  cases hmove with
  | stay => exact h.watched _
  | refuse error hstage =>
    -- nobody has been asked yet
    have hasked : flight.asked = [] := by
      rcases hstage with hstage | ⟨selector', hstage⟩
      · simpa only [Searching, hstage] using hsearching
      · simp only [Searching, hstage] at hsearching
        exact hsearching.2
    have hbefore : flight.stage.delivered? = none := by
      rcases hstage with hstage | ⟨selector', hstage⟩ <;> rw [hstage] <;> rfl
    exact (h.toStage (.finished (.rejected error)) hbefore rfl
      fun _ hne => absurd hasked hne).watched _
  | enter selector' hstage hselector' =>
    simp only [Searching, hstage] at hsearching
    obtain rfl : selector' = selector := Option.some.inj (hselector'.symm.trans hselector)
    exact (h.toStage (.admitted selector') (by rw [hstage]; rfl) rfl ⟨rfl, hsearching⟩).watched _
  | locate uri id hstage hselector' =>
    rw [hselector'] at hselector
    cases hselector
  | look selector' tries hstage htries =>
    simp only [Searching, hstage] at hsearching
    obtain ⟨rfl, -⟩ := hsearching
    exact (h.look hselector hstage htries).watched _
  | exhaust selector' failed hstage =>
    simp only [Searching, hstage] at hsearching
    obtain ⟨rfl, -, hsearch⟩ := hsearching
    exact (h.toStage (.finished (.rejected .noAppsConnected)) (by rw [hstage]; rfl) rfl
      fun _ _ => hsearch.exhausted).watched _
  | miss selector' tries failed hstage hreserve hfailed =>
    simp only [Searching, hstage] at hsearching
    obtain ⟨rfl, -, hsearch⟩ := hsearching
    have hmissed : ∀ id ∈ flight.eligible dispatcher.registry, id ∈ failed := by
      rwa [eligible, hselector]
    exact (h.toStage (.finished (.rejected .noAppsConnected)) (by rw [hstage]; rfl) rfl
      fun _ _ hnone => hsearch.missed hnone hmissed).watched _
  | choose selector' tries failed reservation hstage hreserve hmem hnew =>
    simp only [Searching, hstage] at hsearching
    obtain ⟨rfl, -⟩ := hsearching
    exact (h.choose hselector hstage hmem hnew).watched _
  | vanish uri id hstage | reach uri id reservation hstage =>
    simp only [Searching, hstage] at hsearching
  | accept attempt hstage => exact (h.accept hstage).watched _
  | oversize attempt length hstage =>
    -- that is another status
    refine (h.toStage (.finished (.rejected (.messageTooLarge length))) (by rw [hstage]; rfl) rfl
      fun hstatus => ?_).watched _
    cases hstatus
  | retry now attempt selector' tries failed hstage hroute =>
    exact h.retry hconsistent hstage hroute rfl
  | lose now attempt uri hstage hroute =>
    simp only [Searching, hstage] at hsearching
    obtain ⟨tries, earlier, -, hpooled, -⟩ := hsearching
    rw [hpooled] at hroute
    cases hroute
  | giveUp attempt hstage =>
    exact (h.toStage .cancelled (by rw [hstage]; rfl) rfl trivial).watched _
  | giveUpPending hpending =>
    have hbefore : flight.stage.delivered? = none := by
      cases hstage : flight.stage with
      | finished => simp [hstage, Stage.isPending] at hpending
      | _ => rfl
    exact (h.toStage .cancelled hbefore rfl trivial).watched _

/-- A dispatch is made for one request and one outcome. -/
lemma Moves.same (hmove : flight.Moves dispatcher op dispatcher' flight') :
    flight'.request = flight.request ∧ flight'.outcome = flight.outcome := by
  cases hmove <;> exact ⟨rfl, rfl⟩

end Flight

/-! ## Runs -/

namespace Traffic

/-- The records of all dispatches to pools are as they should be. -/
structure Faithful (traffic : Traffic) : Prop where
  consistent : traffic.registry.Consistent
  flights : ∀ flight ∈ traffic.flights, ∀ selector, flight.outcome.selector? = some selector →
    flight.Faithful selector traffic.registry

variable {traffic : Traffic}

lemma faithful_empty : ({} : Traffic).Faithful where
  consistent := Registry.consistent_empty
  flights := by simp

/-- The records stay as they should be, whatever happens. -/
lemma Faithful.perform (h : traffic.Faithful) (act : Act) : (traffic.perform act).Faithful := by
  refine ⟨consistent_perform h.consistent act, fun watched hwatched selector hselector => ?_⟩
  obtain ⟨flight, hflight, rfl⟩ := List.mem_map.1 hwatched
  have hkept : flight ∈ traffic.flights →
      (flight.watched traffic.registry (traffic.proceed act).registry).Faithful selector
        (traffic.perform act).registry := fun hmem =>
    (h.flights flight hmem selector hselector).watched _
  cases act with
  | start request outcome =>
    rcases List.mem_append.1 hflight with hflight | hflight
    · exact hkept hflight
    · obtain rfl := List.mem_singleton.1 hflight
      exact (Flight.faithful_start selector traffic.registry request outcome).watched _
  | flight index event =>
    simp only [Traffic.perform, proceed] at hflight hkept ⊢
    cases hold : traffic.flights[index]? with
    | none =>
      simp only [hold] at hflight hkept ⊢
      exact hkept hflight
    | some old =>
      simp only [hold] at hflight hkept ⊢
      -- the flight moved, or it is one of the others
      rcases List.mem_or_eq_of_mem_set hflight with hflight | rfl
      · exact hkept hflight
      · have hmoves := old.moves_after traffic.dispatcher event
        have hold' : old.outcome.selector? = some selector := by
          rw [← hmoves.same.2]
          exact hselector
        exact (h.flights old (List.mem_of_getElem? hold) selector hold').move h.consistent hold'
          hmoves
  | operate op =>
    refine hkept ?_
    simp only [proceed, operate] at hflight
    split at hflight
    · split at hflight <;> exact hflight
    · exact hflight
  | callEnded | peerDisconnected | purge => exact hkept hflight

/-- The records are as they should be after every run. -/
lemma Faithful.run (h : traffic.Faithful) (acts : List Act) : (traffic.run acts).Faithful := by
  induction acts generalizing traffic with
  | nil => exact h
  | cons act rest ih => exact ih (h.perform act)

/-! ## The main result -/

/-- **Retrying.** Whatever happens to the registry and to the links meanwhile, and however many
dispatches go on at the same time, a dispatch to a pool asks different connections, and no more of
them than were eligible when it looked at the pool. At most one link takes the request, one that was
asked, and the dispatch is delivered to that connection exactly. If it ends with status 503 after
somebody was asked, and nobody has become eligible since it looked, then nobody whom it saw is
eligible any more. -/
theorem pooled_dispatch_faithful {acts : List Act} {traffic : Traffic}
    (htraffic : traffic = ({} : Traffic).run acts) {flight : Flight}
    (hflight : flight ∈ traffic.flights) {selector : Selector}
    (hselector : flight.outcome.selector? = some selector) :
    (flight.asked.map Handle.id).Nodup ∧
      flight.asked.length ≤ flight.observed.length ∧
      flight.accepted.length ≤ 1 ∧
      (∀ handle ∈ flight.accepted, handle ∈ flight.asked) ∧
      (∀ handle, flight.stage = .finished (.delivered handle) ↔ handle ∈ flight.accepted) ∧
      ∀ error, flight.stage = .finished (.rejected error) → error.status = 503 →
        flight.asked ≠ [] → flight.renewed = false →
        ∀ id ∈ flight.observed,
          id ∉ traffic.registry.members selector (some flight.request.method) := by
  have h : flight.Faithful selector traffic.registry :=
    htraffic ▸ ((faithful_empty.run acts).flights flight (htraffic ▸ hflight) selector hselector)
  refine ⟨h.nodup, h.length_le, ?_, h.asked_of_accepted, fun handle => ?_, ?_⟩
  · rw [h.accepted_eq]
    cases flight.stage.delivered? <;> simp
  · rw [h.accepted_eq, Option.mem_toList]
    constructor
    · intro hstage
      rw [hstage]
      rfl
    · intro hdelivered
      unfold Stage.delivered? at hdelivered
      split at hdelivered
      · next hstage =>
        cases hdelivered
        exact hstage
      · cases hdelivered
  · intro error hstage hstatus hasked hnone id hid
    have hsearching := h.searching
    simp only [Flight.Searching, hstage] at hsearching
    have hgone := hsearching hstatus hasked hnone id hid
    rwa [Flight.eligible, hselector] at hgone

/-- Two applications connect, and both turn out to be dead when they are asked. -/
def twoDead : List Act :=
  [.operate (.add ⟨⟨1, .inbound, .plain, .empty, none, none, 1⟩, .connecting⟩),
    .operate (.add ⟨⟨2, .inbound, .plain, .empty, none, none, 2⟩, .connecting⟩),
    .start { transactionId := "t", method := "INVITE", uri := "sip:callee" } .routeDefault,
    .flight 0 .step,
    .flight 0 .step,
    .flight 0 .step,
    .flight 0 (.answer 0 (.error .closed)),
    .flight 0 .step,
    .flight 0 (.answer 0 (.error .closed)),
    .flight 0 .step]

theorem pooled_dispatch_faithful_twoDead :
    let traffic := ({} : Traffic).run twoDead
    ∃ flight ∈ traffic.flights, flight.outcome.selector? = some .untagged ∧
      flight.stage = .finished (.rejected .noAppsConnected) ∧ flight.asked.length = 2 ∧
      flight.renewed = false ∧
      ∀ id ∈ flight.observed,
        id ∉ traffic.registry.members .untagged (some flight.request.method) := by
  intro traffic
  have hrecords : traffic.flights.map (fun flight =>
      (flight.outcome, flight.stage, flight.asked.length, flight.renewed)) =
        [(.routeDefault, .finished (.rejected .noAppsConnected), 2, false)] := by cbv
  obtain ⟨flight, hflights⟩ : ∃ flight, traffic.flights = [flight] :=
    List.length_eq_one_iff.1 (by simpa using congrArg List.length hrecords)
  rw [hflights] at hrecords
  simp only [List.map_cons, List.map_nil, List.cons.injEq, Prod.mk.injEq, and_true] at hrecords
  obtain ⟨houtcome, hstage, hasked, hrenewed⟩ := hrecords
  have hflight : flight ∈ traffic.flights := by
    rw [hflights]
    exact List.mem_singleton_self flight
  have hselector : flight.outcome.selector? = some .untagged := by
    rw [houtcome]
    rfl
  obtain ⟨-, -, -, -, -, hgone⟩ := pooled_dispatch_faithful (rfl : traffic = _) hflight hselector
  refine ⟨flight, hflight, hselector, hstage, hasked, hrenewed, ?_⟩
  refine hgone _ hstage rfl (fun hnil => ?_) hrenewed
  rw [hnil] at hasked
  cases hasked

end Traffic

end CallDispatch
