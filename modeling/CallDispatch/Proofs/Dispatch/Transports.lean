import CallDispatch.Proofs.Dispatch.Retirement
import CallDispatch.Proofs.Dispatch.Retrying

/-!
# Required transports

A request may require the transport of the connection that takes it. A dispatch to the application
at a uri asks for that transport before it reserves a call, and between the two the connection may
close but not change. A dispatch to a pool does not ask: it takes the connection whose turn it is.
So all deliveries of a request are over the transport it requires exactly if it is sent to a uri, or
if every connection that may join its pool offers that transport (`delivered_transport_iff`); a
single connection of the pool that does not offer it may get the request.

## Main definitions

* `Entry.Joins`: a connection that will belong to a pool.
* `Flight.MayReach`: the connections to which a dispatch may be delivered.
* `Flight.Guided`: what each stage of a dispatch says about them.
-/

namespace CallDispatch

open Text Registry

/-- A connection that will belong to a pool when it is registered. -/
structure Entry.Joins (entry : Entry) (selector : Selector) : Prop where
  connecting : entry.state = .connecting
  inbound : entry.handle.direction = .inbound
  accepts : entry.handle.accepts selector.tag? = true

/-- The connections to which a dispatch may be delivered if those that are registered are allowed:
one that offers the transport that is required, or any that belongs to the pool. -/
def Flight.MayReach (allowed : Entry → Prop) (flight : Flight) (handle : Handle) : Prop :=
  match flight.outcome.selector? with
  | none => handle.transport.satisfies flight.request.requiredTransport = true
  | some selector => ∃ entry, allowed entry ∧ entry.Joins selector ∧ entry.handle = handle

/-- What holds of the connection that a dispatch has come upon, or will come upon. -/
def Flight.Guided (allowed : Entry → Prop) (known : List EntryId) (registry : Registry)
    (flight : Flight) : Prop :=
  match flight.stage with
  | .admitted selector | .choosing selector _ _ => flight.outcome.selector? = some selector
  | .located _ id =>
    flight.outcome.selector? = none ∧ id ∈ known ∧ ∀ slot ∈ registry.slots, slot.id = id →
      slot.handle.transport.satisfies flight.request.requiredTransport = true
  | .waiting attempt =>
    flight.MayReach allowed attempt.reservation.handle ∧
      ∀ selector tries failed, attempt.route = .pooled selector tries failed →
        flight.outcome.selector? = some selector
  | .finished (.delivered handle) => flight.MayReach allowed handle
  | .arrived | .finished (.rejected _) | .cancelled => True

/-! ## Where connections come from -/

namespace Registry

variable {registry : Registry} {id : EntryId}

/-- Only a connection that is connecting is registered. -/
lemma connecting_of_added {entry : Entry} (h : registry.added? (.add entry) = some id) :
    entry.state = .connecting := by
  unfold added? add at h
  dsimp only at h
  split at h
  · next handle hadd =>
    split at hadd
    · cases hadd
    · split at hadd
      · cases hadd
      · next hnext =>
        -- nothing else becomes active
        unfold Entry.transition at hnext
        split at hnext
        · next hcan =>
          cases hstate : entry.state with
          | connecting => rfl
          | active | draining | closed =>
            rw [hstate] at hcan
            cases hcan
        · cases hnext
  · cases h

/-- A selection takes a connection that belongs to the pool. -/
lemma exists_of_reserve {selector : Selector} {method : Option String} {excluded : List EntryId}
    {reservation : Reservation}
    (h : (registry.reserve selector method excluded).2 = some reservation) :
    ∃ slot ∈ registry.slots, slot.handle = reservation.handle ∧
      slot.handle.direction = .inbound ∧ slot.handle.accepts selector.tag? = true := by
  obtain ⟨slot, hpool, -, hhandle⟩ := exists_slot_of_reserve h
  obtain ⟨hslot, hinPool⟩ := mem_pool.1 hpool
  simp only [Slot.inPool, Bool.and_eq_true, beq_iff_eq] at hinPool
  exact ⟨slot, hslot, hhandle, hinPool.1.1.2, hinPool.1.2⟩

end Registry

/-! ## One dispatch -/

namespace Flight

variable {allowed : Entry → Prop} {known known' : List EntryId} {registry registry' : Registry}
  {flight flight' : Flight} {dispatcher dispatcher' : Dispatcher} {op : Option Op}

@[simp] lemma stage_stepped (flight : Flight) (registry : Registry) (stage : Stage) :
    (flight.stepped registry stage).stage = stage := by
  unfold stepped
  split <;> rfl

/-- A dispatch to a uri goes on with the connection found there, if that offers the transport that
is required. -/
lemma located_after {event : Event} {uri : String} {id : EntryId} (hstage : flight.stage = .arrived)
    (hlocated : (flight.after dispatcher event).2.stage = .located uri id) :
    ∃ handle, flight.outcome = .routeByUri uri ∧
      dispatcher.registry.findTarget uri = some handle ∧ handle.id = id ∧
      handle.transport.satisfies flight.request.requiredTransport = true := by
  cases event with
  | answer now result =>
    simp only [after, hstage] at hlocated
    cases hlocated
  | cancel =>
    simp only [after, hstage] at hlocated
    cases hlocated
  | step =>
    rw [after_step (by rw [hstage]; rfl), hstage, stage_stepped] at hlocated
    exact Dispatcher.exists_of_arrive_located hlocated

/-- What holds of a dispatch stays true when the registry changes, if connections do not. -/
lemma Guided.keep (h : flight.Guided allowed known registry) (hknown : known ⊆ known')
    (hslots : ∀ slot' ∈ registry'.slots, slot'.id ∈ known →
      ∃ slot ∈ registry.slots, slot.handle = slot'.handle) :
    flight.Guided allowed known' registry' := by
  unfold Guided at h ⊢
  cases hstage : flight.stage with
  | located uri id =>
    rw [hstage] at h
    obtain ⟨hselector, hid, hcarries⟩ := h
    refine ⟨hselector, hknown hid, fun slot' hslot' hsame => ?_⟩
    obtain ⟨slot, hslot, hhandle⟩ := hslots slot' hslot' (hsame ▸ hid)
    rw [← hhandle]
    exact hcarries slot hslot ((congrArg Handle.id hhandle).trans hsame)
  | finished result =>
    rw [hstage] at h
    cases result <;> exact h
  | _ =>
    rw [hstage] at h
    exact h

/-- What holds of a dispatch stays true with every move. -/
lemma Guided.move (h : flight.Guided allowed known dispatcher.registry)
    (hmove : flight.Moves dispatcher op dispatcher' flight')
    (hlocated : ∀ uri id, flight.stage = .arrived → flight'.stage = .located uri id →
      ∃ slot ∈ dispatcher.registry.slots, slot.id = id ∧
        slot.handle.transport.satisfies flight.request.requiredTransport = true)
    (hascending : dispatcher.registry.Ascending)
    (hknown : ∀ slot ∈ dispatcher.registry.slots, slot.id ∈ known)
    (hentries : ∀ slot ∈ dispatcher.registry.slots, ∃ entry, allowed entry ∧
      entry.state = .connecting ∧ entry.handle = slot.handle) :
    flight'.Guided allowed known dispatcher.registry := by
  unfold Guided at h
  cases hmove with
  | stay =>
    unfold Guided
    exact h
  | enter selector hstage hselector => exact hselector
  | locate uri id hstage hselector =>
    obtain ⟨slot, hslot, rfl, hcarries⟩ := hlocated uri id hstage rfl
    refine ⟨hselector, hknown slot hslot, fun other hother hid => ?_⟩
    rw [hascending.eq_of_id_eq hother hslot hid]
    exact hcarries
  | look selector tries hstage htries =>
    rw [hstage] at h
    exact h
  | choose selector tries failed reservation hstage hreserve =>
    rw [hstage] at h
    obtain ⟨slot, hslot, hhandle, hinbound, haccepts⟩ := exists_of_reserve hreserve
    obtain ⟨entry, hallowed, hconnecting, hentry⟩ := hentries slot hslot
    refine ⟨?_, fun selector' tries' failed' hroute => ?_⟩
    · unfold MayReach
      rw [show flight.outcome.selector? = some selector from h]
      exact ⟨entry, hallowed, ⟨hconnecting, hentry ▸ hinbound, hentry ▸ haccepts⟩,
        hentry.trans hhandle⟩
    · cases hroute
      exact h
  | reach uri id reservation hstage hreserve =>
    rw [hstage] at h
    obtain ⟨hselector, -, hcarries⟩ := h
    refine ⟨?_, fun selector' tries' failed' hroute => by cases hroute⟩
    unfold MayReach
    rw [show flight.outcome.selector? = none from hselector]
    obtain ⟨slot, hfind, -, hhandle⟩ := exists_slot_of_reserveEntry hreserve
    rw [← hhandle]
    exact hcarries slot (mem_of_find? hfind) (id_of_find? hfind)
  | accept attempt hstage =>
    rw [hstage] at h
    exact h.1
  | retry now attempt selector tries failed hstage hroute =>
    rw [hstage] at h
    exact h.2 selector tries failed hroute
  | _ => trivial

end Flight

/-! ## All dispatches -/

namespace Traffic

/-- Only connections that are allowed are registered, and all dispatches are guided. -/
structure Guided (allowed : Entry → Prop) (traffic : Traffic) : Prop where
  recorded : traffic.Recorded
  entries : ∀ slot ∈ traffic.registry.slots, ∃ entry, allowed entry ∧
    entry.state = .connecting ∧ entry.handle = slot.handle
  flights : ∀ flight ∈ traffic.flights, flight.Guided allowed traffic.known traffic.registry

variable {allowed : Entry → Prop} {traffic : Traffic} {act : Act}

lemma guided_empty (allowed : Entry → Prop) : ({} : Traffic).Guided allowed where
  recorded := recorded_empty
  entries := by simp [registry]
  flights := by simp

/-- Connections are registered from outside only. -/
lemma eq_operate_of_added {op : Op} {id : EntryId} (hop : traffic.op? act = some op)
    (hadded : traffic.registry.added? op = some id) : act = .operate op := by
  obtain ⟨entry, rfl, -⟩ := eq_add_of_added hadded
  cases act with
  | operate op =>
    simp only [op?] at hop
    split at hop
    · split at hop
      · rw [Option.some.inj hop]
      · cases hop
    · rw [Option.some.inj hop]
  | flight index event =>
    obtain ⟨flight, -, hmade⟩ := Option.bind_eq_some_iff.1 hop
    have hmoves := flight.moves_after traffic.dispatcher event
    rw [hmade] at hmoves
    have hnone := hmoves.added_eq_none traffic.registry
    rw [Option.bind_some, hadded] at hnone
    cases hnone
  | callEnded transactionId => simp [op?] at hop
  | _ => cases hop

/-- A dispatch after an act was there before, has just been started or has just moved. -/
lemma mem_flights_proceed {flight : Flight} (h : flight ∈ (traffic.proceed act).flights) :
    flight ∈ traffic.flights ∨ (∃ request outcome, flight = { request, outcome }) ∨
      ∃ old ∈ traffic.flights, ∃ event, flight = (old.after traffic.dispatcher event).2 := by
  cases act with
  | start request outcome =>
    rcases List.mem_append.1 h with h | h
    · exact Or.inl h
    · exact Or.inr (Or.inl ⟨request, outcome, List.mem_singleton.1 h⟩)
  | flight index event =>
    simp only [proceed] at h
    cases hold : traffic.flights[index]? with
    | none =>
      rw [hold] at h
      exact Or.inl h
    | some old =>
      simp only [hold] at h
      rcases List.mem_or_eq_of_mem_set h with h | h
      · exact Or.inl h
      · exact Or.inr (Or.inr ⟨old, List.mem_of_getElem? hold, event, h⟩)
  | operate op =>
    simp only [proceed, operate] at h
    split at h
    · split at h <;> exact Or.inl h
    · exact Or.inl h
  | callEnded | peerDisconnected | purge => exact Or.inl h

/-- An act registers only connections that are allowed. -/
lemma Guided.entries_perform (h : traffic.Guided allowed)
    (hallowed : ∀ entry, act = .operate (.add entry) → allowed entry) :
    ∀ slot ∈ (traffic.perform act).registry.slots, ∃ entry, allowed entry ∧
      entry.state = .connecting ∧ entry.handle = slot.handle := by
  intro slot' hslot'
  rw [registry_perform] at hslot'
  cases hop : traffic.op? act with
  | none =>
    rw [hop] at hslot'
    exact h.entries slot' hslot'
  | some op =>
    rw [hop] at hslot'
    by_cases hadded : traffic.registry.added? op = some slot'.id
    · obtain ⟨entry, rfl, -, hfresh⟩ := eq_fresh_of_added hslot' hadded
      have hentry : entry.handle = slot'.handle := by
        rw [hfresh]
      exact ⟨entry, hallowed entry (eq_operate_of_added hop hadded),
        connecting_of_added hadded, hentry⟩
    · obtain ⟨slot, hslot, hhandle⟩ := exists_same_handle h.recorded.consistent hslot' hadded
      rw [← hhandle]
      exact h.entries slot hslot

/-- What holds of the dispatches stays true with every act. -/
lemma Guided.perform (h : traffic.Guided allowed) (hfresh : traffic.Fresh act)
    (hallowed : ∀ entry, act = .operate (.add entry) → allowed entry) :
    (traffic.perform act).Guided allowed := by
  refine ⟨h.recorded.perform act, h.entries_perform hallowed, fun watched hwatched => ?_⟩
  obtain ⟨flight, hflight, rfl⟩ := List.mem_map.1 hwatched
  -- connections that are known keep their handles
  have hslots : ∀ slot' ∈ (traffic.perform act).registry.slots, slot'.id ∈ traffic.known →
      ∃ slot ∈ traffic.registry.slots, slot.handle = slot'.handle := by
    intro slot' hslot' hknown
    rw [registry_perform] at hslot'
    cases hop : traffic.op? act with
    | none =>
      rw [hop] at hslot'
      exact ⟨slot', hslot', rfl⟩
    | some op =>
      rw [hop] at hslot'
      refine exists_same_handle h.recorded.consistent hslot' fun hadded => ?_
      exact hfresh.not_known (by rw [hop]; exact hadded) hknown
  have hkept : flight.Guided allowed traffic.known traffic.registry →
      (flight.watched traffic.registry (traffic.proceed act).registry).Guided allowed
        (traffic.perform act).known (traffic.perform act).registry := fun hguided =>
    hguided.keep (known_subset_perform traffic act) hslots
  rcases mem_flights_proceed hflight with hflight | ⟨request, outcome, rfl⟩ | ⟨old, hold, event, rfl⟩
  · exact hkept (h.flights flight hflight)
  · exact hkept trivial
  · have hlocated : ∀ uri id, old.stage = .arrived →
        (old.after traffic.dispatcher event).2.stage = .located uri id →
        ∃ slot ∈ traffic.registry.slots, slot.id = id ∧
          slot.handle.transport.satisfies old.request.requiredTransport = true := by
      intro uri id harrived hlocated
      obtain ⟨handle, -, hfound, hid, hcarries⟩ := Flight.located_after harrived hlocated
      obtain ⟨slot, hslot, -, rfl⟩ := exists_of_findTarget hfound
      exact ⟨slot, hslot, hid, hcarries⟩
    exact hkept ((h.flights old hold).move (old.moves_after traffic.dispatcher event) hlocated
      h.recorded.consistent.ascending h.recorded.known_of_mem h.entries)

/-- What holds of the dispatches holds after every run. -/
lemma Guided.run {acts : List Act} (h : traffic.Guided allowed) (hfresh : traffic.FreshAll acts)
    (hallowed : ∀ entry, Act.operate (.add entry) ∈ acts → allowed entry) :
    (traffic.run acts).Guided allowed := by
  induction acts generalizing traffic with
  | nil => exact h
  | cons act rest ih =>
    refine ih (h.perform hfresh.1 fun entry hact => ?_) hfresh.2 fun entry hmem => ?_
    · exact hallowed entry (hact ▸ List.mem_cons_self)
    · exact hallowed entry (List.mem_cons_of_mem _ hmem)

/-! ## A single connection -/

/-- The run in which one connection is registered, and a request is delivered to it. -/
def soleDelivery (entry : Entry) (request : Request) (outcome : Outcome) : List Act :=
  [.operate (.add entry), .start request outcome, .flight 0 .step, .flight 0 .step, .flight 0 .step,
    .flight 0 (.answer 0 (.ok ()))]

/-- There is one dispatch, and the dispatcher and the stage of the dispatch are the given ones. -/
structure Alone (traffic : Traffic) (request : Request) (outcome : Outcome)
    (state : Dispatcher × Stage) : Prop where
  dispatcher_eq : traffic.dispatcher = state.1
  flights : ∃ flight, traffic.flights = [flight] ∧ flight.request = request ∧
    flight.outcome = outcome ∧ flight.stage = state.2

variable {request : Request} {outcome : Outcome} {state : Dispatcher × Stage}

/-- Something happens to the only dispatch. -/
lemma alone_perform {flight : Flight} (hflights : traffic.flights = [flight]) (event : Event) :
    Alone (traffic.perform (.flight 0 event)) flight.request flight.outcome
      ((flight.after traffic.dispatcher event).1,
        (flight.after traffic.dispatcher event).2.stage) := by
  have hsame := (flight.moves_after traffic.dispatcher event).same
  have hproceed : traffic.proceed (.flight 0 event) = { traffic with
      dispatcher := (flight.after traffic.dispatcher event).1
      flights := [(flight.after traffic.dispatcher event).2] } := by
    simp only [proceed, hflights]
    rfl
  refine ⟨by rw [dispatcher_perform, hproceed], ?_⟩
  rw [perform, hproceed]
  exact ⟨_, rfl, hsame.1, hsame.2, rfl⟩

/-- The only dispatch goes on by itself. -/
lemma Alone.step (h : Alone traffic request outcome state) (hpending : state.2.isPending = true) :
    Alone (traffic.perform (.flight 0 .step)) request outcome
      (state.1.advance request outcome state.2) := by
  obtain ⟨hdispatcher, flight, hflights, rfl, rfl, hstage⟩ := h
  have halone := alone_perform hflights .step
  rw [Flight.after_step (hstage ▸ hpending), Flight.stage_stepped, hdispatcher, hstage] at halone
  exact halone

/-- The link answers for which the only dispatch waits. -/
lemma Alone.answer (h : Alone traffic request outcome state) {attempt : Attempt}
    (hwaiting : state.2 = .waiting attempt) (now : Nat) :
    Alone (traffic.perform (.flight 0 (.answer now (.ok ())))) request outcome
      (state.1.respond now attempt (.ok ())) := by
  obtain ⟨hdispatcher, flight, hflights, rfl, rfl, hstage⟩ := h
  have halone := alone_perform hflights (.answer now (.ok ()))
  simp only [Flight.after, hstage, hwaiting, hdispatcher] at halone
  exact halone

/-- A dispatch to a pool begins by looking for active connections. -/
lemma arrive_eq_enter {selector : Selector} (hselector : outcome.selector? = some selector)
    (dispatcher : Dispatcher) (request : Request) :
    dispatcher.arrive request outcome = dispatcher.enter selector := by
  cases outcome with
  | routeDefault | routeByTag =>
    cases hselector
    rfl
  | reject | routeByUri => cases hselector

/-- A connection that is connecting is registered where there is none. -/
lemma slots_add_empty {entry : Entry} (hconnecting : entry.state = .connecting) :
    (({} : Registry).add entry).1.slots = [{ handle := entry.handle }] := by
  simp [add, contains, find?, Entry.transition, hconnecting, EntryState.canBecome, EntryState.rank,
    insertSlot]

/-- A connection that belongs to a pool makes up the pool if it is the only one. -/
lemma pool_add_empty {entry : Entry} {selector : Selector} (hjoins : entry.Joins selector)
    (method : Option String) :
    (({} : Registry).add entry).1.pool selector method = [{ handle := entry.handle }] := by
  have hinPool : ({ handle := entry.handle } : Slot).inPool selector (method.map upper) = true := by
    have htakes : ({ handle := entry.handle } : Slot).takes (method.map upper) = true := by
      have hmethods : (TextSet.empty).isEmpty = true := rfl
      cases method <;> simp [Slot.takes, hmethods]
    simp [Slot.inPool, htakes, hjoins.inbound, hjoins.accepts, EntryState.isSelectable]
  rw [pool, slots_add_empty hjoins.connecting]
  exact List.filter_eq_self.2 (by simpa using hinPool)

/-- A dispatch to the pool of the only connection asks that connection. -/
lemma advance_sole {entry : Entry} {selector : Selector} (hjoins : entry.Joins selector)
    (request : Request) (hselector : outcome.selector? = some selector) {dispatcher : Dispatcher}
    (hregistry : dispatcher.registry = (({} : Registry).add entry).1) :
    dispatcher.advance request outcome .arrived = (dispatcher, .admitted selector) ∧
      dispatcher.advance request outcome (.admitted selector) =
        (dispatcher, .choosing selector 1 []) ∧
      (dispatcher.advance request outcome (.choosing selector 1 [])).2 =
        .waiting ⟨request, .pooled selector 0 [], ⟨entry.handle⟩⟩ := by
  have hpool : dispatcher.registry.pool selector (some request.method) =
      [{ handle := entry.handle }] := by
    rw [hregistry, pool_add_empty hjoins]
  refine ⟨?_, ?_, ?_⟩
  · have hactive : dispatcher.registry.activeCount = 1 := by
      rw [activeCount, hregistry, slots_add_empty hjoins.connecting]
      rfl
    rw [Dispatcher.advance, arrive_eq_enter hselector, Dispatcher.enter, hactive]
    rfl
  · have hlength : (dispatcher.registry.snapshot selector (some request.method)).length = 1 := by
      rw [snapshot, hpool]
      simp
    rw [Dispatcher.advance, Dispatcher.look, Dispatcher.observe, hlength]
  · have hreserve : (dispatcher.registry.reserve selector (some request.method) []).2 =
        some ⟨entry.handle⟩ := by
      rw [reserve, hpool]
      rfl
    rw [Dispatcher.advance, Dispatcher.tryNext]
    generalize dispatcher.registry.reserve selector (some request.method) [] = reserved at hreserve
    obtain ⟨registry, reservation⟩ := reserved
    cases hreserve
    rfl

/-- A connection that belongs to a pool gets a request that is sent to the pool, whatever transport
the request requires. -/
lemma exists_delivered {entry : Entry} {selector : Selector} (hjoins : entry.Joins selector)
    (request : Request) (hselector : outcome.selector? = some selector) :
    ∃ flight ∈ (({} : Traffic).run (soleDelivery entry request outcome)).flights,
      flight.request = request ∧ flight.outcome = outcome ∧
        flight.stage = .finished (.delivered entry.handle) := by
  have hregistry : ({ registry := (({} : Registry).add entry).1 } : Dispatcher).registry =
      (({} : Registry).add entry).1 := rfl
  obtain ⟨harrived, hadmitted, hchoosing⟩ := advance_sole hjoins request hselector hregistry
  have hstart : Alone ((({} : Traffic).perform (.operate (.add entry))).perform
      (.start request outcome)) request outcome
        ({ registry := (({} : Registry).add entry).1 }, .arrived) :=
    ⟨rfl, _, rfl, rfl, rfl, rfl⟩
  -- the dispatch arrives, looks at the pool and takes the only connection, whose link answers
  have hfirst := hstart.step rfl
  rw [harrived] at hfirst
  have hsecond := hfirst.step rfl
  rw [hadmitted] at hsecond
  have hthird := hsecond.step rfl
  obtain ⟨flight, hflights, hrequest, houtcome, hstage⟩ := (hthird.answer hchoosing 0).flights
  refine ⟨flight, ?_, hrequest, houtcome, hstage⟩
  rw [soleDelivery]
  simp only [run_cons, run_nil, hflights]
  exact List.mem_singleton_self flight

/-! ## The main result -/

/-- **Required transports.** All deliveries of a request, in all runs in which no id is registered a
second time and only certain connections are registered, are to connections that offer the transport
it requires, if and only if the request is sent to no pool or all those connections that would
belong to the pool offer the transport. So this always holds of a request that is sent to a uri, and
for a pool nothing but the connections in it can make it hold. -/
theorem delivered_transport_iff (allowed : Entry → Prop) (request : Request) (outcome : Outcome) :
    (∀ acts, ({} : Traffic).FreshAll acts →
      (∀ entry, Act.operate (.add entry) ∈ acts → allowed entry) →
      ∀ flight ∈ (({} : Traffic).run acts).flights,
        flight.request = request → flight.outcome = outcome →
        ∀ handle, flight.stage = .finished (.delivered handle) →
          handle.transport.satisfies request.requiredTransport = true) ↔
      ∀ selector, outcome.selector? = some selector →
        ∀ entry, allowed entry → entry.Joins selector →
          entry.handle.transport.satisfies request.requiredTransport = true := by
  constructor
  · intro hdelivered selector hselector entry hallowed hjoins
    obtain ⟨flight, hflight, hrequest, houtcome, hstage⟩ :=
      exists_delivered hjoins request hselector
    refine hdelivered (soleDelivery entry request outcome) ?_ ?_ flight hflight hrequest houtcome
      entry.handle hstage
    · exact ⟨List.not_mem_nil, trivial, trivial, trivial, trivial, trivial, trivial⟩
    · intro other hother
      simp only [soleDelivery, List.mem_cons, Act.operate.injEq, Op.add.injEq, reduceCtorEq,
        List.not_mem_nil, or_false] at hother
      rw [hother]
      exact hallowed
  · intro hpool acts hfresh hallowed flight hflight hrequest houtcome handle hstage
    have hguided := ((guided_empty allowed).run hfresh hallowed).flights flight hflight
    rw [Flight.Guided, hstage] at hguided
    have hmay : flight.MayReach allowed handle := hguided
    rw [Flight.MayReach, houtcome, hrequest] at hmay
    cases hselector : outcome.selector? with
    | none =>
      rw [hselector] at hmay
      exact hmay
    | some selector =>
      rw [hselector] at hmay
      obtain ⟨entry, hentry, hjoins, rfl⟩ := hmay
      exact hpool selector hselector entry hentry hjoins

/-- Two applications connect, the first one without and the second one with encryption, and a
request that requires encryption is sent to their pool. -/
def plainFirst : List Act :=
  [.operate (.add ⟨⟨1, .inbound, .plain, .empty, none, none, 1⟩, .connecting⟩),
    .operate (.add ⟨⟨2, .inbound, .tls, .empty, none, none, 2⟩, .connecting⟩),
    .start { transactionId := "t1", method := "INVITE", uri := "sip:callee",
             requiredTransport := some .tls } .routeDefault,
    .flight 0 .step,
    .flight 0 .step,
    .flight 0 .step,
    .flight 0 (.answer 0 (.ok ()))]

theorem delivered_over_plain :
    ({} : Traffic).FreshAll plainFirst ∧
      ∃ flight ∈ (({} : Traffic).run plainFirst).flights, ∃ handle,
        flight.request.requiredTransport = some .tls ∧
          flight.stage = .finished (.delivered handle) ∧
          handle.transport.satisfies flight.request.requiredTransport = false := by
  have hnew : (2 : EntryId) ∉ (({} : Traffic).perform (.operate (.add
      ⟨⟨1, .inbound, .plain, .empty, none, none, 1⟩, .connecting⟩))).known := by decide
  have hfresh : ({} : Traffic).FreshAll plainFirst :=
    ⟨List.not_mem_nil, hnew, trivial, trivial, trivial, trivial, trivial, trivial⟩
  have hrecords : (({} : Traffic).run plainFirst).flights.map (fun flight =>
      (flight.request.requiredTransport, flight.stage)) =
        [(some .tls, .finished (.delivered
          ⟨1, .inbound, .plain, .empty, none, none, 1⟩))] := by cbv
  obtain ⟨flight, hflight, hrecord⟩ := List.mem_map.1 (hrecords ▸ List.mem_singleton_self _)
  simp only [Prod.mk.injEq] at hrecord
  obtain ⟨hrequired, hstage⟩ := hrecord
  refine ⟨hfresh, flight, hflight, _, hrequired, hstage, ?_⟩
  rw [hrequired]
  rfl

end Traffic

end CallDispatch
