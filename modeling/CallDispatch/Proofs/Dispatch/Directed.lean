import CallDispatch.Proofs.Dispatch.Transports
import CallDispatch.Proofs.Registry.Cache

/-!
# Dispatches to the application at a uri

A dispatch to a uri looks the connection up there and reserves a call on it later, by its id. As
long as one connection is found at the uri, all dispatches that look it up meanwhile go to that one
or to none (`Traffic.directed_run`): between the two accesses it may be closed, but nobody takes its
place. The connection found is the one dialed there last, so this goes on while it is active and
nobody else is dialed at the uri (`findTarget_latest`).

## Main definitions

* `Flight.Directed`: what each stage of a dispatch says if one connection is the only one to try.
* `Traffic.Directed`: this holds of the dispatches that have looked up nothing before.
-/

namespace CallDispatch

open Registry

/-- A dispatch to a uri goes to one connection or to none. -/
def Flight.Directed (handle : Handle) (flight : Flight) : Prop :=
  match flight.stage with
  | .arrived => flight.asked = []
  | .located _ id => id = handle.id ∧ flight.asked = []
  | .waiting attempt => (∃ uri, attempt.route = .direct uri) ∧ flight.asked = [handle]
  | .finished _ | .cancelled => flight.asked = [] ∨ flight.asked = [handle]
  | .admitted _ | .choosing .. => False

/-! ## One dispatch -/

namespace Flight

variable {uri : String} {handle : Handle} {flight flight' : Flight}
  {dispatcher dispatcher' : Dispatcher} {op : Option Op}

/-- The stage of a dispatch is all that matters, with the connections that were asked. -/
lemma Directed.congr (h : flight.Directed handle) (hstage : flight'.stage = flight.stage)
    (hasked : flight'.asked = flight.asked) : flight'.Directed handle := by
  unfold Directed at h ⊢
  rw [hstage, hasked]
  exact h

/-- A dispatch that has looked up nothing asks nobody. -/
lemma Directed.of_arrived (hstage : flight.stage = .arrived) (hasked : flight.asked = []) :
    flight.Directed handle := by
  unfold Directed
  rw [hstage]
  exact hasked

/-- A dispatch to a uri asks one connection once, or nobody. -/
lemma Directed.asked (h : flight.Directed handle) :
    flight.asked = [] ∨ flight.asked = [handle] := by
  unfold Directed at h
  cases hstage : flight.stage with
  | arrived =>
    rw [hstage] at h
    exact Or.inl h
  | located target id =>
    rw [hstage] at h
    exact Or.inl h.2
  | waiting attempt =>
    rw [hstage] at h
    exact Or.inr h.2
  | finished | cancelled =>
    rw [hstage] at h
    exact h
  | admitted | choosing =>
    rw [hstage] at h
    exact h.elim

/-- Only a dispatch to which nothing has happened has looked up nothing. -/
lemma Moves.eq_of_arrived (h : flight.Moves dispatcher op dispatcher' flight')
    (hstage : flight'.stage = .arrived) : flight' = flight := by
  cases h with
  | stay => rfl
  | _ => cases hstage

/-- Every move of a dispatch to a uri keeps to the connection that is found there. -/
lemma Directed.move (h : flight.Directed handle) (houtcome : flight.outcome = .routeByUri uri)
    (hmove : flight.Moves dispatcher op dispatcher' flight')
    (hlocated : ∀ target id, flight.stage = .arrived → flight'.stage = .located target id →
      id = handle.id)
    (hascending : dispatcher.registry.Ascending)
    (hfound : dispatcher.registry.findTarget uri = some handle) : flight'.Directed handle := by
  unfold Directed at h
  cases hmove with
  | stay => exact h
  | refuse error hstage =>
    left
    rcases hstage with hstage | ⟨selector, hstage⟩
    · rw [hstage] at h
      exact h
    · rw [hstage] at h
      exact h.elim
  | enter selector hstage hselector =>
    rw [houtcome] at hselector
    cases hselector
  | locate target id hstage hselector =>
    rw [hstage] at h
    exact ⟨hlocated target id hstage rfl, h⟩
  | vanish target id hstage hreserve =>
    rw [hstage] at h
    exact Or.inl h.2
  | reach target id reservation hstage hreserve =>
    rw [hstage] at h
    obtain ⟨hid, hasked⟩ := h
    -- the call is reserved on the connection with the id, which is the one found at the uri
    have hhandle : reservation.handle = handle := by
      obtain ⟨slot, hslot, -, rfl⟩ := exists_of_findTarget hfound
      obtain ⟨other, hfind, -, hhandle⟩ := exists_slot_of_reserveEntry hreserve
      rw [← hhandle, hascending.eq_of_find? hfind hslot hid.symm]
    refine ⟨⟨target, rfl⟩, ?_⟩
    show reservation.handle :: flight.asked = [handle]
    rw [hhandle, hasked]
  | accept attempt hstage | oversize attempt length hstage | giveUp attempt hstage =>
    rw [hstage] at h
    exact Or.inr h.2
  | retry now attempt selector tries failed hstage hroute =>
    rw [hstage] at h
    obtain ⟨⟨target, hdirect⟩, -⟩ := h
    rw [hdirect] at hroute
    cases hroute
  | lose now attempt target hstage hroute =>
    rw [hstage] at h
    exact Or.inr h.2
  | giveUpPending hpending =>
    left
    cases hstage : flight.stage with
    | arrived =>
      rw [hstage] at h
      exact h
    | located target id =>
      rw [hstage] at h
      exact h.2
    | admitted | choosing =>
      rw [hstage] at h
      exact h.elim
    | waiting | finished | cancelled =>
      rw [hstage] at hpending
      cases hpending
  | look _ _ hstage | exhaust _ _ hstage | miss _ _ _ hstage | choose _ _ _ _ hstage =>
    rw [hstage] at h
    exact h.elim

/-- Every event of a dispatch to a uri keeps to the connection that is found there. -/
lemma Directed.after (h : flight.Directed handle) (houtcome : flight.outcome = .routeByUri uri)
    (hascending : dispatcher.registry.Ascending)
    (hfound : dispatcher.registry.findTarget uri = some handle) (event : Event) :
    (flight.after dispatcher event).2.Directed handle := by
  apply h.move houtcome (flight.moves_after dispatcher event) _ hascending hfound
  intro target id hstage hlocated
  obtain ⟨other, hother, hthere, rfl, -⟩ := located_after hstage hlocated
  have htarget : uri = target := by
    rw [houtcome] at hother
    exact Outcome.routeByUri.inj hother
  rw [← htarget, hfound] at hthere
  exact congrArg Handle.id (Option.some.inj hthere).symm

end Flight

/-! ## All dispatches -/

namespace Traffic

variable {traffic earlier : Traffic} {act : Act} {uri : String} {handle : Handle}

/-- The dispatches to a uri go to one connection or to none, apart from those that had looked
something up earlier. -/
def Directed (uri : String) (handle : Handle) (earlier traffic : Traffic) : Prop :=
  ∀ (i : Nat) (flight : Flight), traffic.flights[i]? = some flight →
    flight.outcome = .routeByUri uri →
    (∀ old, earlier.flights[i]? = some old → old.stage = .arrived) → flight.Directed handle

/-- The flight at an index after an act was there before, has just been started or has just
moved; besides, its record watches the registry. -/
lemma getElem?_flights_perform {i : Nat} {flight : Flight}
    (h : (traffic.perform act).flights[i]? = some flight) :
    ∃ bare, flight = bare.watched traffic.registry (traffic.proceed act).registry ∧
      (traffic.flights[i]? = some bare ∨ (∃ request outcome, bare = { request, outcome }) ∨
        ∃ old event, traffic.flights[i]? = some old ∧
          bare = (old.after traffic.dispatcher event).2) := by
  have hmap : ((traffic.proceed act).flights.map
      (Flight.watched traffic.registry (traffic.proceed act).registry))[i]? = some flight := h
  rw [List.getElem?_map] at hmap
  obtain ⟨bare, hbare, rfl⟩ := Option.map_eq_some_iff.1 hmap
  refine ⟨bare, rfl, ?_⟩
  cases act with
  | start request outcome =>
    have happend : (traffic.flights ++ [({ request, outcome } : Flight)])[i]? = some bare := hbare
    rcases Nat.lt_or_ge i traffic.flights.length with hlt | hge
    · rw [List.getElem?_append_left hlt] at happend
      exact Or.inl happend
    · rw [List.getElem?_append_right hge] at happend
      have hnew : bare ∈ [({ request, outcome } : Flight)] := List.mem_of_getElem? happend
      exact Or.inr (Or.inl ⟨request, outcome, List.mem_singleton.1 hnew⟩)
  | flight index event =>
    simp only [proceed] at hbare
    cases hold : traffic.flights[index]? with
    | none =>
      rw [hold] at hbare
      exact Or.inl hbare
    | some old =>
      simp only [hold] at hbare
      by_cases hindex : index = i
      · subst hindex
        rw [List.getElem?_set_self (List.getElem?_eq_some_iff.1 hold).1] at hbare
        exact Or.inr (Or.inr ⟨old, event, hold, (Option.some.inj hbare).symm⟩)
      · rw [List.getElem?_set_ne hindex] at hbare
        exact Or.inl hbare
  | operate op =>
    simp only [proceed, operate] at hbare
    split at hbare
    · split at hbare <;> exact Or.inl hbare
    · exact Or.inl hbare
  | callEnded | peerDisconnected | purge => exact Or.inl hbare

/-- The dispatches keep to the connection that is found at the uri. -/
lemma Directed.perform (h : Directed uri handle earlier traffic)
    (hascending : traffic.registry.Ascending)
    (hfound : traffic.registry.findTarget uri = some handle) (act : Act) :
    Directed uri handle earlier (traffic.perform act) := by
  intro i flight hflight houtcome hlate
  obtain ⟨bare, rfl, hfrom⟩ := getElem?_flights_perform hflight
  have hbare : bare.Directed handle := by
    rcases hfrom with hold | ⟨request, outcome, rfl⟩ | ⟨old, event, hold, rfl⟩
    · exact h i bare hold houtcome hlate
    · rfl
    · have hsame : old.outcome = .routeByUri uri :=
        ((old.moves_after traffic.dispatcher event).same.2).symm.trans houtcome
      exact (h i old hold hsame hlate).after hsame hascending hfound event
  exact hbare.congr rfl rfl

/-- The dispatches keep to one connection while it is found at the uri. -/
lemma directed_run (h : Directed uri handle earlier traffic)
    (hconsistent : traffic.registry.Consistent) {acts : List Act}
    (hfound : ∀ first, first <+: acts →
      (traffic.run first).registry.findTarget uri = some handle) :
    Directed uri handle earlier (traffic.run acts) := by
  induction acts generalizing traffic with
  | nil => exact h
  | cons act acts ih =>
    have hnow : traffic.registry.findTarget uri = some handle := hfound [] List.nil_prefix
    apply ih
    · exact h.perform hconsistent.ascending hnow act
    · exact consistent_perform hconsistent act
    · intro first hfirst
      exact hfound (act :: first) (List.cons_prefix_cons.2 ⟨rfl, hfirst⟩)

/-- A dispatch that has looked up nothing goes on to ask nobody as long as that is so. -/
lemma asked_of_arrived (acts : List Act)
    (h : ∀ flight ∈ traffic.flights, flight.stage = .arrived → flight.asked = []) :
    ∀ flight ∈ (traffic.run acts).flights, flight.stage = .arrived → flight.asked = [] := by
  induction acts generalizing traffic with
  | nil => exact h
  | cons act acts ih =>
    apply ih
    intro watched hwatched hstage
    obtain ⟨flight, hflight, rfl⟩ := List.mem_map.1 hwatched
    show flight.asked = []
    rcases mem_flights_proceed hflight with hold | ⟨request, outcome, rfl⟩ | ⟨old, hold, event, rfl⟩
    · exact h flight hold hstage
    · rfl
    · have hsame := (old.moves_after traffic.dispatcher event).eq_of_arrived hstage
      rw [hsame]
      exact h old hold (hsame ▸ hstage)

/-- At any moment the dispatches that have looked up nothing yet may still go anywhere. -/
lemma directed_self (acts : List Act) (uri : String) (handle : Handle) :
    Directed uri handle (({} : Traffic).run acts) (({} : Traffic).run acts) := by
  intro i flight hflight _ hlate
  have hstage : flight.stage = .arrived := hlate flight hflight
  have hasked : flight.asked = [] :=
    asked_of_arrived acts (by simp) flight (List.mem_of_getElem? hflight) hstage
  exact Flight.Directed.of_arrived hstage hasked

/-- The registry in the course of a run of acts is that of a step of its operations. -/
lemma registry_run_eq_stateAt (before behind : List Act) :
    (({} : Traffic).run before).registry =
      stateAt (({} : Traffic).ops (before ++ behind)) (({} : Traffic).ops before).length := by
  rw [registry_run, stateAt, ops_append, List.take_left]
  rfl

/-- The connection dialed last at a uri in a run, if it is active in the end, is found there from
its dial on. -/
lemma findTarget_between {before behind : List Act} {k : Nat}
    (hlatest : LatestDial (({} : Traffic).ops (before ++ behind)) uri handle k
      (({} : Traffic).ops (before ++ behind)).length)
    (hk : k < (({} : Traffic).ops before).length)
    (hactive : (({} : Traffic).run (before ++ behind)).registry.phase handle.id = .active)
    {first : List Act} (hfirst : first <+: behind) :
    ((({} : Traffic).run before).run first).registry.findTarget uri = some handle := by
  obtain ⟨rest, rfl⟩ := hfirst
  have hend := registry_run_eq_stateAt (before ++ (first ++ rest)) []
  have hbetween := registry_run_eq_stateAt (before ++ first) rest
  rw [List.append_nil] at hend
  rw [List.append_assoc] at hbetween
  rw [hend] at hactive
  rw [← run_append, hbetween]
  -- the moment lies behind the dial and not behind the end
  have hbehind : (({} : Traffic).ops before).length ≤
      (({} : Traffic).ops (before ++ first)).length := by
    rw [ops_append, List.length_append]
    omega
  have hahead : (({} : Traffic).ops (before ++ first)).length ≤
      (({} : Traffic).ops (before ++ (first ++ rest))).length := by
    rw [← List.append_assoc, ops_append _ (before ++ first), List.length_append]
    omega
  exact hlatest.findTarget hactive (by omega) hahead

/-! ## The main result -/

/-- **The latest dial.** After any operations the connection found at a uri is exactly the one of
the last successful registration with that uri as its target, provided that it has been registered
ever since and is active. An operation that dials nobody there leaves it to be found, if it stays
active or if the operation closes or drains somebody else or ends a call of somebody else. And in
any run of acts in which it was dialed before some moment, and is still active at the end with
nobody else dialed at the uri since, each dispatch to the uri that has looked up nothing by that
moment asks this connection once, or nobody. -/
theorem findTarget_latest :
    (∀ (ops : List Op) (uri : String) (handle : Handle),
      (({} : Registry).run ops).findTarget uri = some handle ↔
        (∃ k, LatestDial ops uri handle k ops.length) ∧
          (({} : Registry).run ops).phase handle.id = .active) ∧
    (∀ (ops : List Op) (uri : String) (handle : Handle) (op : Op),
      (({} : Registry).run ops).findTarget uri = some handle →
      (({} : Registry).run ops).dialed? uri op = none →
      ((({} : Registry).run (ops ++ [op])).phase handle.id = .active ∨
        ∃ id, op.against? = some id ∧ id ≠ handle.id) →
      (({} : Registry).run (ops ++ [op])).findTarget uri = some handle) ∧
    ∀ (before behind : List Act) (uri : String) (handle : Handle) (k : Nat),
      let ops := ({} : Traffic).ops (before ++ behind)
      let later := ({} : Traffic).run (before ++ behind)
      LatestDial ops uri handle k ops.length → k < (({} : Traffic).ops before).length →
      later.registry.phase handle.id = .active →
      ∀ (i : Nat) (flight : Flight), later.flights[i]? = some flight →
        flight.outcome = .routeByUri uri →
        (∀ old, (({} : Traffic).run before).flights[i]? = some old → old.stage = .arrived) →
        flight.asked = [] ∨ flight.asked = [handle] := by
  refine ⟨?_, ?_, ?_⟩
  · intro ops uri handle
    have hwhole : ({} : Registry).run ops = stateAt ops ops.length := by
      rw [stateAt, List.take_length]
    rw [hwhole]
    exact findTarget_stateAt_iff ops uri handle ops.length
  · intro ops uri handle op hfound hnone hstays
    have h : (({} : Registry).run ops).Consistent := consistent_run ops
    have hafter : ({} : Registry).run (ops ++ [op]) = (({} : Registry).run ops).after op := by
      rw [Registry.run, List.foldl_append]
      rfl
    rw [hafter] at hstays ⊢
    rcases hstays with hactive | ⟨id, hagainst, hne⟩
    · exact findTarget_after_of_active h hfound hnone hactive
    · exact findTarget_after_of_against h hagainst hfound hne
  · intro before behind uri handle k ops later hlatest hk hactive i flight hflight houtcome hlate
    have hconsistent : (({} : Traffic).run before).registry.Consistent := by
      rw [registry_run]
      exact consistent_run _
    have hend := directed_run (directed_self before uri handle) hconsistent
      fun _ hfirst => findTarget_between hlatest hk hactive hfirst
    rw [← run_append] at hend
    exact (hend i flight hflight houtcome hlate).asked

/-- An application is dialed and has a call when its peer disconnects, a request for it comes, and
another connection is dialed at the same uri. -/
def dialedTwice : List Act :=
  [.operate (.add ⟨⟨1, .outbound, .plain, .empty, some "sip:app", none, 1⟩, .connecting⟩),
    .operate (.reserveEntry 1),
    .peerDisconnected 0 1,
    .start { transactionId := "t", method := "INVITE", uri := "sip:callee" }
      (.routeByUri "sip:app"),
    .operate (.add ⟨⟨2, .outbound, .plain, .empty, some "sip:app", none, 2⟩, .connecting⟩)]

/-- The call of the first connection ends, which closes it, and the request is delivered. -/
def firstCloses : List Act :=
  [.operate (.release 1), .flight 0 .step, .flight 0 .step, .flight 0 (.answer 0 (.ok ()))]

theorem findTarget_latest_dialedTwice :
    let ops := ({} : Traffic).ops (dialedTwice ++ firstCloses)
    let later := ({} : Traffic).run (dialedTwice ++ firstCloses)
    let handle : Handle := ⟨2, .outbound, .plain, .empty, some "sip:app", none, 2⟩
    LatestDial ops "sip:app" handle 3 ops.length ∧
      (({} : Registry).run ops).findTarget "sip:app" = some handle ∧
      (({} : Registry).run ((ops.take 4) ++ [.release 1])).findTarget "sip:app" = some handle ∧
      (({} : Registry).run ((ops.take 4) ++ [.release 1])).phase 1 = .closed ∧
      ∃ flight, later.flights[0]? = some flight ∧ flight.accepted = [handle] ∧
        (flight.asked = [] ∨ flight.asked = [handle]) := by
  intro ops later handle
  have hdials : ∀ m < 6, 3 < m → dialedAt ops "sip:app" m = none := by decide
  have hregistered : ∀ m < 7, 3 < m → (stateAt ops m).contains 2 = true := by decide
  have hlatest : LatestDial ops "sip:app" handle 3 6 :=
    ⟨by decide, by decide, fun m hkm hmn => hdials m hmn hkm,
      fun m hkm hmn => hregistered m (Nat.lt_succ_of_le hmn) hkm⟩
  have hflight : ∃ flight, later.flights[0]? = some flight ∧
      flight.outcome = .routeByUri "sip:app" ∧ flight.accepted = [handle] :=
    ⟨_, rfl, by decide, by decide⟩
  obtain ⟨flight, hflight, houtcome, haccepted⟩ := hflight
  have hlate : ∀ old, (({} : Traffic).run dialedTwice).flights[0]? = some old →
      old.stage = .arrived := by
    intro old hold
    cases hold
    rfl
  refine ⟨hlatest, ?_, ?_, by decide, flight, hflight, haccepted, ?_⟩
  · exact (findTarget_latest.1 ops "sip:app" handle).2 ⟨⟨3, hlatest⟩, by decide⟩
  · exact findTarget_latest.2.1 (ops.take 4) "sip:app" handle (.release 1) (by decide) rfl
      (Or.inr ⟨1, rfl, by decide⟩)
  · exact findTarget_latest.2.2 dialedTwice firstCloses "sip:app" handle 3 hlatest (by decide)
      (by decide) 0 flight hflight houtcome hlate

end Traffic

end CallDispatch
