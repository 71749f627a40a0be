import CallDispatch.Proofs.Dispatch.Stages

/-!
# Flights

A flight is one dispatch with a record of what happened to it: which connections it could have
selected when it looked at its pool, which of them it asked to take the request, which of them did,
and whether the pool has got new connections since. The record has no influence on the dispatch.
Each event of a flight makes at most one operation of the registry (`Flight.op?`), and `Moves` lists
all that an event can do.

## Main definitions

* `Flight`: a dispatch with its record.
* `Flight.after`: what an event does to a flight and to the dispatcher.
* `Flight.Moves`: the ways in which a flight goes on.
-/

namespace CallDispatch

open Text

/-- A dispatch with a record of what happened to it. -/
structure Flight where
  request : Request
  outcome : Outcome
  stage : Stage := .arrived
  /-- The connections that were eligible when the dispatch looked at its pool. -/
  observed : List EntryId := []
  /-- The connections whose links were asked to take the request, the last one first. -/
  asked : List Handle := []
  /-- The connections whose links took the request. -/
  accepted : List Handle := []
  /-- Whether a connection has become eligible since the dispatch looked at its pool. -/
  renewed : Bool := false

/-- What can happen to a flight. -/
inductive Event
  /-- The dispatch goes on by itself. -/
  | step
  | answer (now : Nat) (result : Except LinkError Unit)
  | cancel

namespace Flight

/-- The connections that the dispatch could select from its pool. -/
def eligible (flight : Flight) (registry : Registry) : List EntryId :=
  match flight.outcome.selector? with
  | none => []
  | some selector => registry.members selector (some flight.request.method)

/-- The flight after the registry has changed: the record says if a connection became eligible. -/
def watched (before now : Registry) (flight : Flight) : Flight :=
  { flight with renewed := flight.renewed ||
      (flight.eligible now).any (!(flight.eligible before).contains ·) }

/-- The flight after its dispatch went on by itself to another stage. -/
def stepped (flight : Flight) (registry : Registry) (stage : Stage) : Flight :=
  match flight.stage, stage with
  | .admitted _, .choosing .. =>
    { flight with stage, observed := flight.eligible registry, renewed := false }
  | _, .waiting attempt =>
    { flight with stage, asked := attempt.reservation.handle :: flight.asked }
  | _, _ => { flight with stage }

/-- The flight after the link of an attempt answered. -/
def answered (flight : Flight) (attempt : Attempt) (result : Except LinkError Unit)
    (stage : Stage) : Flight :=
  match result with
  | .ok () => { flight with stage, accepted := attempt.reservation.handle :: flight.accepted }
  | .error _ => { flight with stage }

/-- What an event does. Nothing happens if it does not fit the stage of the dispatch. -/
def after (flight : Flight) (dispatcher : Dispatcher) : Event → Dispatcher × Flight
  | .step =>
    if flight.stage.isPending then
      let (next, stage) := dispatcher.advance flight.request flight.outcome flight.stage
      (next, flight.stepped dispatcher.registry stage)
    else (dispatcher, flight)
  | .answer now result =>
    match flight.stage with
    | .waiting attempt =>
      let (next, stage) := dispatcher.respond now attempt result
      (next, flight.answered attempt result stage)
    | _ => (dispatcher, flight)
  | .cancel =>
    match flight.stage with
    | .waiting attempt => (dispatcher.cancel attempt, { flight with stage := .cancelled })
    | .finished _ | .cancelled => (dispatcher, flight)
    | _ => (dispatcher, { flight with stage := .cancelled })

/-- The operation of the registry that an event makes. -/
def op? (flight : Flight) (dispatcher : Dispatcher) : Event → Option Registry.Op
  | .step =>
    match flight.stage with
    | .choosing selector (_ + 1) failed =>
      some (.reserve selector (some flight.request.method) failed)
    | .located _ id => some (.reserveEntry id)
    | _ => none
  | .answer now result =>
    match flight.stage with
    | .waiting attempt =>
      match result with
      | .ok () => (dispatcher.callOf attempt.request.transactionId).map .release
      | .error (.tooLarge _) => some (.rollBack attempt.reservation)
      | .error _ => some (.abandonDead now attempt.reservation)
    | _ => none
  | .cancel =>
    match flight.stage with
    | .waiting attempt => some (.rollBack attempt.reservation)
    | _ => none

end Flight

/-- The dispatcher after an operation on its registry. -/
def Dispatcher.operate (dispatcher : Dispatcher) (op : Registry.Op) : Dispatcher :=
  { dispatcher with registry := dispatcher.registry.after op }

namespace Flight

/-- The ways in which a flight goes on: the operation made, and the dispatcher and the flight
afterwards. -/
inductive Moves (dispatcher : Dispatcher) (flight : Flight) :
    Option Registry.Op → Dispatcher → Flight → Prop
  | stay : Moves dispatcher flight none dispatcher flight
  | refuse (error : DispatchError) (hstage : flight.stage = .arrived ∨
      ∃ selector, flight.stage = .admitted selector) :
    Moves dispatcher flight none dispatcher { flight with stage := .finished (.rejected error) }
  | enter (selector : Selector) (hstage : flight.stage = .arrived)
      (hselector : flight.outcome.selector? = some selector) :
    Moves dispatcher flight none dispatcher { flight with stage := .admitted selector }
  | locate (uri : String) (id : EntryId) (hstage : flight.stage = .arrived)
      (hselector : flight.outcome.selector? = none) :
    Moves dispatcher flight none dispatcher { flight with stage := .located uri id }
  | look (selector : Selector) (tries : Nat) (hstage : flight.stage = .admitted selector)
      (htries : tries =
        (dispatcher.registry.members selector (some flight.request.method)).length) :
    Moves dispatcher flight none dispatcher { flight with
      stage := .choosing selector tries []
      observed := flight.eligible dispatcher.registry
      renewed := false }
  /-- As many connections have failed as the dispatch may try. -/
  | exhaust (selector : Selector) (failed : List EntryId)
      (hstage : flight.stage = .choosing selector 0 failed) :
    Moves dispatcher flight none dispatcher
      { flight with stage := .finished (.rejected .noAppsConnected) }
  /-- All connections of the pool have failed. -/
  | miss (selector : Selector) (tries : Nat) (failed : List EntryId)
      (hstage : flight.stage = .choosing selector (tries + 1) failed)
      (hreserve : (dispatcher.registry.reserve selector (some flight.request.method) failed).2 =
        none)
      (hfailed : ∀ id ∈ dispatcher.registry.members selector (some flight.request.method),
        id ∈ failed) :
    Moves dispatcher flight (some (.reserve selector (some flight.request.method) failed))
      (dispatcher.operate (.reserve selector (some flight.request.method) failed))
      { flight with stage := .finished (.rejected .noAppsConnected) }
  | choose (selector : Selector) (tries : Nat) (failed : List EntryId) (reservation : Reservation)
      (hstage : flight.stage = .choosing selector (tries + 1) failed)
      (hreserve : (dispatcher.registry.reserve selector (some flight.request.method) failed).2 =
        some reservation)
      (hmem : reservation.handle.id ∈
        dispatcher.registry.members selector (some flight.request.method))
      (hnew : reservation.handle.id ∉ failed) :
    Moves dispatcher flight (some (.reserve selector (some flight.request.method) failed))
      (dispatcher.operate (.reserve selector (some flight.request.method) failed))
      { flight with
        stage := .waiting ⟨flight.request, .pooled selector tries failed, reservation⟩
        asked := reservation.handle :: flight.asked }
  /-- The connection dialed at the uri has gone. -/
  | vanish (uri : String) (id : EntryId) (hstage : flight.stage = .located uri id)
      (hreserve : (dispatcher.registry.reserveEntry id).2 = none) :
    Moves dispatcher flight (some (.reserveEntry id)) (dispatcher.operate (.reserveEntry id))
      { flight with stage := .finished (.rejected (.noSuchTarget uri)) }
  | reach (uri : String) (id : EntryId) (reservation : Reservation)
      (hstage : flight.stage = .located uri id)
      (hreserve : (dispatcher.registry.reserveEntry id).2 = some reservation) :
    Moves dispatcher flight (some (.reserveEntry id)) (dispatcher.operate (.reserveEntry id))
      { flight with
        stage := .waiting ⟨flight.request, .direct uri, reservation⟩
        asked := reservation.handle :: flight.asked }
  | accept (attempt : Attempt) (hstage : flight.stage = .waiting attempt) :
    Moves dispatcher flight ((dispatcher.callOf attempt.request.transactionId).map .release)
      (dispatcher.bind attempt.request.transactionId attempt.reservation.handle.id)
      { flight with
        stage := .finished (.delivered attempt.reservation.handle)
        accepted := attempt.reservation.handle :: flight.accepted }
  /-- The link does not take a message of that length. -/
  | oversize (attempt : Attempt) (length : Nat) (hstage : flight.stage = .waiting attempt) :
    Moves dispatcher flight (some (.rollBack attempt.reservation))
      (dispatcher.operate (.rollBack attempt.reservation))
      { flight with stage := .finished (.rejected (.messageTooLarge length)) }
  /-- The peer is dead, and another connection of the pool may be tried. -/
  | retry (now : Nat) (attempt : Attempt) (selector : Selector) (tries : Nat)
      (failed : List EntryId) (hstage : flight.stage = .waiting attempt)
      (hroute : attempt.route = .pooled selector tries failed) :
    Moves dispatcher flight (some (.abandonDead now attempt.reservation))
      (dispatcher.operate (.abandonDead now attempt.reservation))
      { flight with stage := .choosing selector tries (attempt.reservation.handle.id :: failed) }
  /-- The peer is dead, and it was the only one to try. -/
  | lose (now : Nat) (attempt : Attempt) (uri : String) (hstage : flight.stage = .waiting attempt)
      (hroute : attempt.route = .direct uri) :
    Moves dispatcher flight (some (.abandonDead now attempt.reservation))
      (dispatcher.operate (.abandonDead now attempt.reservation))
      { flight with stage := .finished (.rejected (.noSuchTarget uri)) }
  | giveUp (attempt : Attempt) (hstage : flight.stage = .waiting attempt) :
    Moves dispatcher flight (some (.rollBack attempt.reservation))
      (dispatcher.operate (.rollBack attempt.reservation)) { flight with stage := .cancelled }
  | giveUpPending (hstage : flight.stage.isPending = true) :
    Moves dispatcher flight none dispatcher { flight with stage := .cancelled }

/-! ## Every event is one of the moves -/

variable {flight : Flight} {dispatcher : Dispatcher}

/-- What a step of a flight does whose dispatch can go on by itself. -/
lemma after_step (hpending : flight.stage.isPending = true) :
    flight.after dispatcher .step =
      ((dispatcher.advance flight.request flight.outcome flight.stage).1,
        flight.stepped dispatcher.registry
          (dispatcher.advance flight.request flight.outcome flight.stage).2) := by
  rw [after, if_pos hpending]

/-- Going on by itself is a move. -/
lemma moves_step (flight : Flight) (dispatcher : Dispatcher) :
    flight.Moves dispatcher (flight.op? dispatcher .step) (flight.after dispatcher .step).1
      (flight.after dispatcher .step).2 := by
  cases hstage : flight.stage with
  | arrived =>
    rw [after_step (by rw [hstage]; rfl)]
    simp only [op?, hstage, Dispatcher.advance, stepped]
    rcases Dispatcher.arrive_cases with ⟨e, harrive⟩ | ⟨selector, hselector, harrive⟩ |
      ⟨uri, id, hselector, harrive⟩
    · rw [harrive]
      exact .refuse e (Or.inl hstage)
    · rw [harrive]
      exact .enter selector hstage hselector
    · rw [harrive]
      exact .locate uri id hstage hselector
  | admitted selector =>
    rw [after_step (by rw [hstage]; rfl)]
    simp only [op?, hstage, Dispatcher.advance, stepped]
    rcases Dispatcher.look_cases with ⟨e, hlook⟩ | hlook
    · rw [hlook]
      exact .refuse e (Or.inr ⟨selector, hstage⟩)
    · rw [hlook]
      exact .look selector _ hstage rfl
  | choosing selector tries failed =>
    rw [after_step (by rw [hstage]; rfl)]
    cases tries with
    | zero =>
      simp only [op?, hstage, Dispatcher.advance, Dispatcher.tryNext, Progress.stage, stepped]
      exact .exhaust selector failed hstage
    | succ tries =>
      -- the pool has nobody left to select, or a call is reserved and the link is asked
      simp only [op?, hstage, Dispatcher.advance, Dispatcher.tryNext]
      split
      · next registry hreserve =>
        have hmiss := Moves.miss selector tries failed hstage (congrArg Prod.snd hreserve)
          (Registry.mem_of_reserve_eq_none (congrArg Prod.snd hreserve))
        simpa only [Dispatcher.operate, Registry.after, hreserve, Progress.stage, stepped, hstage]
          using hmiss
      · next registry reservation hreserve =>
        obtain ⟨hmem, hnew⟩ := Registry.mem_of_reserve_eq_some (congrArg Prod.snd hreserve)
        have hchoose := Moves.choose selector tries failed reservation hstage
          (congrArg Prod.snd hreserve) hmem hnew
        simpa only [Dispatcher.operate, Registry.after, hreserve, Progress.stage, stepped, hstage]
          using hchoose
  | located uri id =>
    rw [after_step (by rw [hstage]; rfl)]
    simp only [op?, hstage, Dispatcher.advance, Dispatcher.tryLocated]
    split
    · next registry hreserve =>
      have hvanish := Moves.vanish uri id hstage (congrArg Prod.snd hreserve)
      simpa only [Dispatcher.operate, Registry.after, hreserve, Progress.stage, stepped, hstage]
        using hvanish
    · next registry reservation hreserve =>
      have hreach := Moves.reach uri id reservation hstage (congrArg Prod.snd hreserve)
      simpa only [Dispatcher.operate, Registry.after, hreserve, Progress.stage, stepped, hstage]
        using hreach
  | waiting | finished | cancelled =>
    simp only [op?, after, hstage, Stage.isPending]
    exact .stay

/-- The answer of a link is a move. -/
lemma moves_answer (flight : Flight) (dispatcher : Dispatcher) (now : Nat)
    (result : Except LinkError Unit) :
    flight.Moves dispatcher (flight.op? dispatcher (.answer now result))
      (flight.after dispatcher (.answer now result)).1
      (flight.after dispatcher (.answer now result)).2 := by
  cases hstage : flight.stage with
  | waiting attempt =>
    simp only [op?, after, hstage]
    have hdead : flight.Moves dispatcher (some (.abandonDead now attempt.reservation))
        (dispatcher.operate (.abandonDead now attempt.reservation))
        { flight with stage := (dispatcher.respond now attempt (.error .closed)).2 } := by
      simp only [Dispatcher.respond]
      cases hroute : attempt.route with
      | pooled selector tries failed => exact .retry now attempt selector tries failed hstage hroute
      | direct uri => exact .lose now attempt uri hstage hroute
    cases result with
    | ok => exact .accept attempt hstage
    | error e =>
      cases e with
      | tooLarge length => exact .oversize attempt length hstage
      | closed | io | protocol => exact hdead
  | _ =>
    simp only [op?, after, hstage]
    exact .stay

/-- Giving up is a move. -/
lemma moves_cancel (flight : Flight) (dispatcher : Dispatcher) :
    flight.Moves dispatcher (flight.op? dispatcher .cancel) (flight.after dispatcher .cancel).1
      (flight.after dispatcher .cancel).2 := by
  cases hstage : flight.stage with
  | waiting attempt =>
    simp only [op?, after, hstage]
    exact .giveUp attempt hstage
  | finished | cancelled =>
    simp only [op?, after, hstage]
    exact .stay
  | arrived | admitted | choosing | located =>
    simp only [op?, after, hstage]
    exact .giveUpPending (by rw [hstage]; rfl)

/-- Every event is a move. -/
lemma moves_after (flight : Flight) (dispatcher : Dispatcher) (event : Event) :
    flight.Moves dispatcher (flight.op? dispatcher event) (flight.after dispatcher event).1
      (flight.after dispatcher event).2 := by
  cases event with
  | step => exact moves_step flight dispatcher
  | answer now result => exact moves_answer flight dispatcher now result
  | cancel => exact moves_cancel flight dispatcher

end Flight

end CallDispatch
