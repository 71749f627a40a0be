import CallDispatch.Dial.Dialer
import CallDispatch.Proofs.Dial.Locks
import CallDispatch.Proofs.Registry.Operations

/-!
# Errands

A caller that wants a uri dialed touches the registry and the locks several times, and between any
two of these times other callers, and anybody else, may do so. An errand is the way of one caller,
cut into steps each of which touches either of them once. The attempt to connect takes as long as it
takes; then it fails, or its connection is registered. A caller may be cancelled at any moment: it
gives its lock free and forgets no lock. Its share of the lock lasts until it is gone.

Without anything in between, the steps make up what the dialer does (`come_eq_steps`,
`exists_serve_eq_steps`).

## Main definitions

* `Errand`, `Exchange`: a caller on its way, and all of them with the registry and the locks.
* `Exchange.step`, `Exchange.conclude`, `Exchange.cancel`: what a caller does at its stage.
* `Exchange.Act`, `Exchange.run`: whatever may happen, any number of times.
-/

namespace CallDispatch

/-- How far a caller has come. -/
inductive Errand.Stage
  /-- Nothing has been looked up. -/
  | looking
  /-- No connection was found, and the caller goes for the lock of its uri. -/
  | approaching
  | waiting
  | holding
  /-- Holding the lock, the caller found no connection again, and attempts to connect. -/
  | dialing
  /-- The lock is held still. -/
  | done (result : Except DialError Handle)
  /-- The lock is free, and may have to be forgotten. -/
  | leaving (result : Except DialError Handle)
  /-- Only the share of the lock is left. Without a result the caller was cancelled. -/
  | parting (result : Option (Except DialError Handle))
  | ended (result : Option (Except DialError Handle))
deriving DecidableEq

/-- A caller on its way. -/
structure Errand where
  uri : String
  stage : Errand.Stage := .looking
deriving DecidableEq

/-- The registry and the locks, with the callers in the order in which they came. -/
structure Exchange where
  registry : Registry := {}
  locks : Locks := {}
  errands : List Errand := []
deriving DecidableEq

/-- Registers the connection that an attempt brought about, under the uri that was dialed. -/
def Registry.receive (registry : Registry) (uri : String) (outcome : Except DialError Entry) :
    Registry × Except DialError Handle :=
  match outcome with
  | .error e => (registry, .error e)
  | .ok entry =>
    let (registry, result) :=
      registry.add { entry with handle := { entry.handle with target := some uri } }
    (registry, result.mapError .registry)

/-- A connection is registered as dialed at the uri, whatever else is said of it. -/
lemma Registry.receive_ok (registry : Registry) (uri : String) (entry : Entry) :
    (registry.receive uri (.ok entry)).1 =
      registry.after (.add { entry with handle := { entry.handle with target := some uri } }) := rfl

namespace Exchange

/-- The exchange when a caller has come to another stage. -/
def put (exchange : Exchange) (caller : Nat) (errand : Errand) (stage : Errand.Stage) : Exchange :=
  { exchange with errands := exchange.errands.set caller { errand with stage } }

/-- One step of a caller that can go on by itself. -/
def step (exchange : Exchange) (caller : Nat) (errand : Errand) : Exchange :=
  match errand.stage with
  | .looking =>
    match exchange.registry.findTarget errand.uri with
    | some handle => exchange.put caller errand (.ended (some (.ok handle)))
    | none => exchange.put caller errand .approaching
  | .approaching =>
    { exchange with locks := exchange.locks.enter caller errand.uri }.put caller errand .waiting
  | .waiting =>
    match exchange.locks.acquire caller with
    | (locks, true) => { exchange with locks }.put caller errand .holding
    | (_, false) => exchange
  | .holding =>
    match exchange.registry.findTarget errand.uri with
    | some handle => exchange.put caller errand (.done (.ok handle))
    | none => exchange.put caller errand .dialing
  | .done result =>
    { exchange with locks := exchange.locks.release caller }.put caller errand (.leaving result)
  | .leaving result =>
    { exchange with locks := exchange.locks.tidy errand.uri }.put caller errand
      (.parting (some result))
  | .parting result =>
    { exchange with locks := exchange.locks.cancel caller }.put caller errand (.ended result)
  | .dialing | .ended _ => exchange

/-- The end of an attempt to connect. -/
def conclude (exchange : Exchange) (caller : Nat) (errand : Errand)
    (outcome : Except DialError Entry) : Exchange :=
  match errand.stage with
  | .dialing =>
    let (registry, result) := exchange.registry.receive errand.uri outcome
    { exchange with registry }.put caller errand (.done result)
  | _ => exchange

/-- A caller gives up, wherever it is. -/
def cancel (exchange : Exchange) (caller : Nat) (errand : Errand) : Exchange :=
  match errand.stage with
  | .looking | .approaching => exchange.put caller errand (.ended none)
  | .waiting | .holding | .dialing | .done _ | .leaving _ =>
    { exchange with locks := exchange.locks.release caller }.put caller errand (.parting none)
  | .parting _ | .ended _ => exchange

/-- Something that happens. The callers are known by their numbers. -/
inductive Act
  /-- An operation of the registry that is no part of an errand. -/
  | operate (op : Registry.Op)
  | come (uri : String)
  | step (caller : Nat)
  | conclude (caller : Nat) (outcome : Except DialError Entry)
  | cancel (caller : Nat)

/-- Lets a caller act, if there is one with the number. -/
def with? (exchange : Exchange) (caller : Nat) (act : Errand → Exchange) : Exchange :=
  match exchange.errands[caller]? with
  | none => exchange
  | some errand => act errand

/-- What happens. -/
def perform (exchange : Exchange) : Act → Exchange
  | .operate op => { exchange with registry := exchange.registry.after op }
  | .come uri => { exchange with errands := exchange.errands ++ [⟨uri, .looking⟩] }
  | .step caller => exchange.with? caller (exchange.step caller)
  | .conclude caller outcome => exchange.with? caller (exchange.conclude caller · outcome)
  | .cancel caller => exchange.with? caller (exchange.cancel caller)

/-- What happens in the course of time. -/
def run (exchange : Exchange) (acts : List Act) : Exchange :=
  acts.foldl perform exchange

@[simp] lemma run_nil (exchange : Exchange) : exchange.run [] = exchange := rfl

@[simp] lemma run_cons (exchange : Exchange) (act : Act) (acts : List Act) :
    exchange.run (act :: acts) = (exchange.perform act).run acts := rfl

/-! ## One caller on its own -/

section Alone

variable {registry : Registry} {locks : Locks} {errands : List Errand} {caller : Nat} {uri : String}
  {stage : Errand.Stage}

lemma perform_step (h : caller < errands.length) :
    perform ⟨registry, locks, errands.set caller ⟨uri, stage⟩⟩ (.step caller) =
      step ⟨registry, locks, errands.set caller ⟨uri, stage⟩⟩ caller ⟨uri, stage⟩ := by
  rw [perform, with?, List.getElem?_set_self h]

lemma perform_conclude (h : caller < errands.length) (outcome : Except DialError Entry) :
    perform ⟨registry, locks, errands.set caller ⟨uri, stage⟩⟩ (.conclude caller outcome) =
      conclude ⟨registry, locks, errands.set caller ⟨uri, stage⟩⟩ caller ⟨uri, stage⟩ outcome := by
  rw [perform, with?, List.getElem?_set_self h]

/-- A caller that has its result gives the lock free, forgets it if it may, and goes. -/
lemma run_of_done (h : caller < errands.length) (result : Except DialError Handle) :
    run ⟨registry, locks, errands.set caller ⟨uri, .done result⟩⟩
        [.step caller, .step caller, .step caller] =
      ⟨registry, ((locks.release caller).tidy uri).cancel caller,
        errands.set caller ⟨uri, .ended (some result)⟩⟩ := by
  simp only [run_cons, run_nil, perform_step h, step, put, List.set_set]

/-- A caller that holds its lock has its result when it finds a connection, or when its attempt to
connect has ended. -/
lemma run_of_holding (h : caller < errands.length) (outcome : Except DialError Entry) :
    run ⟨registry, locks, errands.set caller ⟨uri, .holding⟩⟩
        [.step caller, .conclude caller outcome] =
      match registry.findTarget uri with
      | some handle => ⟨registry, locks, errands.set caller ⟨uri, .done (.ok handle)⟩⟩
      | none => ⟨(registry.receive uri outcome).1, locks,
          errands.set caller ⟨uri, .done (registry.receive uri outcome).2⟩⟩ := by
  simp only [run_cons, run_nil, perform_step h, step]
  cases registry.findTarget uri with
  | some handle => simp only [put, List.set_set, perform_conclude h, conclude]
  | none => simp only [put, List.set_set, perform_conclude h, conclude]

end Alone

end Exchange

/-! ## The steps of the dialer -/

namespace Switchboard

variable (board : Switchboard) (uri : String)

/-- The handshake leaves the registry alone, and its entry has the target of the connection. -/
lemma establish_spec (settings : HandshakeSettings) (opening : Opening) (wire : Wire) :
    (board.establish settings opening wire).1.registry = board.registry ∧
      ∀ entry, (board.establish settings opening wire).2.2 = .ok entry →
        entry.handle.target = opening.target := by
  unfold establish Opening.establish
  cases Handshake.run settings wire (messageId board.nextMessage) with
  | mk wire result =>
    rcases result with _ | e | tags
    · exact ⟨rfl, fun entry hentry => by cases hentry⟩
    · exact ⟨rfl, fun entry hentry => by cases hentry⟩
    · refine ⟨rfl, fun entry hentry => ?_⟩
      cases hentry
      rfl

/-- Registering a dialed connection is the end of an attempt to connect. -/
lemma exists_receive_enroll (peer : SocketAddress) (entry : Entry) (wire : Wire)
    (htarget : entry.handle.target = some uri) :
    ∃ outcome, board.registry.receive uri outcome =
      ((board.enroll peer entry wire).1.registry,
        (board.enroll peer entry wire).2.mapError .registry) := by
  refine ⟨.ok { entry with handle := { entry.handle with link := board.links.length } }, ?_⟩
  rw [Registry.receive, ← htarget]
  unfold enroll connect
  dsimp only
  cases hadd : board.registry.add
      { entry with handle := { entry.handle with link := board.links.length } } with
  | mk registry result =>
    cases result with
    | ok handle => rfl
    | error e =>
      -- a connection that is refused leaves the registry as it was
      rcases Registry.add_cases board.registry
        { entry with handle := { entry.handle with link := board.links.length } } with
        ⟨error, hrefused⟩ | ⟨-, haccepted⟩
      · rw [hrefused] at hadd
        cases hadd
        rfl
      · rw [haccepted] at hadd
        cases hadd

/-- Greeting a dialed application is the end of an attempt to connect. -/
lemma exists_receive_greet (settings : HandshakeSettings) (opening : Opening)
    (arriving : Text.Bytes) (ended : Bool) (htarget : opening.target = some uri) :
    ∃ outcome, board.registry.receive uri outcome =
      ((board.greet settings opening arriving ended).1.registry,
        (board.greet settings opening arriving ended).2) := by
  unfold greet
  dsimp only
  generalize (if ended = true then (Wire.arrive {} arriving).finish else Wire.arrive {} arriving) =
    wire
  obtain ⟨hregistry, hentry⟩ := board.establish_spec settings opening wire
  rcases hestablish : board.establish settings opening wire with ⟨after, wire', result⟩
  rw [hestablish] at hregistry hentry
  cases result with
  | error e => exact ⟨.error e, by rw [Registry.receive, ← hregistry]⟩
  | ok entry =>
    obtain ⟨outcome, hreceive⟩ := exists_receive_enroll after uri opening.peer entry wire'
      ((hentry entry rfl).trans htarget)
    refine ⟨outcome, ?_⟩
    rw [← show after.registry = board.registry from hregistry, hreceive]
    dsimp only
    rcases after.enroll opening.peer entry wire' with ⟨last, e | handle⟩
    · rfl
    · rfl

/-- What dialing a uri does to the registry is the end of an attempt to connect. -/
lemma exists_receive_dialAnew (settings : DialSettings) (reach : Target → Reach) :
    ∃ outcome, board.registry.receive uri outcome =
      ((board.dialAnew settings reach uri).1.registry, (board.dialAnew settings reach uri).2) := by
  unfold dialAnew connectTo
  cases Target.parse uri with
  | none => exact ⟨.error (.invalidTarget uri), rfl⟩
  | some target =>
    dsimp only
    split
    · exact ⟨.error (.transportUnavailable target.text), rfl⟩
    · cases reach target with
      | refused => exact ⟨.error (.connectRefused target.text), rfl⟩
      | timedOut => exact ⟨.error (.timeout target.text), rfl⟩
      | failed reason => exact ⟨.error (.io reason), rfl⟩
      | connected peer arriving ended =>
        exact board.exists_receive_greet uri settings.handshake
          ⟨.outbound, target.transport, peer, some uri⟩ arriving ended rfl

end Switchboard

namespace Dialer

/-- The dialer as its callers see it. -/
def exchange (dialer : Dialer) (errands : List Errand) : Exchange :=
  ⟨dialer.board.registry, dialer.locks, errands⟩

variable {dialer : Dialer} {errands : List Errand} {caller : Nat} {uri : String}

/-- A caller that comes takes two steps: the look at the registry, and the way to its lock. -/
lemma come_eq_steps (h : caller < errands.length) :
    (dialer.exchange (errands.set caller ⟨uri, .looking⟩)).run [.step caller, .step caller] =
      (dialer.come caller uri).1.exchange (errands.set caller
        ⟨uri, match (dialer.come caller uri).2 with
          | some handle => .ended (some (.ok handle))
          | none => .waiting⟩) := by
  unfold come exchange
  cases hfound : dialer.board.registry.findTarget uri with
  | some handle =>
    simp only [Exchange.run_cons, Exchange.run_nil, Exchange.perform_step h, Exchange.step, hfound,
      Exchange.put, List.set_set]
  | none =>
    simp only [Exchange.run_cons, Exchange.run_nil, Exchange.perform_step h, Exchange.step, hfound,
      Exchange.put, List.set_set]

/-- A caller that finds its lock free takes two steps until it has its result, with the attempt to
connect behind them if it does not find a connection, and three more until it is gone. -/
lemma exists_serve_eq_steps (settings : DialSettings) (reach : Target → Reach)
    (h : caller < errands.length) {lock : Nat}
    (hwaiting : dialer.locks.caller? caller = some ⟨uri, lock, .waiting⟩)
    (hfree : (dialer.locks.acquire caller).2 = true) :
    ∃ outcome, (dialer.exchange (errands.set caller ⟨uri, .waiting⟩)).run
        [.step caller, .step caller, .conclude caller outcome, .step caller, .step caller,
          .step caller] =
      (dialer.serve settings reach caller uri).1.exchange (errands.set caller
        ⟨uri, .ended (some (dialer.serve settings reach caller uri).2)⟩) := by
  obtain ⟨outcome, hreceive⟩ := dialer.board.exists_receive_dialAnew uri settings reach
  obtain ⟨place, hplace, -, -, hacquire⟩ := (dialer.locks.acquire_cases caller).resolve_left
    fun hnot => by rw [hnot] at hfree; cases hfree
  -- the caller still has its place when it leaves
  have hplaced : ((dialer.locks.acquire caller).1.release caller).caller? caller =
      some ⟨uri, lock, .leaving⟩ := by
    rw [hacquire, Locks.release, Locks.caller?_move, if_pos rfl, Locks.caller?_move, if_pos rfl,
      hwaiting]
    rfl
  have htaken : (dialer.exchange (errands.set caller ⟨uri, .waiting⟩)).perform (.step caller) =
      ⟨dialer.board.registry, (dialer.locks.acquire caller).1,
        errands.set caller ⟨uri, .holding⟩⟩ := by
    rw [exchange, Exchange.perform_step h]
    simp only [Exchange.step, hacquire, Exchange.put, List.set_set]
  have hparts : ∀ exchange : Exchange, exchange.run [.step caller, .step caller,
        .conclude caller outcome, .step caller, .step caller, .step caller] =
      ((exchange.perform (.step caller)).run [.step caller, .conclude caller outcome]).run
        [.step caller, .step caller, .step caller] := fun _ => rfl
  refine ⟨outcome, ?_⟩
  rw [hparts, htaken, Exchange.run_of_holding h, serve, Switchboard.dial]
  dsimp only
  rw [Locks.leave_eq hplaced]
  generalize dialer.board.dialAnew settings reach uri = dialed at hreceive ⊢
  cases dialer.board.registry.findTarget uri with
  | some handle => exact Exchange.run_of_done h (.ok handle)
  | none =>
    rw [hreceive]
    exact Exchange.run_of_done h dialed.2

end Dialer

end CallDispatch
