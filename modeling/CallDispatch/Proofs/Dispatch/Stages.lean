import CallDispatch.Dispatch.Calls
import CallDispatch.Proofs.Registry.Consistency

/-!
# Stages of a dispatch

Several dispatches run at the same time, and between two accesses of one of them to the registry
the others, and anybody else, may change it. The steps of a dispatch are therefore cut once more, so
that each touches the registry only once: `advance` goes on by oneself, and `respond` takes the
answer of a link. Without anything in between, they make up the steps of the dispatcher
(`advance_begin`, `advance_respond`).

## Main definitions

* `Stage`: how far a dispatch has come.
* `Dispatcher.advance`, `Dispatcher.respond`: the steps between stages.
-/

namespace CallDispatch

open Text

/-- The pool to which an outcome leads. -/
def Outcome.selector? : Outcome → Option Selector
  | .routeDefault => some .untagged
  | .routeByTag tag => some (.tag tag)
  | .routeByUri _ | .reject _ => none

/-- How far a dispatch has come. -/
inductive Stage
  /-- The outcome is known, and nothing has been looked up. -/
  | arrived
  /-- There are active connections. -/
  | admitted (selector : Selector)
  /-- A connection of a pool is to be selected, with so many tries left. -/
  | choosing (selector : Selector) (tries : Nat) (failed : List EntryId)
  /-- The connection dialed at a uri is known, and no call is reserved on it. -/
  | located (uri : String) (id : EntryId)
  /-- A call is reserved, and the link has been asked. -/
  | waiting (attempt : Attempt)
  | finished (result : DispatchResult)
  | cancelled
deriving DecidableEq

/-- Whether a dispatch can go on by itself. -/
def Stage.isPending : Stage → Bool
  | arrived | admitted _ | choosing .. | located .. => true
  | waiting _ | finished _ | cancelled => false

/-- The stage of a dispatch that has ended or waits for a link. -/
def Progress.stage : Progress → Stage
  | finished result => .finished result
  | waiting attempt => .waiting attempt

namespace Dispatcher

/-- Whether a dispatch to a pool has any connections to look for. -/
def enter (dispatcher : Dispatcher) (selector : Selector) : Stage :=
  if dispatcher.registry.activeCount = 0 then .finished (.rejected .noAppsConnected)
  else .admitted selector

/-- Where a dispatch begins. -/
def arrive (dispatcher : Dispatcher) (request : Request) : Outcome → Stage
  | .reject status => .finished (.rejected (.policyRejected status))
  | .routeByUri uri =>
    match dispatcher.locate request uri with
    | .error e => .finished (.rejected e)
    | .ok handle => .located uri handle.id
  | .routeByTag tag => dispatcher.enter (.tag tag)
  | .routeDefault => dispatcher.enter .untagged

/-- What a dispatch to a pool does after a look at the pool. -/
def look (dispatcher : Dispatcher) (request : Request) (selector : Selector) : Stage :=
  match dispatcher.observe request selector with
  | .error e => .finished (.rejected e)
  | .ok tries => .choosing selector tries []

/-- One step of a dispatch that can go on by itself. -/
def advance (dispatcher : Dispatcher) (request : Request) (outcome : Outcome) :
    Stage → Dispatcher × Stage
  | .arrived => (dispatcher, dispatcher.arrive request outcome)
  | .admitted selector => (dispatcher, dispatcher.look request selector)
  | .choosing selector tries failed =>
    let (dispatcher, progress) := dispatcher.tryNext request selector tries failed
    (dispatcher, progress.stage)
  | .located uri id =>
    let (dispatcher, progress) := dispatcher.tryLocated request uri id
    (dispatcher, progress.stage)
  | stage => (dispatcher, stage)

/-- The answer of the link for which a dispatch waits. -/
def respond (dispatcher : Dispatcher) (now : Nat) (attempt : Attempt)
    (answer : Except LinkError Unit) : Dispatcher × Stage :=
  let handle := attempt.reservation.handle
  match answer with
  | .ok () =>
    (dispatcher.bind attempt.request.transactionId handle.id, .finished (.delivered handle))
  | .error (.tooLarge length) =>
    ({ dispatcher with registry := dispatcher.registry.rollBack attempt.reservation },
      .finished (.rejected (.messageTooLarge length)))
  | .error _ =>
    ({ dispatcher with registry := dispatcher.registry.abandonDead now attempt.reservation },
      match attempt.route with
      | .pooled selector triesLeft failed => .choosing selector triesLeft (handle.id :: failed)
      | .direct uri => .finished (.rejected (.noSuchTarget uri)))

/-! ## The steps of the dispatcher -/

variable (dispatcher : Dispatcher) (request : Request) (outcome : Outcome)

/-- A dispatch that has ended or waits does not go on by itself. -/
@[simp] lemma advance_stage (progress : Progress) :
    dispatcher.advance request outcome progress.stage = (dispatcher, progress.stage) := by
  cases progress <;> rfl

/-- Once it is known that there are active connections, a dispatch to a pool takes two steps. -/
lemma advance_enter (selector : Selector) :
    let looked := dispatcher.advance request outcome (dispatcher.enter selector)
    looked.1.advance request outcome looked.2 =
      ((dispatcher.beginPooled request selector).1,
        (dispatcher.beginPooled request selector).2.stage) := by
  unfold enter beginPooled
  by_cases hactive : dispatcher.registry.activeCount = 0
  · simp only [if_pos hactive]
    rfl
  · simp only [if_neg hactive, advance, look]
    cases dispatcher.observe request selector with
    | error e => rfl
    | ok tries => rfl

/-- A dispatch begins with at most three steps. -/
lemma advance_begin :
    let first := dispatcher.advance request outcome .arrived
    let second := first.1.advance request outcome first.2
    second.1.advance request outcome second.2 =
      ((dispatcher.begin request outcome).1, (dispatcher.begin request outcome).2.stage) := by
  cases outcome with
  | reject status => rfl
  | routeByTag tag => exact advance_enter dispatcher request _ (.tag tag)
  | routeDefault => exact advance_enter dispatcher request _ .untagged
  | routeByUri uri =>
    have harrive : dispatcher.advance request (.routeByUri uri) .arrived =
        (dispatcher, dispatcher.arrive request (.routeByUri uri)) := rfl
    rw [harrive]
    cases hlocate : dispatcher.locate request uri with
    | error e =>
      simp only [arrive, begin, beginDirect, hlocate]
      rfl
    | ok handle =>
      simp only [arrive, begin, beginDirect, hlocate]
      exact advance_stage _ request (.routeByUri uri) _

/-- Settling an attempt is the answer of the link, with one step behind it if a connection of the
pool is to be tried next. -/
lemma advance_respond (now : Nat) (attempt : Attempt) (answer : Except LinkError Unit) :
    let answered := dispatcher.respond now attempt answer
    let settled := dispatcher.settle now attempt answer
    answered.1.advance attempt.request outcome answered.2 = (settled.1, settled.2.stage) := by
  have hfailed : ∀ next : Dispatcher,
      next.advance attempt.request outcome
          (match attempt.route with
          | .pooled selector triesLeft failed =>
            .choosing selector triesLeft (attempt.reservation.handle.id :: failed)
          | .direct uri => .finished (.rejected (.noSuchTarget uri))) =
        ((next.afterFailure attempt).1, (next.afterFailure attempt).2.stage) := by
    intro next
    unfold afterFailure
    cases attempt.route <;> rfl
  cases answer with
  | ok => rfl
  | error e =>
    cases e with
    | tooLarge length => rfl
    | closed | io | protocol => exact hfailed _

/-! ## Where steps lead -/

variable {dispatcher request outcome}

/-- A dispatch is refused at once, or goes to the pool or to the uri of its outcome. -/
lemma arrive_cases :
    (∃ e, dispatcher.arrive request outcome = .finished (.rejected e)) ∨
      (∃ selector, outcome.selector? = some selector ∧
        dispatcher.arrive request outcome = .admitted selector) ∨
      ∃ uri id, outcome.selector? = none ∧
        dispatcher.arrive request outcome = .located uri id := by
  have henter : ∀ selector, (∃ e, dispatcher.enter selector = .finished (.rejected e)) ∨
      dispatcher.enter selector = .admitted selector := by
    intro selector
    unfold enter
    split
    · exact Or.inl ⟨_, rfl⟩
    · exact Or.inr rfl
  cases outcome with
  | reject status => exact Or.inl ⟨_, rfl⟩
  | routeByTag tag =>
    exact (henter (.tag tag)).imp_right fun h => Or.inl ⟨.tag tag, rfl, h⟩
  | routeDefault =>
    exact (henter .untagged).imp_right fun h => Or.inl ⟨.untagged, rfl, h⟩
  | routeByUri uri =>
    simp only [arrive]
    cases dispatcher.locate request uri with
    | error e => exact Or.inl ⟨_, rfl⟩
    | ok handle => exact Or.inr (Or.inr ⟨_, _, rfl, rfl⟩)

/-- A dispatch that knows a connection found it at the uri of its outcome, and the connection can
carry the request. -/
lemma exists_of_arrive_located {uri : String} {id : EntryId}
    (h : dispatcher.arrive request outcome = .located uri id) :
    ∃ handle, outcome = .routeByUri uri ∧ dispatcher.registry.findTarget uri = some handle ∧
      handle.id = id ∧ handle.transport.satisfies request.requiredTransport = true := by
  have henter : ∀ selector, dispatcher.enter selector ≠ .located uri id := by
    intro selector
    unfold enter
    split <;> simp
  cases outcome with
  | reject status => cases h
  | routeByTag tag => exact absurd h (henter (.tag tag))
  | routeDefault => exact absurd h (henter .untagged)
  | routeByUri target =>
    rw [arrive, locate] at h
    cases hfound : dispatcher.registry.findTarget target with
    | none =>
      rw [hfound] at h
      cases h
    | some handle =>
      by_cases hcarries : handle.transport.satisfies request.requiredTransport = true
      · simp only [hfound, if_pos hcarries] at h
        cases h
        exact ⟨handle, rfl, hfound, rfl, hcarries⟩
      · simp only [hfound, if_neg hcarries] at h
        cases h

/-- A dispatch to a pool that is not empty may try as many connections as the pool has. -/
lemma look_cases {selector : Selector} :
    (∃ e, dispatcher.look request selector = .finished (.rejected e)) ∨
      dispatcher.look request selector = .choosing selector
        (dispatcher.registry.members selector (some request.method)).length [] := by
  have hlength : (dispatcher.registry.snapshot selector (some request.method)).length =
      (dispatcher.registry.members selector (some request.method)).length := by
    simp [Registry.snapshot, Registry.members]
  unfold look observe
  rw [hlength]
  cases (dispatcher.registry.members selector (some request.method)).length with
  | zero => exact Or.inl ⟨_, rfl⟩
  | succ tries => exact Or.inr rfl

end Dispatcher

end CallDispatch
