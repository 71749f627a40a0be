import CallDispatch.Proofs.Dispatch.Stages
import CallDispatch.Server.Basic

/-!
# Refused requests

A request may be refused because the routing service fails or refuses it, because an application
cannot be dialed, or because no application takes it. Whatever it is, the response is final and its
reason follows from its status. The wordings of errors name tags, uris and lengths, but a wording
is sent only for a status without a phrase. The statuses that the server gives by itself have one
(`DispatchError.exists_phrase`), so what is left are refusals of the routing policy, whose wording
names the status alone.

Other things may happen to the server while a request is handled. `Server.Ends` is how its handling
may end then; what a server does at once is a case of it (`ends_of_handleByRoutes`).

## Main definitions

* `Outcome.Allows`: the errors with which a dispatch may end, given what the policy decided.
* `Dispatcher.Reaches`: the stages of a dispatch while anything may happen in between.
* `Server.Ends`: how the handling of a request may end.
-/

namespace CallDispatch

open Text

/-! ## Statuses and reasons -/

/-- No phrase is empty. -/
lemma Sip.phrase_ne_empty {status : Nat} {phrase : String}
    (h : Sip.reasonPhrase status = some phrase) : phrase ≠ "" := by
  have hall : ∀ entry ∈ Sip.phrases, entry.2 ≠ "" := by decide
  obtain ⟨before, behind, hphrases, -⟩ := List.lookup_eq_some_iff.1 h
  exact hall (status, phrase) (by rw [hphrases]; simp)

namespace DispatchError

/-- Whether an error is one of the server and no refusal of the routing policy. -/
def isOwn : DispatchError → Bool
  | policyRejected _ => false
  | _ => true

/-- The statuses that the server gives by itself are final and have a phrase. -/
lemma exists_phrase {error : DispatchError} (h : error.isOwn = true) :
    Sip.isRefusal error.status = true ∧
      ∃ phrase, Sip.reasonPhrase error.status = some phrase := by
  have hall : ∀ status ∈ [Sip.serviceUnavailable, Sip.temporarilyUnavailable,
      Sip.serverInternalError, Sip.messageTooLarge],
      Sip.isRefusal status = true ∧ (Sip.reasonPhrase status).isSome = true := by
    decide
  have hmem : error.status ∈ [Sip.serviceUnavailable, Sip.temporarilyUnavailable,
      Sip.serverInternalError, Sip.messageTooLarge] := by
    cases error with
    | policyRejected status => cases h
    | _ => simp [status]
  obtain ⟨hrefusal, hphrase⟩ := hall error.status hmem
  exact ⟨hrefusal, Option.isSome_iff_exists.1 hphrase⟩

/-- The reason with which a status is sent. -/
def reason (status : Nat) : String :=
  (Sip.reasonPhrase status).getD (policyRejected status).message

/-- A response says nothing about its error but the status. -/
lemma action_eq (error : DispatchError) :
    error.action = .respond error.status (reason error.status) := by
  by_cases hown : error.isOwn = true
  · -- the wording of the error is not sent, since there is a phrase
    obtain ⟨-, phrase, hphrase⟩ := exists_phrase hown
    rw [action, reason, hphrase]
    rfl
  · cases error with
    | policyRejected status => rfl
    | _ => exact absurd rfl hown

/-- A response has a reason. -/
lemma reason_ne_empty (status : Nat) : reason status ≠ "" := by
  unfold reason
  cases hphrase : Sip.reasonPhrase status with
  | some phrase => exact Sip.phrase_ne_empty hphrase
  | none =>
    -- the wording begins with some words in front of the status
    have hwords : "Request rejected by routing policy with status " ≠ "" := by
      simp
    show "Request rejected by routing policy with status " ++ decimal status ≠ ""
    intro hempty
    exact hwords (String.append_eq_empty_iff.1 hempty).1

end DispatchError

/-! ## What the routing policy decides -/

/-- An instruction refuses a request with a final status only. -/
lemma Instruction.isRefusal_of_outcome {instruction : Instruction} {status : Nat}
    (h : instruction.outcome = .ok (.reject status)) : Sip.isRefusal status = true := by
  cases instruction with
  | route tag uri =>
    simp only [outcome] at h
    split at h <;> cases h
  | reject given text =>
    simp only [outcome] at h
    split at h
    · next hrefusal =>
      cases h
      exact hrefusal
    · cases h

namespace Policy

/-- An answer that is not a success refuses a request with a final status. -/
lemma isRefusal_refusal (status : Nat) : Sip.isRefusal (refusal status) = true := by
  unfold refusal
  split
  · next hstatus =>
    have hle : 300 ≤ status := Nat.le_trans (by decide) hstatus.1
    simp [Sip.isRefusal, hle, hstatus.2]
  · rfl

/-- The routing policy refuses requests with final statuses only. -/
lemma isRefusal_of_resolve {table : RouteTable} {ask : Query → Reply} {request : Request}
    {status : Nat} (h : resolve table ask request = .ok (.reject status)) :
    Sip.isRefusal status = true := by
  unfold resolve at h
  split at h
  · cases h
  · unfold ofReply at h
    split at h
    · cases h
    · split at h
      · -- the service has answered with an instruction
        unfold Instruction.parse at h
        split at h
        · cases h
        · exact Instruction.isRefusal_of_outcome h
      · cases h
        exact isRefusal_refusal _

end Policy

/-! ## How a dispatch ends -/

/-- The errors with which a dispatch may end: those of the server, and the refusal that the policy
decided on. -/
def Outcome.Allows (outcome : Outcome) (error : DispatchError) : Prop :=
  error.isOwn = true ∨ ∃ status, outcome = .reject status ∧ error = .policyRejected status

/-- A dispatch that has been rejected ended with an error that its outcome allows. -/
def Stage.Allowed (outcome : Outcome) : Stage → Prop
  | .finished (.rejected error) => outcome.Allows error
  | _ => True

/-- A dispatch that waits for a link waits for it to take the given request. -/
def Stage.Carries (request : Request) : Stage → Prop
  | .waiting attempt => attempt.request = request
  | _ => True

namespace Dispatcher

/-- The stages that a dispatch can come to. Anything may happen to the dispatcher between any two of
its steps, so each step may find another one. -/
inductive Reaches (request : Request) (outcome : Outcome) : Stage → Prop
  | arrived : Reaches request outcome .arrived
  | advance {stage : Stage} (h : Reaches request outcome stage) (dispatcher : Dispatcher) :
    Reaches request outcome (dispatcher.advance request outcome stage).2
  | respond {attempt : Attempt} (h : Reaches request outcome (.waiting attempt))
      (dispatcher : Dispatcher) (now : Nat) (answer : Except LinkError Unit) :
    Reaches request outcome (dispatcher.respond now attempt answer).2

variable {request : Request} {outcome : Outcome} {stage : Stage}

/-- What is known of a stage that a dispatch can come to. -/
def Regular (request : Request) (outcome : Outcome) (stage : Stage) : Prop :=
  stage.Allowed outcome ∧ stage.Carries request

/-- An error of the server ends any dispatch. -/
lemma regular_rejected {error : DispatchError} (h : error.isOwn = true) :
    Regular request outcome (.finished (.rejected error)) :=
  ⟨Or.inl h, trivial⟩

/-- The errors of looking for the connection dialed at a uri are those of the server. -/
lemma isOwn_of_locate {dispatcher : Dispatcher} {uri : String} {error : DispatchError}
    (h : dispatcher.locate request uri = .error error) : error.isOwn = true := by
  unfold locate at h
  split at h
  · cases h
    rfl
  · split at h <;> cases h
    rfl

/-- The errors of looking at a pool are those of the server. -/
lemma isOwn_of_observe {dispatcher : Dispatcher} {selector : Selector} {error : DispatchError}
    (h : dispatcher.observe request selector = .error error) : error.isOwn = true := by
  unfold observe at h
  split at h
  · cases h
    cases selector <;> rfl
  · cases h

lemma regular_arrive (dispatcher : Dispatcher) :
    Regular request outcome (dispatcher.arrive request outcome) := by
  have henter : ∀ selector, Regular request outcome (dispatcher.enter selector) := by
    intro selector
    unfold enter
    split
    · exact regular_rejected rfl
    · exact ⟨trivial, trivial⟩
  cases outcome with
  | reject status => exact ⟨Or.inr ⟨status, rfl, rfl⟩, trivial⟩
  | routeByTag tag => exact henter (.tag tag)
  | routeDefault => exact henter .untagged
  | routeByUri uri =>
    simp only [arrive]
    cases hlocate : dispatcher.locate request uri with
    | error error => exact regular_rejected (isOwn_of_locate hlocate)
    | ok handle => exact ⟨trivial, trivial⟩

/-- A dispatch that goes on by itself stays regular. -/
lemma regular_advance (h : Regular request outcome stage) (dispatcher : Dispatcher) :
    Regular request outcome (dispatcher.advance request outcome stage).2 := by
  cases stage with
  | arrived => exact regular_arrive dispatcher
  | admitted selector =>
    simp only [advance, look]
    cases hobserve : dispatcher.observe request selector with
    | error error => exact regular_rejected (isOwn_of_observe hobserve)
    | ok tries => exact ⟨trivial, trivial⟩
  | choosing selector tries failed =>
    cases tries with
    | zero => exact regular_rejected rfl
    | succ tries =>
      simp only [advance, tryNext]
      split
      · exact regular_rejected rfl
      · exact ⟨trivial, rfl⟩
  | located uri id =>
    simp only [advance, tryLocated]
    split
    · exact regular_rejected rfl
    · exact ⟨trivial, rfl⟩
  | waiting | finished | cancelled => exact h

/-- A dispatch whose link has answered stays regular. -/
lemma regular_respond (dispatcher : Dispatcher) (now : Nat) (attempt : Attempt)
    (answer : Except LinkError Unit) :
    Regular request outcome (dispatcher.respond now attempt answer).2 := by
  have hdead : Regular request outcome (dispatcher.respond now attempt (.error .closed)).2 := by
    simp only [respond]
    cases attempt.route with
    | pooled selector tries failed => exact ⟨trivial, trivial⟩
    | direct uri => exact regular_rejected rfl
  cases answer with
  | ok => exact ⟨trivial, trivial⟩
  | error e =>
    cases e with
    | tooLarge length => exact regular_rejected rfl
    | closed | io | protocol => exact hdead

/-- Whatever happens meanwhile, the stages of a dispatch are regular. -/
lemma Reaches.regular (h : Reaches request outcome stage) : Regular request outcome stage := by
  induction h with
  | arrived => exact ⟨trivial, trivial⟩
  | advance _ dispatcher ih => exact regular_advance ih dispatcher
  | respond _ dispatcher now answer _ => exact regular_respond dispatcher now _ answer

/-! ## A dispatch at once -/

/-- Beginning a dispatch leads to one of its stages. -/
lemma reaches_begin (dispatcher : Dispatcher) (request : Request) (outcome : Outcome) :
    Reaches request outcome (dispatcher.begin request outcome).2.stage := by
  have hsteps := advance_begin dispatcher request outcome
  dsimp only at hsteps
  rw [← show _ = (dispatcher.begin request outcome).2.stage from congrArg Prod.snd hsteps]
  exact ((Reaches.arrived.advance _).advance _).advance _

/-- Settling an attempt of a dispatch leads to one of its stages. -/
lemma Reaches.settle {attempt : Attempt} (h : Reaches request outcome (.waiting attempt))
    (dispatcher : Dispatcher) (now : Nat) (answer : Except LinkError Unit) :
    Reaches request outcome (dispatcher.settle now attempt answer).2.stage := by
  have hrequest : attempt.request = request := h.regular.2
  have hsteps := advance_respond dispatcher outcome now attempt answer
  dsimp only at hsteps
  rw [hrequest] at hsteps
  rw [← show _ = (dispatcher.settle now attempt answer).2.stage from congrArg Prod.snd hsteps]
  exact (h.respond dispatcher now answer).advance _

end Dispatcher

namespace Switchboard

variable {request : Request} {outcome : Outcome}

/-- A dispatch on the switchboard goes from one of its stages to another. -/
lemma reaches_pursue (now tries : Nat) (board : Switchboard) (attempt : Attempt)
    (h : Dispatcher.Reaches request outcome (.waiting attempt)) :
    Dispatcher.Reaches request outcome (pursue now tries board attempt).2.stage := by
  induction tries generalizing board attempt with
  | zero => exact h
  | succ tries ih =>
    unfold pursue
    split
    · exact h
    · next board answer hdeliver =>
      have hsettle := h.settle board.dispatcher now answer
      cases hprogress : (board.dispatcher.settle now attempt answer).2 with
      | finished result =>
        rw [hprogress] at hsettle
        simpa only [hprogress] using hsettle
      | waiting next =>
        rw [hprogress] at hsettle
        simpa only [hprogress] using ih _ next hsettle

/-- A dispatch on the switchboard ends in one of its stages. -/
lemma reaches_launch (board : Switchboard) (now : Nat) (request : Request) (outcome : Outcome) :
    Dispatcher.Reaches request outcome (board.launch now request outcome).2.stage := by
  have hbegin := Dispatcher.reaches_begin board.dispatcher request outcome
  unfold launch
  cases hprogress : (board.dispatcher.begin request outcome).2 with
  | finished result =>
    rw [hprogress] at hbegin
    simpa only [hprogress] using hbegin
  | waiting attempt =>
    rw [hprogress] at hbegin
    simpa only [hprogress] using reaches_pursue now attempt.bound _ attempt hbegin

end Switchboard

/-! ## How the handling of a request ends -/

namespace Server

/-- How the handling of a request may end. The routing services are asked once, with the routes of a
table. Behind that anything may happen to the server: the application is dialed by a server in some
state, and each step of the dispatch may find another dispatcher. -/
inductive Ends (table : RouteTable) (ask : Policy.Query → Policy.Reply) (request : Request) :
    DispatchResult → Prop
  | undecided {error : ResolverError} (h : Policy.resolve table ask request = .error error) :
    Ends table ask request (.rejected (.resolverUnreachable error.message))
  | undialed {outcome : Outcome} (h : Policy.resolve table ask request = .ok outcome)
      {server : Server} {network : Network} {error : DispatchError}
      (hprepare : (server.prepare network outcome).2 = some error) :
    Ends table ask request (.rejected error)
  | dispatched {outcome : Outcome} (h : Policy.resolve table ask request = .ok outcome)
      {result : DispatchResult}
      (hreaches : Dispatcher.Reaches request outcome (.finished result)) :
    Ends table ask request result

variable {table : RouteTable} {ask : Policy.Query → Policy.Reply} {request : Request}
  {result : DispatchResult}

/-- The errors of dialing an application are those of the server. -/
lemma isOwn_of_prepare {server : Server} {network : Network} {outcome : Outcome}
    {error : DispatchError} (h : (server.prepare network outcome).2 = some error) :
    error.isOwn = true := by
  unfold prepare at h
  split at h
  · split at h
    · cases h
      rfl
    · cases h
  · cases h

/-- What a server does with a request at once is one of the ways in which its handling may end. -/
lemma ends_of_handleByRoutes (server : Server) (network : Network) (now : Nat)
    (h : (server.handleByRoutes network now ask request).2 = some result) :
    Ends server.table ask request result := by
  unfold handleByRoutes handle at h
  cases hresolve : Policy.resolve server.table ask request with
  | error error =>
    rw [hresolve] at h
    cases h
    exact .undecided hresolve
  | ok outcome =>
    simp only [hresolve] at h
    split at h
    · next prepared error hprepare =>
      cases h
      exact .undialed hresolve (congrArg Prod.snd hprepare)
    · next prepared hprepare =>
      have hreaches := Switchboard.reaches_launch prepared.board now request outcome
      unfold Switchboard.dispatch at h
      split at h
      · next board' result' hlaunch =>
        cases h
        rw [hlaunch] at hreaches
        exact .dispatched hresolve hreaches
      · cases h

/-- A request is refused with a final status, whatever else happens to the server. -/
lemma Ends.isRefusal {error : DispatchError} (h : Ends table ask request (.rejected error)) :
    Sip.isRefusal error.status = true := by
  cases h with
  | undecided _ => rfl
  | undialed _ hprepare => exact (DispatchError.exists_phrase (isOwn_of_prepare hprepare)).1
  | dispatched hresolve hreaches =>
    rcases hreaches.regular.1 with hown | ⟨status, rfl, rfl⟩
    · exact (DispatchError.exists_phrase hown).1
    · exact Policy.isRefusal_of_resolve hresolve

/-- A response to a request is final and has the reason of its status. -/
lemma Ends.of_respond (h : Ends table ask request result) {status : Nat} {reason : String}
    (haction : result.action = .respond status reason) :
    Sip.isRefusal status = true ∧ reason = DispatchError.reason status := by
  cases result with
  | delivered handle => cases haction
  | rejected error =>
    rw [DispatchResult.action, DispatchError.action_eq] at haction
    cases haction
    exact ⟨h.isRefusal, rfl⟩

/-- **Refusals.** Every response to a request that is refused is final, with a status from 300 to
699, and has a reason. Two responses with the same status have the same reason, whatever else
differs: the requests, what the routing services answer, the tags and uris, the pools and what goes
wrong. That holds of what a server does with a request at once, and just as well if anything else
happens to the server while it handles the request. -/
theorem refusals_final_and_alike :
    (∀ (server : Server) (network : Network) (now : Nat) (ask : Policy.Query → Policy.Reply)
        (request : Request) (result : DispatchResult),
        (server.handleByRoutes network now ask request).2 = some result →
          Ends server.table ask request result) ∧
      ∀ (table : RouteTable) (ask : Policy.Query → Policy.Reply) (request : Request)
        (result : DispatchResult) (status : Nat) (reason : String),
        Ends table ask request result → result.action = .respond status reason →
          (300 ≤ status ∧ status ≤ 699) ∧ reason ≠ "" ∧
          ∀ (table' : RouteTable) (ask' : Policy.Query → Policy.Reply) (request' : Request)
            (result' : DispatchResult) (reason' : String),
            Ends table' ask' request' result' → result'.action = .respond status reason' →
              reason' = reason := by
  refine ⟨fun server network now ask request result h => ends_of_handleByRoutes server network now h,
    fun table ask request result status reason hends haction => ?_⟩
  obtain ⟨hrefusal, rfl⟩ := hends.of_respond haction
  refine ⟨by simpa [Sip.isRefusal] using hrefusal, DispatchError.reason_ne_empty status, ?_⟩
  intro table' ask' request' result' reason' hends' haction'
  exact (hends'.of_respond haction').2

/-- A server that asks the same routing service about all requests. -/
def askingAlways : Server where
  config := {}
  identity := "server-1"
  table := ⟨[("*", ⟨"GET", ⟨"http", "", "", none, some 3000, .segments [""], none, none⟩⟩)]⟩
  acceptsTls := false
  dialsTls := false
  dialer := ⟨{}, {}⟩

/-- A request to one person. -/
def inviteAlice : Request :=
  { transactionId := "t1", method := "INVITE", uri := "sip:alice@10.0.0.8" }

/-- A request to another person. -/
def messageBob : Request :=
  { transactionId := "t2", method := "MESSAGE", uri := "sip:bob@10.0.0.9" }

/-- The routing service cannot be reached for one request, and redirects the question about
another. -/
theorem refusals_final_and_alike_twoFailures :
    let unreachable : Policy.Query → Policy.Reply := fun _ => .failed "10.0.0.7:3000 is down"
    let redirected : Policy.Query → Policy.Reply := fun _ => .answer 302 []
    ∃ result result' reason reason',
      (askingAlways.handleByRoutes .secluded 0 unreachable inviteAlice).2 = some result ∧
      (askingAlways.handleByRoutes .secluded 0 redirected messageBob).2 = some result' ∧
      result ≠ result' ∧ result.action = .respond 500 reason ∧
      result'.action = .respond 500 reason' ∧ reason ≠ "" ∧ reason' = reason := by
  intro unreachable redirected
  have hfirst : (askingAlways.handleByRoutes .secluded 0 unreachable inviteAlice).2 =
      some (.rejected (.resolverUnreachable
        (ResolverError.unreachable "10.0.0.7:3000 is down").message)) := rfl
  have hsecond : (askingAlways.handleByRoutes .secluded 0 redirected messageBob).2 =
      some (.rejected (.policyRejected 500)) := rfl
  obtain ⟨hends, halike⟩ := refusals_final_and_alike
  obtain ⟨-, hreason, hsame⟩ := halike _ _ _ _ 500 _ (hends _ _ _ _ _ _ hfirst) rfl
  exact ⟨_, _, _, _, hfirst, hsecond, by simp, rfl, rfl, hreason,
    hsame _ _ _ _ _ (hends _ _ _ _ _ _ hsecond) rfl⟩

end Server

end CallDispatch
