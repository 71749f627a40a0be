import CallDispatch.Proofs.Dial.Outcomes
import CallDispatch.Server.Basic

/-!
# Requests to an address

The server dials the application that a request is routed to, and the dispatch then looks for the
connection by itself. The two meet at the uri only: what the dialer has found or registered is what
the dispatch finds, and if the dialer fails the dispatch finds nobody. The one failure that the
dispatch would not notice, a missing transport, ends the request before it (`Server.handled_eq`).
-/

namespace CallDispatch

open Text Switchboard

namespace Server

variable {server : Server} {network : Network} {request : Request} {uri : String}

/-! ## The dialer and the dispatch -/

/-- A server that finds a connection at a uri does not dial. -/
lemma dial_of_findTarget_eq_some {handle : Handle}
    (hfound : server.board.registry.findTarget uri = some handle) :
    server.dial network uri = (server, .ok handle) := by
  have hcome : server.dialer.come 0 uri = (server.dialer, some handle) := by
    rw [Dialer.come, show server.dialer.board.registry.findTarget uri = some handle from hfound]
  unfold dial Dialer.dialMany
  simp only [List.range_one, List.foldl_cons, List.foldl_nil, hcome]
  rfl

/-- Dialing by a server is dialing on its switchboard, whatever locks there are. -/
lemma dial_eq (server : Server) (network : Network) (uri : String) :
    ((server.dial network uri).1.board, (server.dial network uri).2) =
      server.board.dial server.dialSettings network.reach uri := by
  cases hfound : server.board.registry.findTarget uri with
  | some handle =>
    rw [dial_of_findTarget_eq_some hfound, Switchboard.dial_of_findTarget_eq_some hfound]
  | none =>
    have hcome : server.dialer.come 0 uri =
        ({ server.dialer with locks := server.dialer.locks.enter 0 uri }, none) := by
      rw [Dialer.come, show server.dialer.board.registry.findTarget uri = none from hfound]
    unfold dial Dialer.dialMany
    simp only [List.range_one, List.foldl_cons, List.foldl_nil, hcome]
    rfl

/-- What a server that finds a connection does with a request does not depend on the network. -/
lemma handle_of_findTarget_eq_some {handle : Handle}
    (hfound : server.board.registry.findTarget uri = some handle) (network : Network) (now : Nat)
    (request : Request) :
    server.handle network now request (.ok (.routeByUri uri)) =
      (server.withBoard (server.board.dispatch now request (.routeByUri uri)).1,
        (server.board.dispatch now request (.routeByUri uri)).2) := by
  unfold Server.handle prepare
  dsimp only
  rw [dial_of_findTarget_eq_some hfound]

section Handling

variable {now : Nat} {after : Server} {result : Option DispatchResult} {dialed : Switchboard}
  (hhandle : server.handle network now request (.ok (.routeByUri uri)) = (after, result))

include hhandle

/-- What a server does with a request to a uri follows from what dialing the uri gives. -/
lemma handled_eq :
    (after.board, result) =
      match server.board.dial server.dialSettings network.reach uri with
      | (dialed, .error (.transportUnavailable target)) =>
        (dialed, some (.rejected (.transportUnavailable target)))
      | (dialed, _) => dialed.dispatch now request (.routeByUri uri) := by
  rw [← dial_eq]
  unfold handle prepare at hhandle
  dsimp only at hhandle
  rcases hdial : server.dial network uri with ⟨dialed, error | handle⟩
  · rw [hdial] at hhandle
    cases error <;> (cases hhandle; rfl)
  · rw [hdial] at hhandle
    cases hhandle
    rfl

/-- A missing transport ends the request. -/
lemma refused_of_dial {target : String}
    (hdial : server.board.dial server.dialSettings network.reach uri =
      (dialed, .error (.transportUnavailable target))) :
    after.board = dialed ∧ Refused 500 result := by
  have hhandled := handled_eq hhandle
  rw [hdial] at hhandled
  cases hhandled
  exact ⟨rfl, _, rfl, rfl⟩

/-- Anything else that dialing gives is left to the dispatch. -/
lemma dispatched_of_dial {outcome : Except DialError Handle}
    (hdial : server.board.dial server.dialSettings network.reach uri = (dialed, outcome))
    (hother : ∀ target, outcome ≠ .error (.transportUnavailable target)) :
    dialed.dispatch now request (.routeByUri uri) = (after.board, result) := by
  rw [handled_eq hhandle, hdial]
  split
  · next heq =>
    cases heq
    exact absurd rfl (hother _)
  · next heq =>
    cases heq
    rfl

/-- A connection that is found is handed the request. -/
lemma submitted_of_found (h : server.board.registry.Consistent)
    (hquiet : ∀ link ∈ server.board.links, link.isQuiet = true) {handle : Handle}
    (hfound : server.board.registry.findTarget uri = some handle) :
    Submitted server.board now request uri handle after.board result := by
  have hdispatch := dispatched_of_dial hhandle
    (Switchboard.dial_of_findTarget_eq_some hfound) (by simp)
  have hsubmitted := submitted_dispatch h (fun link hlink =>
    hquiet link (List.mem_of_getElem? hlink)) hfound now request
  rwa [hdispatch] at hsubmitted

/-- Without TLS a target that needs it is refused. -/
lemma refused_of_secure (hnone : server.board.registry.findTarget uri = none)
    (htls : server.dialsTls = false) (hsecure : Secure uri) :
    after.board = server.board ∧ Refused 500 result := by
  obtain ⟨target, hdial⟩ :=
    @dial_of_secure server.board server.dialSettings network.reach uri hnone htls hsecure
  exact refused_of_dial hhandle hdial

/-- An application that cannot be reached is not found by the dispatch either. -/
lemma refused_of_unreachable (hnone : server.board.registry.findTarget uri = none)
    (hunreachable : server.board.Unreachable server.handshakeSettings network.reach uri) :
    after.board.dispatcher = server.board.dispatcher ∧ after.board.links = server.board.links ∧
      Refused 480 result := by
  obtain ⟨dialed, error, hdial, hother, hdispatcher, hlinks⟩ :=
    @dial_of_unreachable server.board server.dialSettings network.reach uri hnone hunreachable
  have hunfound : dialed.registry.findTarget uri = none := by
    rw [registry, hdispatcher]
    exact hnone
  have hdispatch := dispatched_of_dial hhandle hdial fun target hsame =>
    hother target (Except.error.inj hsame)
  rw [dispatch_of_findTarget_eq_none hunfound] at hdispatch
  cases hdispatch
  exact ⟨hdispatcher, hlinks, _, rfl, rfl⟩

/-- An application that authenticates is registered and handed the request. -/
lemma exists_submitted_of_answers (h : server.board.registry.Consistent)
    (hnone : server.board.registry.findTarget uri = none) {handle : Handle}
    (hanswers : server.board.Answers server.handshakeSettings network.reach uri handle) :
    ∃ dialed, dialed.registry.Consistent ∧
      Registered server.board server.handshakeSettings uri handle dialed ∧
      Submitted dialed now request uri handle after.board result := by
  obtain ⟨dialed, hdial, hconsistent, hregistered⟩ :=
    @exists_registered_dial server.board server.dialSettings network.reach uri h hnone handle
      hanswers
  have hdispatch := dispatched_of_dial hhandle hdial (by simp)
  have hsubmitted := submitted_dispatch hconsistent (fun link hlink =>
    hregistered.isQuiet hlink) hregistered.found now request
  rw [hdispatch] at hsubmitted
  exact ⟨dialed, hconsistent, hregistered, hsubmitted⟩

/-- No connection is stamped, and those that were registered before are as they were, except for the
one that was found and the one that loses the transaction. -/
lemma find?_of_handled (h : server.board.registry.Consistent)
    (hquiet : ∀ link ∈ server.board.links, link.isQuiet = true)
    (htls : server.dialsTls = false) :
    after.board.registry.lastSeq = server.board.registry.lastSeq ∧
      ∀ id slot, server.board.registry.find? id = some slot →
        (∀ handle, server.board.registry.findTarget uri = some handle → handle.id ≠ id) →
        server.board.dispatcher.callOf request.transactionId ≠ some id →
        after.board.registry.find? id = some slot := by
  cases hfound : server.board.registry.findTarget uri with
  | some handle =>
    have hsubmitted := submitted_of_found hhandle h hquiet hfound
    refine ⟨hsubmitted.lastSeq_eq, fun id slot hfind hne hcall => ?_⟩
    rw [hsubmitted.find?_of_ne h (hne handle rfl).symm hcall, hfind]
  | none =>
    rcases secure_or_unreachable_or_answers server.board server.handshakeSettings network.reach uri
      with hsecure | hunreachable | ⟨handle, hanswers⟩
    · rw [(refused_of_secure hhandle hfound htls hsecure).1]
      exact ⟨rfl, fun id slot hfind _ _ => hfind⟩
    · rw [registry, (refused_of_unreachable hhandle hfound hunreachable).1]
      exact ⟨rfl, fun id slot hfind _ _ => hfind⟩
    · obtain ⟨dialed, hconsistent, hregistered, hsubmitted⟩ :=
        exists_submitted_of_answers hhandle h hfound hanswers
      refine ⟨hsubmitted.lastSeq_eq.trans hregistered.lastSeq_eq, fun id slot hfind _ hcall => ?_⟩
      have hne : id ≠ handle.id := by
        rintro rfl
        rw [hregistered.unknown] at hfind
        cases hfind
      have hcall' : dialed.dispatcher.callOf request.transactionId ≠ some id := by
        rw [Dispatcher.callOf, hregistered.calls_eq]
        exact hcall
      rw [hsubmitted.find?_of_ne hconsistent hne hcall', hregistered.others id hne, hfind]

end Handling

/-! ## The main result -/

/-- **Routing to an address.** Let a server without TLS for dialing handle a request that is routed
to a uri, while nothing else happens. If a connection is found at the uri, nobody is dialed and the
request is submitted to it: offered, so that its link and no other takes the request, or refused
with 500 if its transport cannot carry it. If none is found, the request is refused with 500 where
the uri names a target that needs TLS, and with 480 where no connection comes about, and the
registry and the calls are as they were. In the one case that is left, exactly one connection is
registered, with a live link of its own, it is found at the uri, and the request is submitted to it.
No connection is ever stamped, and of those that were registered none but the one found changes,
except that the one which handled the transaction before loses that call. -/
theorem handle_routeByUri {server : Server} {ops : List Registry.Op}
    (hregistry : server.board.registry = ({} : Registry).run ops)
    (htls : server.dialsTls = false)
    (hquiet : ∀ link ∈ server.board.links, link.isQuiet = true)
    (network : Network) (now : Nat) (request : Request) (uri : String) {after : Server}
    {result : Option DispatchResult}
    (hhandle : server.handle network now request (.ok (.routeByUri uri)) = (after, result)) :
    (∀ handle, server.board.registry.findTarget uri = some handle →
      (∀ network', server.handle network' now request (.ok (.routeByUri uri)) = (after, result)) ∧
      Submitted server.board now request uri handle after.board result) ∧
    (server.board.registry.findTarget uri = none →
      (Secure uri ∨ server.board.Unreachable server.handshakeSettings network.reach uri ∨
        ∃ handle, server.board.Answers server.handshakeSettings network.reach uri handle) ∧
      (Secure uri → after.board = server.board ∧ Refused 500 result) ∧
      (server.board.Unreachable server.handshakeSettings network.reach uri →
        after.board.dispatcher = server.board.dispatcher ∧
          after.board.links = server.board.links ∧ Refused 480 result) ∧
      ∀ handle, server.board.Answers server.handshakeSettings network.reach uri handle →
        ∃ dialed, Registered server.board server.handshakeSettings uri handle dialed ∧
          Submitted dialed now request uri handle after.board result) ∧
    after.board.registry.lastSeq = server.board.registry.lastSeq ∧
    ∀ id slot, server.board.registry.find? id = some slot →
      (∀ handle, server.board.registry.findTarget uri = some handle → handle.id ≠ id) →
      server.board.dispatcher.callOf request.transactionId ≠ some id →
      after.board.registry.find? id = some slot := by
  have h : server.board.registry.Consistent := hregistry ▸ Registry.consistent_run ops
  refine ⟨fun handle hfound => ⟨fun network' => ?_, ?_⟩, fun hnone => ⟨?_, ?_, ?_, ?_⟩,
    find?_of_handled hhandle h hquiet htls⟩
  · rw [← hhandle, handle_of_findTarget_eq_some hfound, handle_of_findTarget_eq_some hfound]
  · exact submitted_of_found hhandle h hquiet hfound
  · exact secure_or_unreachable_or_answers server.board server.handshakeSettings network.reach uri
  · exact refused_of_secure hhandle hnone htls
  · exact refused_of_unreachable hhandle hnone
  · intro handle hanswers
    obtain ⟨dialed, -, hregistered, hsubmitted⟩ :=
      exists_submitted_of_answers hhandle h hnone hanswers
    exact ⟨dialed, hregistered, hsubmitted⟩

/-- An application was dialed, handles a call and drains. -/
def oneDrains : List Registry.Op :=
  [.add ⟨⟨1, .outbound, .plain, .empty, some "sip:127.0.0.1:7001", none, 0⟩, .connecting⟩,
    .reserveEntry 1, .beginDrain 0 1]

/-- A server whose only connection drains. -/
def draining : Server where
  config := {}
  identity := "server-1"
  table := {}
  acceptsTls := false
  dialsTls := false
  dialer :=
    { board :=
        { dispatcher := ⟨({} : Registry).run oneDrains, [("t1", 1)]⟩
          links := [.framed { entry := 1, peer := .v4 ⟨127, 0, 0, 1⟩ 7001, wire := {} }]
          nextEntry := 2 }
      locks := {} }

/-- A network on which applications authenticate at once. -/
def authenticating : Network where
  canBind _ := true
  reach _ := .connected (.v4 ⟨127, 0, 0, 1⟩ 7001) (Frame.framed "1|authenticate|cymru") false

/-- A transaction that the draining connection handles is dispatched again. The application is
dialed once more and gets the request in one frame behind its welcome, and the connection that
drains loses its only call and closes. -/
theorem handle_routeByUri_dialedAgain :
    let uri := "sip:127.0.0.1:7001"
    let request : Request :=
      { transactionId := "t1", method := "INVITE", uri := "sip:callee", raw := "INVITE sip:callee" }
    let second : Handle := ⟨2, .outbound, .plain, .empty, some uri,
      some (.v4 ⟨127, 0, 0, 1⟩ 7001), 1⟩
    draining.board.registry.contains 1 = true ∧
    draining.board.registry.findTarget uri = none ∧
    draining.board.Answers draining.handshakeSettings authenticating.reach uri second ∧
    ∃ after result, draining.handle authenticating 5 request (.ok (.routeByUri uri)) =
        (after, result) ∧
      result = some (.delivered second) ∧
      after.board.registry.slots = [{ handle := second, calls := 1 }] ∧
      (after.board.framed? 1).map (·.wire.written) = some (
        Frame.framed "00000000-0000-4000-8000-000000000001|response|1|OK|server-1" ++
        Frame.framed "00000000-0000-4000-8000-000000000002|sip|t1||udp\r\nINVITE sip:callee") ∧
      ∃ dialed, Registered draining.board draining.handshakeSettings uri second dialed ∧
        Submitted dialed 5 request uri second after.board result := by
  intro uri request second
  have hfirst : Frame.First (Frame.framed "1|authenticate|cymru")
      ⟨"1", "authenticate", ["cymru"], none⟩ := by
    refine ⟨"1|authenticate|cymru", [], ?_, by decide +kernel⟩
    have hstarts := Frame.starts_framed (show "1|authenticate|cymru" ≠ "" by decide +kernel)
      (by decide +kernel) []
    rwa [List.append_nil] at hstarts
  have hconnects : Connects authenticating.reach uri ⟨"127.0.0.1", 7001, .plain⟩
      (.v4 ⟨127, 0, 0, 1⟩ 7001) (Frame.framed "1|authenticate|cymru") false :=
    ⟨by decide, rfl, rfl⟩
  have hanswers : draining.board.Answers draining.handshakeSettings authenticating.reach uri
      second :=
    .authenticates hconnects hfirst ⟨⟨rfl, rfl⟩, by decide +kernel⟩ (by decide +kernel)
  have hnone : draining.board.registry.findTarget uri = none := by decide +kernel
  have hresult : (draining.handle authenticating 5 request (.ok (.routeByUri uri))).2 =
      some (.delivered second) := by
    decide +kernel
  have hslots : (draining.handle authenticating 5 request
      (.ok (.routeByUri uri))).1.board.registry.slots = [{ handle := second, calls := 1 }] := by
    decide +kernel
  have hwritten : ((draining.handle authenticating 5 request
      (.ok (.routeByUri uri))).1.board.framed? 1).map (·.wire.written) = some (
        Frame.framed "00000000-0000-4000-8000-000000000001|response|1|OK|server-1" ++
        Frame.framed "00000000-0000-4000-8000-000000000002|sip|t1||udp\r\nINVITE sip:callee") := by
    decide +kernel
  rcases hhandle : draining.handle authenticating 5 request (.ok (.routeByUri uri)) with
    ⟨after, result⟩
  rw [hhandle] at hresult hslots hwritten
  have hregistry : draining.board.registry = ({} : Registry).run oneDrains := rfl
  obtain ⟨-, hunfound, -⟩ := handle_routeByUri hregistry rfl (by decide +kernel) authenticating 5
    request uri hhandle
  obtain ⟨-, -, -, hdialed⟩ := hunfound hnone
  exact ⟨by decide +kernel, hnone, hanswers, after, result, rfl, hresult, hslots,
    hwritten, hdialed second hanswers⟩

end Server

end CallDispatch
