import CallDispatch.Server.Basic
import CallDispatch.Url.Parser
import Mathlib.Tactic.Lemma

/-!
# Failed starts

A start binds the configured listeners one after another, and any of them may fail. The first step
of every start is to note that there was one, and nothing takes that back. A start that fails is
therefore the only one that the server ever gets (`Server.Doomed`), and the plain listener stays
open if it was bound before the other one failed; whoever connects there is never registered.

Of the life of a server only starts and shutdowns change anything (`Server.life_perform`), so what
holds behind a failed start holds for good.

## Main definitions

* `Server.Act`, `Server.performAll`: what may happen to a server, and any sequence of it.
* `Server.life`: what of a server its starts and shutdowns change.
* `Server.PlainFails`, `Server.SecureFails`: the ways in which binding the listeners can fail.
-/

namespace CallDispatch

namespace Server

/-! ## Runs -/

/-- Something that happens to a server. -/
inductive Act
  | start (network : Network) (now : Nat)
  | shutdown
  | advance (now ms : Nat)
  | settle (now : Nat)
  | takeReceiver
  | nextMessage
  | accept (transport : Transport) (peer : SocketAddress) (wire : Wire)
  | dial (network : Network) (uri : String)
  | handle (network : Network) (now : Nat) (request : Request)
      (decision : Except ResolverError Outcome)
  /-- Anything else that happens to its connections, links and calls. -/
  | turn (change : Switchboard → Switchboard)

/-- What an act does. -/
def perform (server : Server) : Act → Server
  | .start network now => (server.start network now).1
  | .shutdown => server.shutdown
  | .advance now ms => server.advance now ms
  | .settle now => server.settle now
  | .takeReceiver => server.takeReceiver.1
  | .nextMessage => server.nextMessage.1
  | .accept transport peer wire => (server.accept transport peer wire).1
  | .dial network uri => (server.dial network uri).1
  | .handle network now request decision => (server.handle network now request decision).1
  | .turn change => server.withBoard (change server.board)

/-- What a sequence of acts does. -/
def performAll (server : Server) (acts : List Act) : Server :=
  acts.foldl perform server

lemma performAll_cons (server : Server) (act : Act) (acts : List Act) :
    server.performAll (act :: acts) = (server.perform act).performAll acts := rfl

/-! ## The life of a server -/

/-- What of a server its starts and shutdowns change. -/
structure Life where
  started : Bool
  stopped : Bool
  listening : Listeners
  running : Bool

/-- The life of a server so far. -/
def life (server : Server) : Life :=
  ⟨server.started, server.stopped, server.listening, server.isRunning⟩

variable {server : Server} {network : Network}

lemma life_advance (server : Server) (now ms : Nat) :
    (server.advance now ms).life = server.life := by
  unfold advance
  dsimp only
  split
  · rfl
  · next due hnext =>
    split
    · rfl
    · -- sweeps go on, the next one later
      simp [life, settle, sweep, isRunning, withBoard, hnext]

lemma life_nextMessage (server : Server) : server.nextMessage.1.life = server.life := by
  unfold nextMessage
  dsimp only
  split <;> rfl

lemma life_accept (server : Server) (transport : Transport) (peer : SocketAddress) (wire : Wire) :
    (server.accept transport peer wire).1.life = server.life := by
  unfold accept
  rcases server.board.establish server.handshakeSettings ⟨.inbound, transport, peer, none⟩ wire with
    ⟨board, wire, e | entry⟩
  · rfl
  · dsimp only
    split <;> rfl

lemma life_prepare (server : Server) (network : Network) (outcome : Outcome) :
    (server.prepare network outcome).1.life = server.life := by
  have hdial : ∀ uri, (server.dial network uri).1.life = server.life := fun _ => rfl
  unfold prepare
  split
  · next uri =>
    split
    · next server' target h => exact (congrArg (life ∘ Prod.fst) h).symm.trans (hdial uri)
    · next server' result _ h => exact (congrArg (life ∘ Prod.fst) h).symm.trans (hdial uri)
  · rfl

lemma life_handle (server : Server) (network : Network) (now : Nat) (request : Request)
    (decision : Except ResolverError Outcome) :
    (server.handle network now request decision).1.life = server.life := by
  unfold handle
  cases decision with
  | error e => rfl
  | ok outcome =>
    have hprepare := life_prepare server network outcome
    dsimp only
    rcases hprepared : server.prepare network outcome with ⟨prepared, refusal⟩
    rw [hprepared] at hprepare
    cases refusal with
    | some e => exact hprepare
    | none => exact hprepare

/-- Only starts and shutdowns change the life of a server. -/
lemma life_perform (server : Server) (act : Act) :
    (server.perform act).life = match act with
      | .start network now => (server.start network now).1.life
      | .shutdown => ⟨server.started, true, {}, false⟩
      | _ => server.life := by
  cases act with
  | start | shutdown | settle | takeReceiver | dial | turn => rfl
  | advance now ms => exact life_advance server now ms
  | nextMessage => exact life_nextMessage server
  | accept transport peer wire => exact life_accept server transport peer wire
  | handle network now request decision => exact life_handle server network now request decision

/-! ## Starting -/

/-- The listener for plain connections cannot be bound. -/
def PlainFails (server : Server) (network : Network) : Prop :=
  ∃ address, server.config.tcpListen = some address ∧ network.canBind address = false

/-- The listener for connections over TLS cannot be bound: nothing accepts TLS, the address is not
available, or the listener for plain connections takes it. -/
def SecureFails (server : Server) (network : Network) : Prop :=
  ∃ address, server.config.tlsListen = some address ∧
    (server.acceptsTls = false ∨ network.canBind address = false ∨
      ∃ plain, server.config.tcpListen = some plain ∧ plain.conflicts address = true)

/-- The listener for plain connections cannot be bound, or it is open if one is configured. -/
lemma bindTcp_cases (server : Server) (network : Network) (hlistening : server.listening = {}) :
    server.PlainFails network ∧
        server.bindTcp network = (server, .error (.io "cannot bind the listener")) ∨
      ¬server.PlainFails network ∧
        server.bindTcp network =
          ({ server with listening := ⟨server.config.tcpListen.isSome, false⟩ }, .ok ()) := by
  unfold bindTcp PlainFails
  cases htcp : server.config.tcpListen with
  | none =>
    refine Or.inr ⟨by simp, ?_⟩
    rw [Option.isSome_none, ← show server.listening = ⟨false, false⟩ from hlistening]
  | some address =>
    by_cases hbind : network.canBind address = true
    · refine Or.inr ⟨by simp [hbind], ?_⟩
      simp only [hbind, if_true, hlistening, Option.isSome_some]
    · refine Or.inl ⟨⟨address, rfl, Bool.eq_false_iff.2 hbind⟩, ?_⟩
      simp only [hbind]
      rfl

/-- With the plain listener open, the listener for connections over TLS cannot be bound, or it is
bound. -/
lemma bindTls_cases (server : Server) (network : Network)
    (hlistening : server.listening.tcp = server.config.tcpListen.isSome) :
    server.SecureFails network ∧ (∃ error, server.bindTls network = (server, .error error)) ∨
      ¬server.SecureFails network ∧ (server.bindTls network).2 = .ok () := by
  unfold bindTls SecureFails
  cases htls : server.config.tlsListen with
  | none => exact Or.inr ⟨by simp, rfl⟩
  | some address =>
    have htaken : server.isTaken address = true ↔
        ∃ plain, server.config.tcpListen = some plain ∧ plain.conflicts address = true := by
      rw [isTaken, hlistening]
      cases server.config.tcpListen <;> simp
    dsimp only
    by_cases haccepts : server.acceptsTls = true
    · rw [if_neg (not_not_intro haccepts)]
      split
      · next hbinds =>
        refine Or.inr ⟨?_, rfl⟩
        rintro ⟨other, hother, hfails⟩
        cases hother
        rcases hfails with hno | hno | hno
        · rw [haccepts] at hno
          cases hno
        · rw [hbinds.1] at hno
          cases hno
        · exact hbinds.2 (htaken.2 hno)
      · next hfails =>
        refine Or.inl ⟨⟨address, rfl, Or.inr ?_⟩, _, rfl⟩
        by_cases hbind : network.canBind address = true
        · exact Or.inr (htaken.1 (by simpa [hbind] using hfails))
        · exact Or.inl (Bool.eq_false_iff.2 hbind)
    · rw [if_pos haccepts]
      exact Or.inl ⟨⟨address, rfl, Or.inl (Bool.eq_false_iff.2 haccepts)⟩, _, rfl⟩

/-- A second start is refused and changes nothing. -/
lemma start_of_started (h : server.started = true) (network : Network) (now : Nat) :
    server.start network now = (server, .error (.config "server already started")) :=
  if_pos h

/-- What becomes of the first start of a server. -/
lemma start_cases (hnew : server.started = false) (hlistening : server.listening = {})
    (network : Network) (now : Nat) :
    (server.PlainFails network ∧
      ∃ error, server.start network now = ({ server with started := true }, .error error)) ∨
    (¬server.PlainFails network ∧ server.SecureFails network ∧
      ∃ error, server.start network now =
        (closeIfStopped { server with
          started := true
          listening := ⟨server.config.tcpListen.isSome, false⟩ }, .error error)) ∨
    (¬server.PlainFails network ∧ ¬server.SecureFails network ∧
      ∃ listeners, (server.start network now).2 = .ok listeners) := by
  unfold start
  rw [if_neg (Bool.eq_false_iff.1 hnew)]
  -- that there was a start does not matter for the listeners
  rcases bindTcp_cases { server with started := true } network hlistening with
    ⟨hplain, hbind⟩ | ⟨hplain, hbind⟩
  · rw [hbind]
    exact Or.inl ⟨hplain, _, rfl⟩
  · rw [hbind]
    refine Or.inr ?_
    dsimp only
    rcases bindTls_cases { server with
        started := true
        listening := ⟨server.config.tcpListen.isSome, false⟩ } network rfl with
      ⟨hsecure, error, hbind⟩ | ⟨hsecure, hbind⟩
    · rw [hbind]
      exact Or.inl ⟨hplain, hsecure, error, rfl⟩
    · refine Or.inr ⟨hplain, hsecure, ?_⟩
      generalize bindTls _ network = bound at hbind ⊢
      obtain ⟨bound, result⟩ := bound
      cases hbind
      exact ⟨_, rfl⟩

/-- A start that fails leaves the plain listener open where only the other one fails. -/
lemma exists_of_start_failed (hnew : server.started = false) (hlistening : server.listening = {})
    {now : Nat} {failed : Server} {error : ServerError}
    (hfails : server.start network now = (failed, .error error)) :
    ∃ plain, failed = { server with started := true, listening := ⟨plain, false⟩ } ∧
      (plain = true ↔ server.config.tcpListen.isSome = true ∧ ¬server.PlainFails network ∧
        server.stopped = false) := by
  rcases start_cases hnew hlistening network now with
    ⟨hplain, other, hstart⟩ | ⟨hplain, -, other, hstart⟩ | ⟨-, -, listeners, hstart⟩
  · rw [hfails] at hstart
    cases hstart
    refine ⟨false, ?_, by simp [hplain]⟩
    rw [← show server.listening = ⟨false, false⟩ from hlistening]
  · rw [hfails] at hstart
    cases hstart
    by_cases hstopped : server.stopped = true
    · exact ⟨false, if_pos hstopped, by simp [hstopped]⟩
    · exact ⟨server.config.tcpListen.isSome, if_neg hstopped, by simp [hplain, hstopped]⟩
  · rw [hfails] at hstart
    cases hstart

lemma started_bindTcp (server : Server) (network : Network) :
    (server.bindTcp network).1.started = server.started := by
  unfold bindTcp
  split
  · rfl
  · split <;> rfl

lemma started_bindTls (server : Server) (network : Network) :
    (server.bindTls network).1.started = server.started := by
  unfold bindTls
  split
  · rfl
  · split
    · rfl
    · split <;> rfl

lemma started_closeIfStopped (server : Server) :
    server.closeIfStopped.started = server.started := by
  unfold closeIfStopped
  split <;> rfl

lemma started_run (server : Server) (now : Nat) : (server.run now).started = server.started := by
  unfold run
  split
  · rfl
  · rfl

/-- A start is noted, whatever becomes of it. -/
lemma started_start (server : Server) (network : Network) (now : Nat) :
    (server.start network now).1.started = true := by
  unfold start
  split
  · next hstarted => exact hstarted
  · have htcp := started_bindTcp { server with started := true } network
    generalize bindTcp _ network = bound at htcp ⊢
    obtain ⟨bound, e | ⟨⟩⟩ := bound
    · exact htcp
    · have htls := (started_bindTls bound network).trans htcp
      dsimp only
      generalize bindTls bound network = last at htls ⊢
      obtain ⟨last, e | ⟨⟩⟩ := last
      · exact (started_closeIfStopped last).trans htls
      · exact (started_run _ now).trans ((started_closeIfStopped last).trans htls)

/-! ## Before and behind the first start -/

/-- As long as no start was tried, nothing listens and nothing runs. -/
def Life.Orderly (life : Life) : Prop :=
  life.started = false → life.listening = {} ∧ life.running = false

lemma orderly_make {read : Url.Reader} {config : Config} {identity : String}
    {acceptsTls dialsTls : Bool}
    (hmake : make read config identity acceptsTls dialsTls = .ok server) : server.life.Orderly := by
  unfold make at hmake
  split at hmake
  · cases hmake
  · cases hmake
  · cases hmake
    exact fun _ => ⟨rfl, rfl⟩

lemma orderly_perform (h : server.life.Orderly) (act : Act) :
    (server.perform act).life.Orderly := by
  rw [life_perform]
  cases act with
  | start network now =>
    intro hnot
    exact absurd ((started_start server network now).symm.trans hnot) (by simp)
  | shutdown => exact fun _ => ⟨rfl, rfl⟩
  | _ => exact h

lemma orderly_performAll (h : server.life.Orderly) (acts : List Act) :
    (server.performAll acts).life.Orderly := by
  induction acts generalizing server with
  | nil => exact h
  | cons act acts ih => exact ih (orderly_perform h act)

/-- A start was tried, and yet no background work runs: that is how it stays. -/
structure Doomed (server : Server) : Prop where
  started : server.started = true
  idle : server.isRunning = false

/-- What an act leaves of a server whose start has failed. -/
lemma Doomed.perform (h : server.Doomed) (act : Act) :
    (server.perform act).Doomed ∧ (server.perform act).listening =
      match act with
      | .shutdown => {}
      | _ => server.listening := by
  have hlife := life_perform server act
  cases act with
  | start network now =>
    rw [show server.perform (.start network now) = server from
      congrArg Prod.fst (start_of_started h.started network now)]
    exact ⟨h, rfl⟩
  | shutdown => exact ⟨⟨h.started, rfl⟩, rfl⟩
  | _ =>
    exact ⟨⟨(congrArg Life.started hlife).trans h.started,
      (congrArg Life.running hlife).trans h.idle⟩, congrArg Life.listening hlife⟩

/-- The listeners that a failed start has left are open until the server is shut down. -/
lemma Doomed.performAll (h : server.Doomed) (acts : List Act) :
    (server.performAll acts).Doomed ∧
      (.shutdown ∉ acts → (server.performAll acts).listening = server.listening) ∧
      (.shutdown ∈ acts → (server.performAll acts).listening = {}) := by
  induction acts generalizing server with
  | nil => exact ⟨h, fun _ => rfl, fun hmem => absurd hmem List.not_mem_nil⟩
  | cons act acts ih =>
    obtain ⟨hnext, hlistening⟩ := h.perform act
    obtain ⟨hlater, hkept, hclosed⟩ := ih hnext
    refine ⟨hlater, fun hnot => ?_, fun hmem => ?_⟩
    · rw [List.mem_cons, not_or] at hnot
      rw [performAll_cons, hkept hnot.2, hlistening]
      cases act with
      | shutdown => exact absurd rfl hnot.1
      | _ => rfl
    · by_cases hagain : Act.shutdown ∈ acts
      · exact hclosed hagain
      · -- this shutdown is the last one
        obtain rfl := (List.mem_cons.1 hmem).resolve_right hagain
        exact (hkept hagain).trans hlistening

/-- Without the background work nobody who connects is registered. -/
lemma accept_of_idle (h : server.isRunning = false) (transport : Transport) (peer : SocketAddress)
    (wire : Wire) : (server.accept transport peer wire).2.2 = none := by
  unfold accept
  rcases server.board.establish server.handshakeSettings ⟨.inbound, transport, peer, none⟩ wire with
    ⟨board, wire, e | entry⟩
  · rfl
  · simp only [h]
    rfl

/-! ## The main result -/

/-- **Failed starts.** A start of a server on which none was tried yet fails exactly if one of its
listeners cannot be bound. The server is then as it was, except for two things. It counts as
started, so every later start is refused, whatever happens in between and whether or not the
listeners could be bound by now. And if a plain listener is configured and only the other one
failed, the plain one stays open until the server is shut down, although nobody who connects there
is ever registered. -/
theorem start_fails_for_good {read : Url.Reader} {config : Config} {identity : String}
    {acceptsTls dialsTls : Bool} {initial : Server}
    (hmake : make read config identity acceptsTls dialsTls = .ok initial)
    {earlier : List Act} {server : Server} (hserver : server = initial.performAll earlier)
    (hnew : server.started = false) (network : Network) (now : Nat) :
    ((∃ error, (server.start network now).2 = .error error) ↔
      server.PlainFails network ∨ server.SecureFails network) ∧
    ∀ failed error, server.start network now = (failed, .error error) →
      (∃ plain, failed = { server with started := true, listening := ⟨plain, false⟩ } ∧
        (plain = true ↔ server.config.tcpListen.isSome = true ∧ ¬server.PlainFails network ∧
          server.stopped = false)) ∧
      ∀ acts : List Act,
        (∀ network now, (failed.performAll acts).start network now =
          (failed.performAll acts, .error (.config "server already started"))) ∧
        (∀ transport peer wire,
          ((failed.performAll acts).accept transport peer wire).2.2 = none) ∧
        (.shutdown ∉ acts → (failed.performAll acts).listening = failed.listening) ∧
        (.shutdown ∈ acts → (failed.performAll acts).listening = {}) := by
  obtain ⟨hlistening, hidle⟩ : server.listening = {} ∧ server.isRunning = false :=
    hserver ▸ orderly_performAll (orderly_make hmake) earlier (hserver ▸ hnew)
  refine ⟨⟨?_, ?_⟩, fun failed error hfails => ?_⟩
  · rintro ⟨error, hfails⟩
    rcases start_cases hnew hlistening network now with
      ⟨hplain, -⟩ | ⟨-, hsecure, -⟩ | ⟨-, -, listeners, hstart⟩
    · exact Or.inl hplain
    · exact Or.inr hsecure
    · rw [hfails] at hstart
      cases hstart
  · intro hfails
    rcases start_cases hnew hlistening network now with
      ⟨-, error, hstart⟩ | ⟨-, -, error, hstart⟩ | ⟨hplain, hsecure, -⟩
    · exact ⟨error, congrArg Prod.snd hstart⟩
    · exact ⟨error, congrArg Prod.snd hstart⟩
    · exact absurd hfails (not_or.2 ⟨hplain, hsecure⟩)
  · obtain ⟨plain, hfailed, hopen⟩ := exists_of_start_failed hnew hlistening hfails
    have hdoomed : failed.Doomed := by
      rw [hfailed]
      exact ⟨rfl, hidle⟩
    refine ⟨⟨plain, hfailed, hopen⟩, fun acts => ?_⟩
    obtain ⟨hlater, hkept, hclosed⟩ := hdoomed.performAll acts
    exact ⟨start_of_started hlater.started, accept_of_idle hlater.idle, hkept, hclosed⟩

/-- A new server with a listener of each kind. -/
def twoListeners : Server where
  config := { tlsListen := some (.v4 ⟨127, 0, 0, 1⟩ 9023) }
  identity := "server-1"
  table := {}
  acceptsTls := true
  dialsTls := false
  dialer := ⟨{}, {}⟩

/-- A network on which one port is taken. -/
def withoutPort (port : UInt16) : Network :=
  { Network.secluded with canBind := fun address => address.port != port }

/-- The start fails since the second address is taken. A minute later the server is started again,
in vain, although the address is free by then, and finally it is shut down. -/
theorem start_fails_for_good_secondTaken :
    make Url.read twoListeners.config "server-1" true false = .ok twoListeners ∧
    ∃ failed error, twoListeners.start (withoutPort 9023) 0 = (failed, .error error) ∧
      (twoListeners.PlainFails (withoutPort 9023) ∨ twoListeners.SecureFails (withoutPort 9023)) ∧
      failed.listening = ⟨true, false⟩ ∧
      let later := failed.performAll [.advance 0 60000]
      later.listening = ⟨true, false⟩ ∧
      later.start .secluded 0 = (later, .error (.config "server already started")) ∧
      (later.performAll [.shutdown]).listening = {} := by
  have hmake : make Url.read twoListeners.config "server-1" true false = .ok twoListeners := rfl
  refine ⟨hmake, { twoListeners with started := true, listening := ⟨true, false⟩ },
    .io "cannot bind the listener", rfl, ?_⟩
  have hnothing : twoListeners = twoListeners.performAll [] := rfl
  obtain ⟨hfails, hafter⟩ := start_fails_for_good hmake hnothing rfl (withoutPort 9023) 0
  obtain ⟨-, hlater⟩ := hafter _ _ rfl
  obtain ⟨hrefused, -, hkept, -⟩ := hlater [.advance 0 60000]
  obtain ⟨-, -, -, hclosed⟩ := hlater [.advance 0 60000, .shutdown]
  exact ⟨hfails.1 ⟨_, rfl⟩, rfl, hkept (by simp), hrefused .secluded 0, hclosed (by simp)⟩

/-- **A failed start that leaves traces.** The configuration is valid, and the start fails at the
second listener. The first one stays open, and a second start is refused where a first one succeeds.
-/
theorem start_leaves_listener :
    make Url.read twoListeners.config "server-1" true false = .ok twoListeners ∧
    twoListeners.started = false ∧ twoListeners.listening = {} ∧
    ∃ failed error, twoListeners.start (withoutPort 9023) 0 = (failed, .error error) ∧
      failed.listening = ⟨true, false⟩ ∧
      (failed.start .secluded 0).2 = .error (.config "server already started") ∧
      (twoListeners.start .secluded 0).2 = .ok ⟨true, true⟩ :=
  ⟨rfl, rfl, rfl, { twoListeners with started := true, listening := ⟨true, false⟩ },
    .io "cannot bind the listener", rfl, rfl, rfl, rfl⟩

end Server

end CallDispatch
