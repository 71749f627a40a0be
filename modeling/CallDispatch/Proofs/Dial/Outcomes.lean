import CallDispatch.Proofs.Dispatch.Offers
import CallDispatch.Proofs.Link.Admission
import CallDispatch.Proofs.Link.Switchboard

/-!
# What dialing comes to

An attempt to dial a uri where no connection is found ends in one of three ways: the uri names a
target that needs TLS, which may be missing; no connection comes about, for whatever reason; or the
application authenticates and exactly one connection is registered, which is found at the uri from
then on and has a live link on which it has been welcomed and nothing else has been written. In the
first two cases the registry and the links are as they were, and the two can be told apart: nothing
fails for want of a transport but a target that needs it.

## Main definitions

* `Switchboard.Unreachable`: the ways in which no connection to an application comes about.
* `Switchboard.Answers`: an application can be reached, and authenticates.
* `Switchboard.Fresh`: the link of a connection that has just been registered.
* `Switchboard.Registered`: exactly one dialed connection has been registered.
-/

namespace CallDispatch

open Text

/-! ## Handshakes -/

/-- A handshake does not fail for want of a transport. -/
lemma Handshake.run_ne_transportUnavailable {settings : HandshakeSettings} {wire : Wire}
    {answerId : String} {error : DialError}
    (h : (run settings wire answerId).2 = some (.error error)) (target : String) :
    error ≠ .transportUnavailable target := by
  have hanswer : ∀ wire frame, (answer settings wire answerId frame).2 = .error error →
      error ≠ .transportUnavailable target := by
    intro wire frame hanswer
    unfold answer refuse at hanswer
    split at hanswer
    · cases hanswer
      simp
    · split at hanswer
      · cases hanswer
        simp
      · dsimp only at hanswer
        split at hanswer
        · cases hanswer
          simp
        · cases hanswer
  unfold run at h
  split at h
  · cases h
  · cases h
    simp
  · cases h
    simp
  · split at h
    · cases h
      simp
    · exact hanswer _ _ (Option.some.inj h)

namespace Opening

variable {opening : Opening} {settings : HandshakeSettings} {answerId : String} {id : EntryId}
  {wire : Wire}

/-- A connection does not fail to be established for want of a transport. -/
lemma establish_ne_transportUnavailable {error : DialError}
    (h : (opening.establish settings answerId id wire).2 = .error error) (target : String) :
    error ≠ .transportUnavailable target := by
  unfold establish at h
  rcases hrun : Handshake.run settings wire answerId with ⟨wire, _ | e | tags⟩
  · rw [hrun] at h
    cases h
    simp
  · rw [hrun] at h
    cases h
    exact Handshake.run_ne_transportUnavailable (congrArg Prod.snd hrun) target
  · rw [hrun] at h
    cases h

/-- A stream on which nobody is admitted does not become a connection. -/
lemma exists_error_of_not_admits {bytes : Bytes} {closes : Bool}
    (hnot : ∀ frame, Frame.First bytes frame → ¬Handshake.Admits settings answerId frame) :
    ∃ error, (opening.establish settings answerId id (streamOf bytes closes)).2 = .error error := by
  cases hresult : (opening.establish settings answerId id (streamOf bytes closes)).2 with
  | error error => exact ⟨error, rfl⟩
  | ok entry =>
    obtain ⟨frame, hfirst, hadmits⟩ := establish_eq_ok_iff.1 ⟨entry, hresult⟩
    exact absurd hadmits (hnot frame hfirst)

end Opening

/-! ## Dialing on the switchboard -/

namespace Registry

variable {registry : Registry} {entry : Entry} {handle : Handle} {uri : String} {id : EntryId}

/-- The registry when a new connection has been registered. -/
lemma add_of_new (hnew : registry.contains entry.handle.id = false)
    (hstate : entry.state = .connecting) :
    registry.add entry = ({ registry with
      slots := insertSlot { handle := entry.handle } registry.slots
      outbound := cache registry.outbound entry.handle.target entry.handle.id },
      .ok entry.handle) := by
  unfold add Entry.transition
  simp only [hnew, hstate]
  rfl

/-- Registering a connection leaves all others as they are. -/
lemma find?_add_of_ne (h : registry.Consistent) (entry : Entry) (hne : id ≠ entry.handle.id) :
    (registry.add entry).1.find? id = registry.find? id := by
  ext slot
  rw [find?_eq_some_iff (h.add entry).ascending, find?_eq_some_iff h.ascending]
  rcases add_cases registry entry with ⟨error, hsame⟩ | ⟨-, hadd⟩
  · rw [hsame]
  · rw [hadd, mem_insertSlot]
    constructor
    · rintro ⟨rfl | hslot, rfl⟩
      · exact absurd rfl hne
      · exact ⟨hslot, rfl⟩
    · rintro ⟨hslot, hid⟩
      exact ⟨Or.inr hslot, hid⟩

/-- A connection that has just been registered is active and has no calls. -/
lemma find?_add_of_new (h : registry.Consistent)
    (hnew : registry.contains entry.handle.id = false) (hstate : entry.state = .connecting) :
    (registry.add entry).1.find? entry.handle.id = some { handle := entry.handle } := by
  rw [find?_eq_some_iff (h.add entry).ascending, add_of_new hnew hstate]
  exact ⟨mem_insertSlot.2 (Or.inl rfl), rfl⟩

/-- A connection that has just been registered is found at the uri at which it was dialed. -/
lemma findTarget_add_of_new (h : registry.Consistent)
    (hnew : registry.contains entry.handle.id = false) (hstate : entry.state = .connecting)
    (htarget : entry.handle.target = some uri) :
    (registry.add entry).1.findTarget uri = some entry.handle := by
  have hcached : (registry.add entry).1.cached? uri = some entry.handle.id := by
    rw [add_of_new hnew hstate, cached?, htarget]
    exact List.lookup_cons_self
  rw [findTarget, hcached, Option.bind_some, find?_add_of_new h hnew hstate]
  rfl

end Registry

namespace Switchboard

variable {board : Switchboard} {settings : HandshakeSettings} {opening : Opening}
  {arriving : Bytes} {ended : Bool}

/-- A link that has just been made for a connection: a live stream to its peer, on which nothing has
been written but the response that lets the application in. -/
structure Fresh (board : Switchboard) (settings : HandshakeSettings) (handle : Handle)
    (link : FramedLink) : Prop where
  entry : link.entry = handle.id
  peer : handle.remote = some link.peer
  alive : link.alive = true
  writable : link.wire.Writable
  written : ∃ requestId, link.wire.written = Frame.framed
    (Frame.response (messageId board.nextMessage) requestId true (some settings.identity)).payload

/-- A dialed connection has been registered, and nothing else has happened. -/
structure Registered (before : Switchboard) (settings : HandshakeSettings) (uri : String)
    (handle : Handle) (after : Switchboard) : Prop where
  outbound : handle.direction = .outbound
  target : handle.target = some uri
  /-- The connection is new. -/
  unknown : before.registry.find? handle.id = none
  slot : after.registry.find? handle.id = some { handle }
  others : ∀ id, id ≠ handle.id → after.registry.find? id = before.registry.find? id
  found : after.registry.findTarget uri = some handle
  /-- The uri leads to the connection, and all others lead where they did. -/
  outbound_iff : ∀ other id, (other, id) ∈ after.registry.outbound ↔
    (other = uri ∧ id = handle.id) ∨ other ≠ uri ∧ (other, id) ∈ before.registry.outbound
  lastSeq_eq : after.registry.lastSeq = before.registry.lastSeq
  calls_eq : after.dispatcher.calls = before.dispatcher.calls
  /-- The connection has a link of its own. -/
  number : handle.link = before.links.length
  links_eq : ∃ link, after.links = before.links ++ [.framed link] ∧
    Fresh before settings handle link
  /-- Besides, its reader is woken, and the next message and connection have other numbers. -/
  rest_eq : after = { before with
    dispatcher := after.dispatcher
    links := after.links
    woken := before.woken ++ [handle.link]
    nextMessage := before.nextMessage + 1
    nextEntry := before.nextEntry + 1 }

/-- The link of a connection that has been registered is quiet. -/
lemma Registered.isQuiet {before after : Switchboard} {uri : String} {handle : Handle}
    (h : Registered before settings uri handle after) {link : Link}
    (hlink : after.links[handle.link]? = some link) : link.isQuiet = true := by
  obtain ⟨own, hlinks, -⟩ := h.links_eq
  rw [hlinks, h.number, List.getElem?_concat_length] at hlink
  cases hlink
  rfl

/-- A connection whose id is taken is refused. -/
lemma enroll_of_known (board : Switchboard) {entry : Entry}
    (hknown : board.registry.contains entry.handle.id = true)
    (peer : SocketAddress) (wire : Wire) :
    board.enroll peer entry wire = (board, .error (.duplicateId entry.handle.id)) := by
  unfold enroll connect Registry.add
  dsimp only
  rw [if_pos hknown]

/-- The switchboard when an answer and a connection have got their numbers. -/
def numbered (board : Switchboard) : Switchboard :=
  { board with nextMessage := board.nextMessage + 1, nextEntry := board.nextEntry + 1 }

/-- Whoever is admitted is about to be registered. -/
lemma exists_greet_of_admits {frame : Frame} (hfirst : Frame.First arriving frame)
    (hadmits : Handshake.Admits settings (messageId board.nextMessage) frame) :
    ∃ wire : Wire, wire.Writable ∧
      wire.written = Frame.framed
        (Handshake.welcome settings (messageId board.nextMessage) frame).payload ∧
      board.greet settings opening arriving ended =
        match board.numbered.enroll opening.peer
          (opening.entry board.nextEntry (Handshake.tagsOf frame)) wire with
        | (board, .ok handle) => (board, .ok handle)
        | (board, .error e) => (board, .error (.registry e)) := by
  obtain ⟨wire, hestablish, hwritable, hwritten⟩ :=
    Opening.exists_establish_of_admits opening board.nextEntry ended hfirst hadmits
  refine ⟨wire, hwritable, hwritten, ?_⟩
  unfold greet establish
  unfold Opening.streamOf at hestablish
  dsimp only at hestablish ⊢
  rw [hestablish]
  rfl

/-- A connection that cannot be registered leaves the registry as it was. -/
lemma greet_of_known {frame : Frame} (hfirst : Frame.First arriving frame)
    (hadmits : Handshake.Admits settings (messageId board.nextMessage) frame)
    (hknown : board.registry.contains board.nextEntry = true) :
    board.greet settings opening arriving ended =
      (board.numbered, .error (.registry (.duplicateId board.nextEntry))) := by
  obtain ⟨wire, -, -, hgreet⟩ := @exists_greet_of_admits board settings opening arriving ended
    frame hfirst hadmits
  have hrefused := @enroll_of_known board.numbered
    (opening.entry board.nextEntry (Handshake.tagsOf frame)) hknown opening.peer wire
  rw [hgreet, hrefused]
  rfl

/-- Registering a dialed connection with a link of its own does that and nothing else. -/
lemma registered_of_new (h : board.registry.Consistent) {uri : String} (entry : Entry)
    (hnew : board.registry.contains entry.handle.id = false) (hstate : entry.state = .connecting)
    (houtbound : entry.handle.direction = .outbound) (htarget : entry.handle.target = some uri)
    (hnumber : entry.handle.link = board.links.length) {link : FramedLink}
    (hfresh : Fresh board settings entry.handle link) :
    Registered board settings uri entry.handle
      { board.withRegistry (board.registry.add entry).1 with
        links := board.links ++ [.framed link]
        woken := board.woken ++ [board.links.length]
        nextMessage := board.nextMessage + 1
        nextEntry := board.nextEntry + 1 } where
  outbound := houtbound
  target := htarget
  unknown := Option.not_isSome_iff_eq_none.1 (Bool.eq_false_iff.1 hnew)
  slot := Registry.find?_add_of_new h hnew hstate
  others _ hne := Registry.find?_add_of_ne h entry hne
  found := Registry.findTarget_add_of_new h hnew hstate htarget
  outbound_iff other id := by
    show (other, id) ∈ (board.registry.add entry).1.outbound ↔ _
    rw [Registry.add_of_new hnew hstate, Registry.mem_cache, htarget]
    simp [eq_comm]
  lastSeq_eq := by
    show (board.registry.add entry).1.lastSeq = _
    rw [Registry.add_of_new hnew hstate]
  calls_eq := rfl
  number := hnumber
  links_eq := ⟨link, rfl, hfresh⟩
  rest_eq := by
    rw [hnumber]
    rfl

/-- The handle of the next connection that is dialed without TLS. -/
def dialedHandle (board : Switchboard) (peer : SocketAddress) (uri : String) (frame : Frame) :
    Handle where
  id := board.nextEntry
  direction := .outbound
  transport := .plain
  tags := Handshake.tagsOf frame
  target := some uri
  remote := some peer
  link := board.links.length

/-- Whoever is admitted under a new id is registered. -/
lemma exists_registered_greet (h : board.registry.Consistent) {uri : String}
    {peer : SocketAddress} {frame : Frame} (hfirst : Frame.First arriving frame)
    (hadmits : Handshake.Admits settings (messageId board.nextMessage) frame)
    (hnew : board.registry.contains board.nextEntry = false) :
    ∃ dialed, board.greet settings ⟨.outbound, .plain, peer, some uri⟩ arriving ended =
        (dialed, .ok (board.dialedHandle peer uri frame)) ∧
      dialed.registry.Consistent ∧
      Registered board settings uri (board.dialedHandle peer uri frame) dialed := by
  obtain ⟨wire, hwritable, hwritten, hgreet⟩ := @exists_greet_of_admits board settings
    ⟨.outbound, .plain, peer, some uri⟩ arriving ended frame hfirst hadmits
  have henroll := @enroll_of_new board.numbered (Opening.entry ⟨.outbound, .plain, peer, some uri⟩
    board.nextEntry (Handshake.tagsOf frame)) hnew rfl peer wire
  rw [hgreet, henroll]
  exact ⟨_, rfl, h.add _, registered_of_new h ⟨board.dialedHandle peer uri frame, .connecting⟩ hnew
    rfl rfl rfl rfl ⟨rfl, rfl, rfl, hwritable, frame.id, hwritten⟩⟩

/-! ## Dialing a uri -/

/-- A uri names a target that needs TLS. -/
def Secure (uri : String) : Prop :=
  ∃ target, Target.parse uri = some target ∧ target.transport = .tls

/-- A uri names a target that needs no TLS, and there is somebody at it. -/
structure Connects (reach : Target → Reach) (uri : String) (target : Target) (peer : SocketAddress)
    (arriving : Bytes) (ended : Bool) : Prop where
  parse : Target.parse uri = some target
  plain : target.transport = .plain
  connected : reach target = .connected peer arriving ended

/-- No connection to the application at a uri comes about, and not for want of TLS: the uri names no
target, nobody can be reached there, whoever is there does not authenticate, or the connection
cannot be registered. -/
inductive Unreachable (board : Switchboard) (settings : HandshakeSettings) (reach : Target → Reach)
    (uri : String) : Prop
  | unparsed (hparse : Target.parse uri = none)
  | unconnected {target : Target} (hparse : Target.parse uri = some target)
      (hplain : target.transport = .plain)
      (hreach : ∀ peer arriving ended, reach target ≠ .connected peer arriving ended)
  | unauthenticated {target : Target} {peer : SocketAddress} {arriving : Bytes} {ended : Bool}
      (hconnects : Connects reach uri target peer arriving ended)
      (hnot : ∀ frame, Frame.First arriving frame →
        ¬Handshake.Admits settings (messageId board.nextMessage) frame)
  | unregistered {target : Target} {peer : SocketAddress} {arriving : Bytes} {ended : Bool}
      {frame : Frame} (hconnects : Connects reach uri target peer arriving ended)
      (hfirst : Frame.First arriving frame)
      (hadmits : Handshake.Admits settings (messageId board.nextMessage) frame)
      (hknown : board.registry.contains board.nextEntry = true)

/-- The application at a uri authenticates with its first frame, and its connection is new. -/
inductive Answers (board : Switchboard) (settings : HandshakeSettings) (reach : Target → Reach)
    (uri : String) : Handle → Prop
  | authenticates {target : Target} {peer : SocketAddress} {arriving : Bytes} {ended : Bool}
      {frame : Frame} (hconnects : Connects reach uri target peer arriving ended)
      (hfirst : Frame.First arriving frame)
      (hadmits : Handshake.Admits settings (messageId board.nextMessage) frame)
      (hnew : board.registry.contains board.nextEntry = false) :
      Answers board settings reach uri (board.dialedHandle peer uri frame)

variable {dialing : DialSettings} {reach : Target → Reach} {uri : String}

/-- An attempt to dial ends in one of three ways. -/
lemma secure_or_unreachable_or_answers (board : Switchboard) (settings : HandshakeSettings)
    (reach : Target → Reach) (uri : String) :
    Secure uri ∨ board.Unreachable settings reach uri ∨
      ∃ handle, board.Answers settings reach uri handle := by
  cases hparse : Target.parse uri with
  | none => exact Or.inr (Or.inl (.unparsed hparse))
  | some target =>
    cases hplain : target.transport with
    | tls => exact Or.inl ⟨target, hparse, hplain⟩
    | plain =>
      refine Or.inr ?_
      cases hreach : reach target with
      | refused | timedOut | failed =>
        exact Or.inl (.unconnected hparse hplain (by simp [hreach]))
      | connected peer arriving ended =>
        have hconnects : Connects reach uri target peer arriving ended := ⟨hparse, hplain, hreach⟩
        by_cases hsome : ∃ frame, Frame.First arriving frame ∧
            Handshake.Admits settings (messageId board.nextMessage) frame
        · obtain ⟨frame, hfirst, hadmits⟩ := hsome
          cases hknown : board.registry.contains board.nextEntry with
          | true => exact Or.inl (.unregistered hconnects hfirst hadmits hknown)
          | false => exact Or.inr ⟨_, .authenticates hconnects hfirst hadmits hknown⟩
        · exact Or.inl (.unauthenticated hconnects fun frame hfirst hadmits =>
            hsome ⟨frame, hfirst, hadmits⟩)

/-- A uri that leads to a connection is not dialed. -/
lemma dial_of_findTarget_eq_some {handle : Handle}
    (hfound : board.registry.findTarget uri = some handle) :
    board.dial dialing reach uri = (board, .ok handle) := by
  rw [dial, hfound]

/-- A uri that leads to no connection and names a target is dialed there. -/
lemma dial_of_parse (hnone : board.registry.findTarget uri = none) {target : Target}
    (hparse : Target.parse uri = some target) :
    board.dial dialing reach uri = board.connectTo dialing reach uri target := by
  rw [dial, hnone]
  dsimp only
  unfold dialAnew
  rw [hparse]

/-- Without TLS a target that needs it is not dialed. -/
lemma dial_of_secure (hnone : board.registry.findTarget uri = none) (htls : dialing.tls = false)
    (hsecure : Secure uri) :
    ∃ target, board.dial dialing reach uri = (board, .error (.transportUnavailable target)) := by
  obtain ⟨target, hparse, hneeds⟩ := hsecure
  refine ⟨target.text, ?_⟩
  rw [dial_of_parse hnone hparse, connectTo, if_pos ⟨hneeds, by simp [htls]⟩]

/-- An application that is reached is greeted. -/
lemma dial_of_connects (hnone : board.registry.findTarget uri = none) {target : Target}
    {peer : SocketAddress} (hconnects : Connects reach uri target peer arriving ended) :
    board.dial dialing reach uri =
      board.greet dialing.handshake ⟨.outbound, .plain, peer, some uri⟩ arriving ended := by
  rw [dial_of_parse hnone hconnects.parse, connectTo, if_neg (by simp [hconnects.plain]),
    hconnects.connected, hconnects.plain]

/-- If no connection comes about, the registry, the calls and the links are as they were. -/
lemma dial_of_unreachable (hnone : board.registry.findTarget uri = none)
    (hunreachable : board.Unreachable dialing.handshake reach uri) :
    ∃ dialed error, board.dial dialing reach uri = (dialed, .error error) ∧
      (∀ target, error ≠ .transportUnavailable target) ∧
      dialed.dispatcher = board.dispatcher ∧ dialed.links = board.links := by
  cases hunreachable with
  | unparsed hparse =>
    refine ⟨board, .invalidTarget uri, ?_, by simp, rfl, rfl⟩
    rw [dial, hnone]
    dsimp only
    unfold dialAnew
    rw [hparse]
  | @unconnected target hparse hplain hreach =>
    rw [dial_of_parse hnone hparse, connectTo, if_neg (by simp [hplain])]
    cases houtcome : reach target with
    | refused => exact ⟨board, _, rfl, by simp, rfl, rfl⟩
    | timedOut => exact ⟨board, _, rfl, by simp, rfl, rfl⟩
    | failed reason => exact ⟨board, _, rfl, by simp, rfl, rfl⟩
    | connected peer arriving ended => exact absurd houtcome (hreach peer arriving ended)
  | unauthenticated hconnects hnot =>
    obtain ⟨error, herror⟩ := Opening.exists_error_of_not_admits hnot
    rw [dial_of_connects hnone hconnects, board.greet_of_error herror]
    exact ⟨_, _, rfl, Opening.establish_ne_transportUnavailable herror, rfl, rfl⟩
  | unregistered hconnects hfirst hadmits hknown =>
    rw [dial_of_connects hnone hconnects, greet_of_known hfirst hadmits hknown]
    exact ⟨_, _, rfl, by simp, rfl, rfl⟩

/-- An application that authenticates is registered, and nobody else is. -/
lemma exists_registered_dial (h : board.registry.Consistent)
    (hnone : board.registry.findTarget uri = none) {handle : Handle}
    (hanswers : board.Answers dialing.handshake reach uri handle) :
    ∃ dialed, board.dial dialing reach uri = (dialed, .ok handle) ∧
      dialed.registry.Consistent ∧ Registered board dialing.handshake uri handle dialed := by
  cases hanswers with
  | authenticates hconnects hfirst hadmits hnew =>
    rw [dial_of_connects hnone hconnects]
    exact exists_registered_greet h hfirst hadmits hnew

end Switchboard

end CallDispatch
