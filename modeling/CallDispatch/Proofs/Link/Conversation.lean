import CallDispatch.Proofs.Link.Service
import CallDispatch.Proofs.Link.Switchboard

/-!
# Conversations

A conversation is what goes on between the server and one application, from the first byte on its
stream: the handshake, which becomes a connection, and the reader of that connection. Bytes arrive
in chunks and are read when the server gets to it, frame by frame; in between others change the
switchboard (`Course`). What has come of it so far stands in a log: what the application was sent,
the frames passed on from it, and the report that it is gone.

## Main definitions

* `Conversation`, `Conversation.read`: a conversation, and letting the server read once.
* `Conversation.news`: what has come of a reading.
* `Conversation.Kept`: a log in which frames passed on may be missing.
* `Apart`: what others may do to the switchboard meanwhile.
* `Course`: the courses that a conversation can take.
-/

namespace CallDispatch

open Text CallDispatch.Frame

/-! ## Conversations -/

namespace Conversation

/-- How far a conversation has come. -/
inductive Stage
  | greeting (wire : Wire)
  | refused (wire : Wire) (error : DialError)
  | admitted (handle : Handle)
deriving DecidableEq

end Conversation

/-- A conversation with an application, and the switchboard around it. -/
structure Conversation where
  board : Switchboard
  stage : Conversation.Stage
deriving DecidableEq

namespace Conversation

/-- The server's end of the stream. -/
def wire (c : Conversation) : Wire :=
  match c.stage with
  | .greeting wire | .refused wire _ => wire
  | .admitted handle => (c.board.framed? handle.link).elim {} FramedLink.wire

/-- What has become of the application: the error with which it was refused, or its tags with the
methods that it has asked for. -/
def outcome (c : Conversation) : Option (Except DialError (TagSet × TextSet)) :=
  match c.stage with
  | .greeting _ => none
  | .refused _ e => some (.error e)
  | .admitted handle =>
    (c.board.registry.find? handle.id).map fun slot => .ok (slot.handle.tags, slot.methods)

/-- The application does something to its stream. -/
def touch (c : Conversation) (change : Wire → Wire) : Conversation :=
  match c.stage with
  | .greeting wire => { c with stage := .greeting (change wire) }
  | .refused wire e => { c with stage := .refused (change wire) e }
  | .admitted handle => { c with board := c.board.touch handle.link change }

/-- Registers the connection of an application whose handshake has come to a result. -/
def register (opening : Opening) : Switchboard × Wire × Except DialError Entry → Conversation
  | (board, wire, .error e) => ⟨board, .refused wire e⟩
  | (board, wire, .ok entry) =>
    match board.enroll opening.peer entry wire with
    | (board, .error e) => ⟨board, .refused wire (.registry e)⟩
    | (board, .ok handle) => ⟨board, .admitted handle⟩

/-- Lets the server read once. -/
def read (settings : HandshakeSettings) (opening : Opening) (c : Conversation) : Conversation :=
  match c.stage with
  | .greeting wire =>
    match Handshake.run settings wire (messageId c.board.nextMessage) with
    | (wire, none) => { c with stage := .greeting wire }
    | (_, some _) => register opening (c.board.establish settings opening wire)
  | .refused _ _ => c
  | .admitted handle => { c with board := c.board.readOnce handle.link }

/-! ## The log -/

/-- Whether an entry is that of the conversation. -/
def isOwn (c : Conversation) (entry : EntryId) : Bool :=
  match c.stage with
  | .admitted handle => handle.id == entry
  | _ => false

/-- What is new in a conversation when the server has read once: what has been written, the frames
passed on and the reports that the connection is gone. -/
def news (c c' : Conversation) : List Output :=
  let written := c'.wire.written.drop c.wire.written.length
  let payloads := (Inbox.mk written none).readAll.1.filterMap Except.toOption
  let messages := c'.board.mailbox.messages.drop c.board.mailbox.messages.length
  let reports := c'.board.disconnected.drop c.board.disconnected.length
  payloads.map (fun payload => .reply (unnumbered payload)) ++
    (messages.filter (c'.isOwn ·.entry)).map (fun message => .forward message.frame) ++
    (reports.filter c'.isOwn).map fun _ => .disconnected

variable {c c' : Conversation}

/-- A reading adds payloads, messages and reports. -/
structure Adds (c c' : Conversation) (payloads : List String) (messages : List Message)
    (reports : List EntryId) : Prop where
  written : c'.wire.written = c.wire.written ++ payloads.flatMap framed
  fits : ∀ payload ∈ payloads, fits payload = true
  messages : c'.board.mailbox.messages = c.board.mailbox.messages ++ messages
  reports : c'.board.disconnected = c.board.disconnected ++ reports

/-- What has been added is the news. -/
lemma news_of_adds {payloads : List String} {messages : List Message} {reports : List EntryId}
    (h : Adds c c' payloads messages reports) :
    news c c' = payloads.map (fun payload => .reply (unnumbered payload)) ++
      (messages.filter (c'.isOwn ·.entry)).map (fun message => .forward message.frame) ++
      (reports.filter c'.isOwn).map fun _ => .disconnected := by
  have hread : (Inbox.mk (payloads.flatMap framed) none).readAll.1 = payloads.map .ok := by
    have hreading := (Inbox.readAll_reading (reading_framed h.fits) (.plain _)).1
    exact hreading.trans (List.append_nil _)
  have hpayloads : (payloads.map (Except.ok : String → Except LinkError String)).filterMap
      Except.toOption = payloads := by
    rw [List.filterMap_map]
    exact List.filterMap_some
  simp only [news, h.written, h.messages, h.reports, List.drop_left, hread, hpayloads]

/-- A reading that leaves all this as it is brings no news. -/
lemma news_of_same (hwritten : c'.wire.written = c.wire.written)
    (hmessages : c'.board.mailbox.messages = c.board.mailbox.messages)
    (hreports : c'.board.disconnected = c.board.disconnected) : news c c' = [] := by
  have hadds : Adds c c' [] [] [] := {
    written := hwritten.trans (List.append_nil _).symm
    fits := fun _ h => nomatch h
    messages := hmessages.trans (List.append_nil _).symm
    reports := hreports.trans (List.append_nil _).symm }
  exact news_of_adds hadds

/-- What a log keeps of what was due: everything but perhaps frames that were to be passed on. -/
inductive Kept : List Output → List Output → Prop
  | nil : Kept [] []
  | keep {log due : List Output} (output : Output) (h : Kept log due) :
    Kept (output :: log) (output :: due)
  | lose {log due : List Output} (frame : Frame) (h : Kept log due) :
    Kept log (.forward frame :: due)

lemma Kept.refl (log : List Output) : Kept log log := by
  induction log with
  | nil => exact .nil
  | cons output log ih => exact .keep output ih

lemma Kept.append {log due log' due' : List Output} (h : Kept log due) (h' : Kept log' due') :
    Kept (log ++ log') (due ++ due') := by
  induction h with
  | nil => exact h'
  | keep output _ ih => exact .keep output ih
  | lose frame _ ih => exact .lose frame ih

end Conversation

/-! ## Courses -/

/-- What others may do to the switchboard while a conversation goes on: anything that leaves the
connection registered and the reading side of its stream alone. Others may write to the application,
and take what has been written. -/
structure Apart (c : Conversation) (board : Switchboard) : Prop where
  link : ∀ handle link, c.stage = .admitted handle → c.board.framed? handle.link = some link →
    ∃ written, board.framed? handle.link = some { link with wire := { link.wire with written } }
  slot : ∀ handle slot, c.stage = .admitted handle → c.board.registry.find? handle.id = some slot →
    ∃ slot', board.registry.find? handle.id = some slot' ∧ slot'.handle = slot.handle ∧
      slot'.methods = slot.methods

/-- What the server needs to let an application in: a new id for its connection. -/
structure Ready (board : Switchboard) : Prop where
  fresh : board.registry.contains board.nextEntry = false

/-- What the server needs to lose nothing: room for a message as well. -/
structure Roomy (board : Switchboard) : Prop extends Ready board where
  room : board.mailbox.messages.length < board.mailbox.capacity

/-- The courses that a conversation can take, with the bytes that the application has sent and the
log. `others` says what others may do in between, `ready` what holds of the switchboard where the
server reads. -/
inductive Course (settings : HandshakeSettings) (opening : Opening)
    (others : Conversation → Switchboard → Prop) (ready : Switchboard → Prop) :
    Conversation → Bytes → List Output → Prop
  | start (board : Switchboard) : Course settings opening others ready ⟨board, .greeting {}⟩ [] []
  /-- A chunk of bytes arrives. -/
  | arrive {c : Conversation} {sent : Bytes} {log : List Output}
      (h : Course settings opening others ready c sent log) (hopen : c.wire.ended = false)
      (bytes : Bytes) :
    Course settings opening others ready (c.touch (·.arrive bytes)) (sent ++ bytes) log
  /-- The application closes its writing side. -/
  | finish {c : Conversation} {sent : Bytes} {log : List Output}
      (h : Course settings opening others ready c sent log) :
    Course settings opening others ready (c.touch Wire.finish) sent log
  | read {c : Conversation} {sent : Bytes} {log : List Output}
      (h : Course settings opening others ready c sent log) (hready : ready c.board) :
    Course settings opening others ready (c.read settings opening) sent
      (log ++ Conversation.news c (c.read settings opening))
  | others {c : Conversation} {sent : Bytes} {log : List Output}
      (h : Course settings opening others ready c sent log) (board : Switchboard)
      (hothers : others c board) : Course settings opening others ready { c with board } sent log

namespace Conversation

variable {settings : HandshakeSettings} {opening : Opening} {c : Conversation} {sent left : Bytes}
  {log : List Output} {handle : Handle} {link : FramedLink} {slot : Slot} {wire wire' : Wire}

/-! ## One reading -/

lemma wire_of_greeting (hstage : c.stage = .greeting wire) : c.wire = wire := by
  unfold Conversation.wire
  rw [hstage]

lemma wire_of_refused {e : DialError} (hstage : c.stage = .refused wire e) : c.wire = wire := by
  unfold Conversation.wire
  rw [hstage]

lemma wire_of_admitted (hstage : c.stage = .admitted handle)
    (hframed : c.board.framed? handle.link = some link) : c.wire = link.wire := by
  unfold Conversation.wire
  rw [hstage]
  simp only [hframed, Option.elim_some]

/-- The handshake waits for more. -/
lemma read_of_wait (hstage : c.stage = .greeting wire)
    (hrun : Handshake.run settings wire (messageId c.board.nextMessage) = (wire', none)) :
    c.read settings opening = { c with stage := .greeting wire' } := by
  unfold read
  rw [hstage]
  simp only [hrun]

/-- The handshake comes to a result. -/
lemma read_of_result (hstage : c.stage = .greeting wire) {result : Except DialError TagSet}
    (hrun : Handshake.run settings wire (messageId c.board.nextMessage) = (wire', some result)) :
    c.read settings opening = register opening (c.board.establish settings opening wire) := by
  unfold read
  rw [hstage]
  simp only [hrun]

/-- The handshake fails. -/
lemma read_of_error (hstage : c.stage = .greeting wire) {e : DialError}
    (hrun : Handshake.run settings wire (messageId c.board.nextMessage) =
      (wire', some (.error e))) :
    c.read settings opening =
      ⟨{ c.board with nextMessage := c.board.nextMessage + 1 }, .refused wire' e⟩ := by
  rw [read_of_result hstage hrun]
  simp only [Switchboard.establish, Opening.establish, hrun, register]

/-- The switchboard when a handshake has succeeded. -/
def greeted (board : Switchboard) : Switchboard :=
  { board with nextMessage := board.nextMessage + 1, nextEntry := board.nextEntry + 1 }

/-- The handshake succeeds, and the connection is to be registered. -/
lemma read_of_ok (hstage : c.stage = .greeting wire) {tags : TagSet}
    (hrun : Handshake.run settings wire (messageId c.board.nextMessage) =
      (wire', some (.ok tags))) :
    c.read settings opening =
      register opening (greeted c.board, wire', .ok (opening.entry c.board.nextEntry tags)) := by
  rw [read_of_result hstage hrun]
  simp only [Switchboard.establish, Opening.establish, hrun, greeted]

/-- A connection with a new id is registered, with a link and a slot of its own. -/
lemma register_of_new (opening : Opening) (board : Switchboard) {id : EntryId} (tags : TagSet)
    (hfresh : board.registry.contains id = false) :
    ∃ board' handle, register opening (board, wire, .ok (opening.entry id tags)) =
        ⟨board', .admitted handle⟩ ∧
      board'.framed? handle.link =
        some { entry := handle.id, peer := opening.peer, wire } ∧
      board'.registry.find? handle.id = some { handle } ∧ handle.tags = tags ∧
      board'.mailbox = board.mailbox ∧ board'.disconnected = board.disconnected := by
  have hnew : ∀ slot ∈ board.registry.slots, slot.id ≠ id := by
    intro slot hslot hid
    rw [Bool.eq_false_iff] at hfresh
    exact hfresh (Registry.contains_iff.2 ⟨slot, hslot, hid⟩)
  let handle : Handle := { (opening.entry id tags).handle with link := board.links.length }
  have henroll := Switchboard.enroll_of_new (opening.entry id tags) hfresh rfl opening.peer wire
  simp only [register, henroll]
  refine ⟨_, handle, rfl, ?_, ?_, rfl, rfl, rfl⟩
  · rw [Switchboard.framed?_eq_some_iff]
    exact List.getElem?_concat_length
  · have hadd : (board.registry.add { opening.entry id tags with handle }).1.slots =
        Registry.insertSlot { handle } board.registry.slots := by
      unfold Registry.add
      have hcontains : board.registry.contains handle.id = false := hfresh
      simp only [hcontains]
      rfl
    show List.find? _ (board.registry.add _).1.slots = _
    rw [hadd]
    exact Registry.find?_insertSlot { handle } hnew

/-- A connection whose id is taken is refused. -/
lemma register_of_taken (opening : Opening) (board : Switchboard) {id : EntryId} (tags : TagSet)
    (htaken : board.registry.contains id = true) :
    ∃ board' e, register opening (board, wire, .ok (opening.entry id tags)) =
      ⟨board', .refused wire e⟩ := by
  have hid : (opening.entry id tags).handle.id = id := rfl
  unfold register Switchboard.enroll Switchboard.connect Registry.add
  simp only [hid, htaken, if_true]
  exact ⟨_, _, rfl⟩

/-- A handshake with a result is over. -/
lemma register_ne_greeting (opening : Opening)
    (result : Switchboard × Wire × Except DialError Entry) (wire : Wire) :
    (register opening result).stage ≠ .greeting wire := by
  obtain ⟨board, wire', e | entry⟩ := result
  · simp [register]
  · cases henroll : board.enroll opening.peer entry wire' with
    | mk board' enrolled => cases enrolled <;> simp [register, henroll]

lemma read_of_refused {e : DialError} (hstage : c.stage = .refused wire e) :
    c.read settings opening = c := by
  unfold read
  rw [hstage]

/-- The reader reads once. -/
lemma read_of_admitted (hstage : c.stage = .admitted handle)
    (hframed : c.board.framed? handle.link = some link) (hreading : link.reading = true) :
    c.read settings opening =
      { c with
        board := c.board.withIntake handle.link link ((c.board.intake link).step link.entry).1
          (((c.board.intake link).step link.entry).2 == .stop) } := by
  unfold read
  rw [hstage, ← Switchboard.readOnce_eq hframed hreading]

/-- A reader that has stopped reads nothing more. -/
lemma read_of_stopped (hstage : c.stage = .admitted handle)
    (hframed : c.board.framed? handle.link = some link) (hreading : link.reading = false) :
    c.read settings opening = c := by
  unfold read Switchboard.readOnce
  rw [hstage]
  simp only [hframed, hreading, Bool.false_eq_true, if_false]
  rw [← hstage]

/-- The news when the reader has read once. -/
lemma news_withIntake {intake : Intake} {stopped : Bool} (payloads : List String)
    (frames : List Frame) (hstage : c.stage = .admitted handle)
    (hframed : c.board.framed? handle.link = some link) (hentry : link.entry = handle.id)
    (hwritten : intake.wire.written = link.wire.written ++ payloads.flatMap framed)
    (hfits : ∀ payload ∈ payloads, fits payload = true)
    (hmessages : intake.mailbox.messages =
      c.board.mailbox.messages ++ frames.map fun frame => ⟨handle.id, frame⟩) :
    news c { c with board := c.board.withIntake handle.link link intake stopped } =
      payloads.map (fun payload => .reply (unnumbered payload)) ++ frames.map .forward ++
        if stopped then [.disconnected] else [] := by
  have hwire := wire_of_admitted
    (c := { c with board := c.board.withIntake handle.link link intake stopped }) hstage
    (Switchboard.framed?_withIntake hframed intake stopped)
  have hown :
      isOwn { c with board := c.board.withIntake handle.link link intake stopped } handle.id =
        true := by
    unfold isOwn
    rw [hstage]
    exact beq_self_eq_true handle.id
  have hadds : Adds c { c with board := c.board.withIntake handle.link link intake stopped }
      payloads (frames.map fun frame => ⟨handle.id, frame⟩)
      (if stopped then [handle.id] else []) := {
    written := by
      rw [hwire, wire_of_admitted hstage hframed]
      exact hwritten
    fits := hfits
    messages := by
      rw [Switchboard.mailbox_withIntake]
      exact hmessages
    reports := hentry ▸ Switchboard.disconnected_withIntake intake stopped }
  rw [news_of_adds hadds]
  cases stopped <;> simp [List.filter_map, Function.comp_def, hown]

/-- The news when the reader has neither written nor passed on anything. -/
lemma news_withIntake_of_same {intake : Intake} {stopped : Bool}
    (hstage : c.stage = .admitted handle) (hframed : c.board.framed? handle.link = some link)
    (hentry : link.entry = handle.id) (hwritten : intake.wire.written = link.wire.written)
    (hmessages : intake.mailbox.messages = c.board.mailbox.messages) :
    news c { c with board := c.board.withIntake handle.link link intake stopped } =
      if stopped then [.disconnected] else [] :=
  news_withIntake [] [] hstage hframed hentry (hwritten.trans (List.append_nil _).symm)
    (fun _ h => nomatch h) (hmessages.trans (List.append_nil _).symm)

/-- The news when the reader has passed on a frame: nothing, if there was no room. -/
lemma news_of_post {intake : Intake} {frame : Frame} (hstage : c.stage = .admitted handle)
    (hframed : c.board.framed? handle.link = some link) (hentry : link.entry = handle.id)
    (hwritten : intake.wire.written = link.wire.written)
    (hmailbox : intake.mailbox = c.board.mailbox.post ⟨handle.id, frame⟩) :
    let c' := { c with board := c.board.withIntake handle.link link intake false }
    Kept (news c c') [.forward frame] ∧ (Roomy c.board → news c c' = [.forward frame]) := by
  intro c'
  by_cases hroom : c.board.mailbox.messages.length < c.board.mailbox.capacity
  · have hmessages : intake.mailbox.messages =
        c.board.mailbox.messages ++ [⟨handle.id, frame⟩] := by
      rw [hmailbox, Mailbox.post, if_pos hroom]
    have hnews : news c c' = [.forward frame] :=
      news_withIntake [] [frame] hstage hframed hentry (hwritten.trans (List.append_nil _).symm)
        (fun _ h => nomatch h) hmessages
    rw [hnews]
    exact ⟨.refl _, fun _ => rfl⟩
  · have hmessages : intake.mailbox.messages = c.board.mailbox.messages := by
      rw [hmailbox, Mailbox.post, if_neg hroom]
    have hnews : news c c' = [] :=
      news_withIntake_of_same hstage hframed hentry hwritten hmessages
    rw [hnews]
    exact ⟨.lose frame .nil, fun hroomy => absurd hroomy.room hroom⟩

end Conversation

end CallDispatch
