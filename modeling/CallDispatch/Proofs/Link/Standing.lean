import CallDispatch.Proofs.Link.Conversation

/-!
# Where a conversation stands

In all courses that a conversation can take, its log agrees with how far the server has come on the
stream (`Conversation.stands_of_course`): before the result of the handshake the log is empty, while
the reader goes on it holds what is due for the frames taken so far, and when the conversation is
over there is a reason why nothing more is taken. Arriving bytes, the end of the stream, single
readings and what others do all keep it so. Frames passed on are missing from the log where the
server had no room for them.

## Main definitions

* `Conversation.Serves`, `Conversation.Notes`: the link and the slot of an application that is
  served.
* `Conversation.Stands`: where a conversation stands.
-/

namespace CallDispatch

open Text CallDispatch.Frame Service

namespace Conversation

variable {settings : HandshakeSettings} {opening : Opening} {c : Conversation} {sent left : Bytes}
  {log : List Output} {handle : Handle} {link : FramedLink} {slot : Slot} {wire wire' : Wire}

/-! ## Where a conversation stands -/

/-- A link that is alive, and whose reader has come to the bytes `left`. -/
structure Serves (link : FramedLink) (entry : EntryId) (left : Bytes) : Prop where
  entry : link.entry = entry
  alive : link.alive = true
  reading : link.reading = true
  writable : link.wire.Writable
  holds : link.wire.inbox.Holds left

/-- What reading once does for an application that is served. -/
lemma Serves.reads {board : Switchboard} {entry : EntryId} (h : Serves link entry left)
    (hfind : board.registry.find? entry = some slot) :
    Intake.Reads entry (board.intake link) left ((board.intake link).step link.entry) := by
  rw [h.entry]
  exact Intake.reads_step hfind h.writable h.holds

/-- A link whose reader has stopped: it is not alive any more. -/
structure Dead (link : FramedLink) : Prop where
  alive : link.alive = false
  reading : link.reading = false

/-- The slot notes what an application wants whose first frame was `first`, of whose other frames
these have been taken, and which has asked for methods besides. -/
structure Notes (slot : Slot) (first : Frame) (frames : List Frame) (extra : List String) : Prop where
  tags : slot.handle.tags = Handshake.tagsOf first
  methods : slot.methods = .ofList (frames.flatMap (·.asks.toList) ++ extra)

/-- Where a conversation stands on the stream, with what is in the log. -/
inductive Stands (settings : HandshakeSettings) (c : Conversation) (sent : Bytes)
    (log : List Output) : Prop
  | greeting {wire : Wire} (hstage : c.stage = .greeting wire) (hholds : wire.inbox.Holds sent)
      (hwritable : wire.Writable) (hlog : log = [])
  | serving {handle : Handle} {link : FramedLink} {slot : Slot} {first : Frame}
      {frames : List Frame} {left : Bytes} (hstage : c.stage = .admitted handle)
      (hframed : c.board.framed? handle.link = some link) (hserves : Serves link handle.id left)
      (hfind : c.board.registry.find? handle.id = some slot) (hnotes : Notes slot first frames [])
      (hadvance : Advance settings sent left first frames)
      (hlog : log = logOf settings first frames)
  | refused {wire : Wire} {e : DialError} (hstage : c.stage = .refused wire e)
      (hrefuses : Refuses settings wire.ended sent log)
      (hresult : handshake settings sent wire.ended = some (.error e))
  | stopped {handle : Handle} {link : FramedLink} {slot : Slot} {first : Frame}
      {frames : List Frame} {left : Bytes} {extra : List String} (hstage : c.stage = .admitted handle)
      (hframed : c.board.framed? handle.link = some link) (hdead : Dead link)
      (hfind : c.board.registry.find? handle.id = some slot)
      (hnotes : Notes slot first frames extra)
      (hadvance : Advance settings sent left first frames)
      (hstops : Stops link.wire.ended left extra)
      (hlog : log = logOf settings first frames ++ [.disconnected])

/-! ## What the application and others do -/

lemma touch_of_greeting (hstage : c.stage = .greeting wire) (change : Wire → Wire) :
    c.touch change = { c with stage := .greeting (change wire) } := by
  unfold touch
  rw [hstage]

lemma touch_of_refused {e : DialError} (hstage : c.stage = .refused wire e)
    (change : Wire → Wire) : c.touch change = { c with stage := .refused (change wire) e } := by
  unfold touch
  rw [hstage]

lemma touch_of_admitted (hstage : c.stage = .admitted handle) (change : Wire → Wire) :
    c.touch change = { c with board := c.board.touch handle.link change } := by
  unfold touch
  rw [hstage]

/-- More bytes arrive. -/
lemma Stands.arrive (h : Stands settings c sent log) (hopen : c.wire.ended = false)
    (bytes : Bytes) : Stands settings (c.touch (·.arrive bytes)) (sent ++ bytes) log := by
  cases h with
  | @greeting wire hstage hholds hwritable hlog =>
    rw [wire_of_greeting hstage] at hopen
    rw [touch_of_greeting hstage]
    exact .greeting rfl (Wire.holds_arrive hholds hopen bytes) (hwritable.arrive bytes) hlog
  | @serving handle link slot first frames left hstage hframed hserves hfind hnotes hadvance hlog =>
    rw [wire_of_admitted hstage hframed] at hopen
    have hlink := Switchboard.framed?_touch hframed (·.arrive bytes)
    have hmore : Serves { link with wire := link.wire.arrive bytes } handle.id (left ++ bytes) :=
      { hserves with
        writable := hserves.writable.arrive bytes
        holds := Wire.holds_arrive hserves.holds hopen bytes }
    rw [touch_of_admitted hstage]
    rw [← Switchboard.registry_touch c.board handle.link] at hfind
    exact .serving hstage hlink hmore hfind hnotes (hadvance.append bytes) hlog
  | @refused wire e hstage hrefuses hresult =>
    rw [wire_of_refused hstage] at hopen
    rw [hopen] at hrefuses hresult
    rw [touch_of_refused hstage]
    refine .refused rfl ?_ ?_
    · rw [Wire.ended_arrive, hopen]
      exact hrefuses.append bytes
    · rw [Wire.ended_arrive, hopen]
      exact handshake_append hresult bytes
  | @stopped handle link slot first frames left extra hstage hframed hdead hfind hnotes hadvance
      hstops hlog =>
    rw [wire_of_admitted hstage hframed] at hopen
    have hlink := Switchboard.framed?_touch hframed (·.arrive bytes)
    rw [touch_of_admitted hstage]
    rw [← Switchboard.registry_touch c.board handle.link] at hfind
    rw [hopen] at hstops
    refine .stopped hstage hlink ⟨hdead.alive, hdead.reading⟩ hfind hnotes
      (hadvance.append bytes) ?_ hlog
    rw [Wire.ended_arrive, hopen]
    exact hstops.append bytes

/-- The application closes its writing side. -/
lemma Stands.finish (h : Stands settings c sent log) :
    Stands settings (c.touch Wire.finish) sent log := by
  cases h with
  | @greeting wire hstage hholds hwritable hlog =>
    rw [touch_of_greeting hstage]
    exact .greeting rfl hholds hwritable.finish hlog
  | @serving handle link slot first frames left hstage hframed hserves hfind hnotes hadvance hlog =>
    have hlink := Switchboard.framed?_touch hframed Wire.finish
    have hstill : Serves { link with wire := link.wire.finish } handle.id left :=
      { hserves with writable := hserves.writable.finish }
    rw [touch_of_admitted hstage]
    rw [← Switchboard.registry_touch c.board handle.link] at hfind
    exact .serving hstage hlink hstill hfind hnotes hadvance hlog
  | @refused wire e hstage hrefuses hresult =>
    rw [touch_of_refused hstage]
    exact .refused rfl hrefuses.finish (handshake_finish hresult)
  | @stopped handle link slot first frames left extra hstage hframed hdead hfind hnotes hadvance
      hstops hlog =>
    have hlink := Switchboard.framed?_touch hframed Wire.finish
    rw [touch_of_admitted hstage]
    rw [← Switchboard.registry_touch c.board handle.link] at hfind
    exact .stopped hstage hlink ⟨hdead.alive, hdead.reading⟩ hfind hnotes hadvance hstops.finish
      hlog

/-- What the slot notes does not depend on what others may change. -/
lemma Notes.congr {slot' : Slot} {first : Frame} {frames : List Frame} {extra : List String}
    (h : Notes slot first frames extra) (hhandle : slot'.handle = slot.handle)
    (hmethods : slot'.methods = slot.methods) : Notes slot' first frames extra :=
  ⟨hhandle ▸ h.tags, hmethods.trans h.methods⟩

/-- Others change the switchboard. -/
lemma Stands.others (h : Stands settings c sent log) {board : Switchboard}
    (hapart : Apart c board) : Stands settings { c with board } sent log := by
  cases h with
  | greeting hstage hholds hwritable hlog => exact .greeting hstage hholds hwritable hlog
  | @serving handle link slot first frames left hstage hframed hserves hfind hnotes hadvance hlog =>
    obtain ⟨written, hlink⟩ := hapart.link handle link hstage hframed
    obtain ⟨slot', hslot, hhandle, hmethods⟩ := hapart.slot handle slot hstage hfind
    have hstill : Serves { link with wire := { link.wire with written } } handle.id left :=
      { hserves with writable := ⟨hserves.writable.gone, hserves.writable.shut⟩ }
    exact .serving hstage hlink hstill hslot (hnotes.congr hhandle hmethods) hadvance hlog
  | refused hstage hrefuses hresult => exact .refused hstage hrefuses hresult
  | stopped hstage hframed hdead hfind hnotes hadvance hstops hlog =>
    obtain ⟨written, hlink⟩ := hapart.link _ _ hstage hframed
    obtain ⟨slot', hslot, hhandle, hmethods⟩ := hapart.slot _ _ hstage hfind
    exact .stopped hstage hlink ⟨hdead.alive, hdead.reading⟩ hslot
      (hnotes.congr hhandle hmethods) hadvance hstops hlog

/-! ## What a reading does -/

/-- A response up to its id. -/
lemma unnumbered_response (n : Nat) (requestId : String) (ok : Bool) (reason : Option String) :
    unnumbered (Frame.response (messageId n) requestId ok reason).payload =
      (Frame.response "" requestId ok reason).behindId :=
  unnumbered_payload (isUuid_messageId n).isField.bar

lemma unnumbered_answer (n : Nat) (frame : Frame) (verb : String) :
    unnumbered (frame.answer (messageId n) verb).payload = (frame.answer "" verb).behindId := by
  have hid : '|' ∉ (frame.answer (messageId n) verb).id.toList := by
    rw [Frame.id_answer]
    exact (isUuid_messageId n).isField.bar
  rw [unnumbered_payload hid, Frame.behindId_answer]

lemma unnumbered_answerTo (n : Nat) (settings : HandshakeSettings) (first : Frame) :
    unnumbered (Handshake.answerTo settings (messageId n) first).payload =
      (Handshake.answerTo settings "" first).behindId := by
  unfold Handshake.answerTo Handshake.welcome
  by_cases hkind : first.kind ≠ "authenticate"
  · rw [if_pos hkind, if_pos hkind]
    exact unnumbered_response n _ _ _
  · rw [if_neg hkind, if_neg hkind]
    by_cases hsecret : first.args.head?.getD "" ≠ settings.secret
    · rw [if_pos hsecret, if_pos hsecret]
      exact unnumbered_response n _ _ _
    · rw [if_neg hsecret, if_neg hsecret]
      exact unnumbered_response n _ _ _

/-- An application that is refused gets the response, if it fits into a frame. -/
lemma news_of_refuse {c' : Conversation} (settings : HandshakeSettings) (first : Frame) (n : Nat)
    (hwritten : c'.wire.written =
      (write c.wire.written (Handshake.answerTo settings (messageId n) first).payload).1)
    (hmailbox : c'.board.mailbox = c.board.mailbox)
    (hreports : c'.board.disconnected = c.board.disconnected) :
    news c c' = refusal settings first := by
  have hsize := Handshake.utf8ByteSize_answerTo settings first 0 n
  unfold refusal
  rw [hsize]
  by_cases hle : (Handshake.answerTo settings (messageId n) first).payload.utf8ByteSize ≤ maxLength
  · have hfits := fits_payload_iff.2 hle
    rw [write_of_fits hfits] at hwritten
    have hadds : Adds c c' [(Handshake.answerTo settings (messageId n) first).payload] [] [] :=
      ⟨by rw [hwritten, List.flatMap_singleton], by simpa using hfits, by simp [hmailbox],
        by simp [hreports]⟩
    rw [if_pos hle, news_of_adds hadds, ← unnumbered_answerTo n]
    rfl
  · have hlarge := mt fits_payload_iff.1 hle
    obtain ⟨e, hwrite⟩ := write_of_not_fits (Bool.not_eq_true _ ▸ hlarge) c.wire.written
    rw [hwrite] at hwritten
    rw [if_neg hle]
    exact news_of_same hwritten (congrArg Mailbox.messages hmailbox) hreports

/-- The application is let in. -/
lemma Stands.welcome {text : String} {rest : Bytes} {first : Frame}
    (hstage : c.stage = .greeting wire) (hwritable : wire.Writable) (hready : Ready c.board)
    (hstarts : Starts sent (.text text rest)) (hparse : Frame.parse text = .ok first)
    (hadmits : Handshake.Admits settings (messageId 0) first)
    (hrun : Handshake.run settings wire (messageId c.board.nextMessage) =
      ({ wire with
          inbox := ⟨rest, none⟩
          written := wire.written ++ framed
            (Handshake.welcome settings (messageId c.board.nextMessage) first).payload },
        some (.ok (Handshake.tagsOf first)))) :
    Stands settings (c.read settings opening) sent (news c (c.read settings opening)) := by
  obtain ⟨board, handle, hregister, hframed, hfind, htags, hmailbox, hreports⟩ :=
    register_of_new opening (greeted c.board) (Handshake.tagsOf first) hready.fresh
  rw [read_of_ok hstage hrun, hregister]
  have hwire := wire_of_admitted (c := ⟨board, .admitted handle⟩) rfl hframed
  have hfits := fits_payload_iff.2 (admits_congr 0 c.board.nextMessage hadmits).fits
  have hadds : Adds c ⟨board, .admitted handle⟩
      [(Handshake.welcome settings (messageId c.board.nextMessage) first).payload] [] [] := {
    written := by rw [hwire, wire_of_greeting hstage, List.flatMap_singleton]
    fits := List.forall_mem_singleton.2 hfits
    messages := (congrArg Mailbox.messages hmailbox).trans (List.append_nil _).symm
    reports := hreports.trans (List.append_nil _).symm }
  rw [news_of_adds hadds]
  refine .serving rfl hframed ⟨rfl, rfl, rfl, ⟨hwritable.gone, hwritable.shut⟩, .plain rest⟩ hfind
    ⟨htags, rfl⟩ (.start hstarts hparse hadmits) ?_
  have hreply := unnumbered_response c.board.nextMessage first.id true (some settings.identity)
  exact congrArg (fun reply => [Output.reply reply]) hreply

/-- The handshake comes to nothing yet, or to an end. -/
lemma Stands.read_greeting (hstage : c.stage = .greeting wire) (hholds : wire.inbox.Holds sent)
    (hwritable : wire.Writable) (hready : Ready c.board) :
    Stands settings (c.read settings opening) sent (news c (c.read settings opening)) := by
  have hgreets := greets_run settings hholds hwritable c.board.nextMessage
  have hwire := wire_of_greeting hstage
  generalize hrun : Handshake.run settings wire (messageId c.board.nextMessage) = result at hgreets
  cases hgreets with
  | wait hopen hwaits =>
    rw [read_of_wait hstage hrun, news_of_same]
    · exact .greeting rfl hwaits.holds ⟨hwritable.gone, hwritable.shut⟩ rfl
    · rw [hwire]
      rfl
    · rfl
    · rfl
  | welcome hstarts hparse hadmits =>
    exact .welcome hstage hwritable hready hstarts hparse hadmits hrun
  | @refuse first inbox e hfirst hnot =>
    have hresult :=
      (handshake_eq hholds hwritable c.board.nextMessage).trans (congrArg Prod.snd hrun)
    have hrefuses : Refuses settings wire.ended sent (refusal settings first) := .refuse hfirst hnot
    rw [read_of_error hstage hrun, news_of_refuse settings first c.board.nextMessage]
    · exact .refused rfl hrefuses hresult
    · rw [hwire]
      rfl
    · rfl
    · rfl
  | halt inbox e hhalts =>
    have hresult :=
      (handshake_eq hholds hwritable c.board.nextMessage).trans (congrArg Prod.snd hrun)
    have hrefuses : Refuses settings wire.ended sent [] := .halt hhalts
    rw [read_of_error hstage hrun, news_of_same]
    · exact .refused rfl hrefuses hresult
    · rw [hwire]
      rfl
    · rfl
    · rfl

variable {intake : Intake} {inbox : Inbox} {first : Frame} {frames : List Frame}
  {extra : List String}

/-- The methods of a slot when a frame has been heeded. -/
lemma Notes.heed (h : Notes slot first frames []) (asks : List String) :
    Notes { slot with methods := asks.foldl TextSet.insert slot.methods } first frames asks := by
  refine ⟨h.tags, ?_⟩
  rw [h.methods, List.append_nil, TextSet.ofList, TextSet.ofList, List.foldl_append]

/-- The frame has been taken as well. -/
lemma Notes.take {frame : Frame} (h : Notes slot first frames frame.asks.toList) :
    Notes slot first (frames ++ [frame]) [] := by
  refine ⟨h.tags, ?_⟩
  rw [List.flatMap_append, List.flatMap_singleton, List.append_nil]
  exact h.methods

lemma Serves.goOn {written : Bytes} {left' : Bytes} {entry : EntryId}
    (h : Serves link entry left') (hwire : intake.wire = { link.wire with inbox, written })
    (hholds : inbox.Holds left) :
    Serves { link with
      wire := intake.wire, alive := link.alive && !false, reading := !false } entry left := by
  rw [hwire]
  exact {
    entry := h.entry
    alive := by rw [h.alive]; rfl
    reading := rfl
    writable := ⟨h.writable.gone, h.writable.shut⟩
    holds := hholds }

/-- The reader goes on. -/
lemma Stands.goOn {written : Bytes} {left' : Bytes} (hstage : c.stage = .admitted handle)
    (hframed : c.board.framed? handle.link = some link) (hserves : Serves link handle.id left')
    (hwire : intake.wire = { link.wire with inbox, written }) (hholds : inbox.Holds left)
    (hfind : intake.registry.find? handle.id = some slot) (hnotes : Notes slot first frames [])
    (hadvance : Advance settings sent left first frames) :
    Stands settings { c with board := c.board.withIntake handle.link link intake false } sent
      (logOf settings first frames) := by
  exact .serving hstage (Switchboard.framed?_withIntake hframed intake false)
    (hserves.goOn hwire hholds) (Switchboard.find?_withIntake hfind false) hnotes hadvance rfl

/-- The reader stops. -/
lemma Stands.stop (hstage : c.stage = .admitted handle)
    (hframed : c.board.framed? handle.link = some link)
    (hwire : intake.wire = { link.wire with inbox })
    (hfind : intake.registry.find? handle.id = some slot) (hnotes : Notes slot first frames extra)
    (hadvance : Advance settings sent left first frames)
    (hstops : Stops link.wire.ended left extra) :
    Stands settings { c with board := c.board.withIntake handle.link link intake true } sent
      (logOf settings first frames ++ [.disconnected]) := by
  refine .stopped hstage (Switchboard.framed?_withIntake hframed intake true)
    ⟨Bool.and_false _, rfl⟩ (Switchboard.find?_withIntake hfind true) hnotes hadvance ?_ rfl
  rw [hwire]
  exact hstops

/-- The reader takes a frame, waits, or stops for good. -/
lemma Stands.read_serving (hstage : c.stage = .admitted handle)
    (hframed : c.board.framed? handle.link = some link) (hserves : Serves link handle.id left)
    (hfind : c.board.registry.find? handle.id = some slot) (hnotes : Notes slot first frames [])
    (hadvance : Advance settings sent left first frames) :
    ∃ more, Stands settings (c.read settings opening) sent (logOf settings first frames ++ more) ∧
      Kept (news c (c.read settings opening)) more ∧
      (Roomy c.board → news c (c.read settings opening) = more) := by
  have hentry : link.entry = handle.id := hserves.entry
  have hreads := hserves.reads hfind
  rw [read_of_admitted hstage hframed hserves.reading]
  generalize (c.board.intake link).step link.entry = result at hreads
  cases hreads with
  | @forward text rest frame hstarts hparse hverb =>
    have hnotes' : Notes slot first frames frame.asks.toList := by
      rw [Frame.asks_of_none hverb]
      exact hnotes
    have houtput : frame.output = .forward frame := by rw [Frame.output, hverb]
    have hlog := logOf_snoc settings first frames frame
    rw [houtput] at hlog
    refine ⟨[.forward frame], hlog ▸ ?_, ?_⟩
    · exact Stands.goOn hstage hframed hserves rfl (.plain rest) hfind hnotes'.take
        (hadvance.take hstarts hparse (Frame.answerable_of_none hverb))
    · exact news_of_post hstage hframed hentry rfl rfl
  | @answer text rest frame verb hstarts hparse hverb hfits =>
    -- the log does not mention the id that the server has made up for the answer
    have hframe := Frame.answerable_eq hverb c.board.nextMessage ▸ hfits
    rw [news_withIntake [(frame.answer (messageId c.board.nextMessage) verb).payload] []
      hstage hframed hentry (by rw [List.flatMap_singleton]; rfl)
      (by simpa using hframe) (List.append_nil _).symm]
    have houtput : frame.output =
        .reply (unnumbered (frame.answer (messageId c.board.nextMessage) verb).payload) := by
      rw [Frame.output, hverb, unnumbered_answer]
    have hlog := logOf_snoc settings first frames frame
    rw [houtput] at hlog
    refine ⟨_, hlog ▸ ?_, .refl _, fun _ => rfl⟩
    exact Stands.goOn hstage hframed hserves rfl (.plain rest) (Registry.find?_heed hfind hverb)
      (hnotes.heed frame.asks.toList).take (hadvance.take hstarts hparse hfits)
  | @giveUp text rest frame verb hstarts hparse hverb hlarge =>
    -- the method is noted, although the answer is not sent
    rw [news_withIntake_of_same hstage hframed hentry rfl rfl]
    refine ⟨_, ?_, .refl _, fun _ => rfl⟩
    exact Stands.stop hstage hframed rfl (Registry.find?_heed hfind hverb)
      (hnotes.heed frame.asks.toList) hadvance (.large hstarts hparse hlarge)
  | @wait inbox hopen hwaits =>
    rw [news_withIntake_of_same hstage hframed hentry rfl rfl]
    refine ⟨[], (List.append_nil (logOf settings first frames)).symm ▸ ?_, .refl _, fun _ => rfl⟩
    exact Stands.goOn hstage hframed hserves rfl hwaits.holds hfind hnotes hadvance
  | halt inbox hhalts =>
    rw [news_withIntake_of_same hstage hframed hentry rfl rfl]
    refine ⟨_, ?_, .refl _, fun _ => rfl⟩
    exact Stands.stop hstage hframed rfl hfind hnotes hadvance (.halt hhalts)

/-- A reading takes a conversation further. Of what is due then, the news are all, but for a frame
that finds no room. -/
lemma Stands.read (h : Stands settings c sent log) (opening : Opening) (hready : Ready c.board) :
    ∃ more, Stands settings (c.read settings opening) sent (log ++ more) ∧
      Kept (news c (c.read settings opening)) more ∧
      (Roomy c.board → news c (c.read settings opening) = more) := by
  have hstill : news c c = [] := news_of_same rfl rfl rfl
  cases h with
  | greeting hstage hholds hwritable hlog =>
    subst hlog
    exact ⟨_, read_greeting hstage hholds hwritable hready, .refl _, fun _ => rfl⟩
  | serving hstage hframed hserves hfind hnotes hadvance hlog =>
    subst hlog
    exact read_serving hstage hframed hserves hfind hnotes hadvance
  | refused hstage hrefuses hresult =>
    rw [read_of_refused hstage, hstill]
    exact ⟨[], (List.append_nil log).symm ▸ .refused hstage hrefuses hresult, .nil, fun _ => rfl⟩
  | stopped hstage hframed hdead hfind hnotes hadvance hstops hlog =>
    rw [read_of_stopped hstage hframed hdead.reading, hstill]
    exact ⟨[], (List.append_nil log).symm ▸
      .stopped hstage hframed hdead hfind hnotes hadvance hstops hlog, .nil, fun _ => rfl⟩

/-- All courses that conversations take stand somewhere: with a log in which frames passed on may be
missing, but none if there was always room. -/
lemma stands_of_course {others : Conversation → Switchboard → Prop} {ready : Switchboard → Prop}
    (hothers : ∀ c board, others c board → Apart c board)
    (hready : ∀ board, ready board → Ready board)
    (h : Course settings opening others ready c sent log) :
    ∃ due, Stands settings c sent due ∧ Kept log due ∧
      ((∀ board, ready board → Roomy board) → log = due) := by
  induction h with
  | start board =>
    exact ⟨[], .greeting rfl Inbox.waits_empty.holds ⟨rfl, rfl⟩ rfl, .nil, fun _ => rfl⟩
  | arrive _ hopen bytes ih =>
    obtain ⟨due, hstands, hkept⟩ := ih
    exact ⟨due, hstands.arrive hopen bytes, hkept⟩
  | finish _ ih =>
    obtain ⟨due, hstands, hkept⟩ := ih
    exact ⟨due, hstands.finish, hkept⟩
  | @read c sent log _ hboard ih =>
    obtain ⟨due, hstands, hkept, hlog⟩ := ih
    obtain ⟨more, hread, hnews, hmore⟩ := hstands.read opening (hready c.board hboard)
    refine ⟨due ++ more, hread, hkept.append hnews, fun hroomy => ?_⟩
    rw [hlog hroomy, hmore (hroomy c.board hboard)]
  | others _ board h ih =>
    obtain ⟨due, hstands, hkept⟩ := ih
    exact ⟨due, hstands.others (hothers _ _ h), hkept⟩

end Conversation

end CallDispatch
