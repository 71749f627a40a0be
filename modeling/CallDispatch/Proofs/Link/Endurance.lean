import CallDispatch.Proofs.Frame.Rendering
import CallDispatch.Proofs.Link.Rest
import Mathlib.Data.Fintype.EquivFin

/-!
# What brings a link down

As long as an application sends frames and does not close, nothing brings down its link but an
answer to one of its own frames that does not fit into a frame: the id that the application gave to
a `route` frame stands in the answer, and can be so long that the answer is too large. The reader
takes this for the end of the stream (`Conversation.dead_of_large`), although the fault lies with
the message and the stream could still be used. Otherwise the link stays alive and the entry active,
and every `route` frame is answered, also where the frames passed on from the application find no
room.
-/

namespace CallDispatch

open Text CallDispatch.Frame Service

/-- What others may do who neither drain the connection nor remove it. -/
structure Undrained (c : Conversation) (board : Switchboard) : Prop extends Apart c board where
  state : ∀ handle slot slot', c.stage = .admitted handle →
    c.board.registry.find? handle.id = some slot →
      board.registry.find? handle.id = some slot' → slot'.state = slot.state

namespace Conversation

variable {settings : HandshakeSettings} {opening : Opening} {c : Conversation} {sent left : Bytes}
  {log : List Output} {handle : Handle} {link : FramedLink} {slot : Slot} {first : Frame}
  {frames : List Frame}

/-- The link of the application is alive, and its entry takes new requests. -/
structure Usable (c : Conversation) (handle : Handle) : Prop where
  alive : ∃ link, c.board.framed? handle.link = some link ∧ link.alive = true
  active : ∃ slot, c.board.registry.find? handle.id = some slot ∧ slot.state = .active

/-! ## The entry -/

/-- The entry of the application, once there is one, takes new requests. -/
def IsActive (c : Conversation) : Prop :=
  ∀ handle, c.stage = .admitted handle →
    ∃ slot, c.board.registry.find? handle.id = some slot ∧ slot.state = .active

/-- What the application does to its stream does not matter for its entry. -/
lemma IsActive.touch (h : c.IsActive) (change : Wire → Wire) : (c.touch change).IsActive := by
  intro handle hstage
  cases hc : c.stage with
  | greeting wire =>
    rw [touch_of_greeting hc] at hstage
    exact nomatch hstage
  | refused wire e =>
    rw [touch_of_refused hc] at hstage
    exact nomatch hstage
  | admitted handle' =>
    rw [touch_of_admitted hc] at hstage ⊢
    obtain rfl : handle' = handle := Stage.admitted.inj (hc.symm.trans hstage)
    obtain ⟨slot, hfind, hstate⟩ := h handle' hc
    rw [Switchboard.registry_touch]
    exact ⟨slot, hfind, hstate⟩

/-- Reading does not matter for the state of the entry. -/
lemma IsActive.read (h : c.IsActive) (hstands : Stands settings c sent log)
    (hready : Ready c.board) : (c.read settings opening).IsActive := by
  intro handle hstage'
  cases hstands with
  | @greeting wire hstage hholds hwritable hlog =>
    have hgreets := greets_run settings hholds hwritable c.board.nextMessage
    generalize hrun : Handshake.run settings wire (messageId c.board.nextMessage) = result at hgreets
    cases hgreets with
    | wait =>
      rw [read_of_wait hstage hrun] at hstage'
      exact nomatch hstage'
    | @welcome text rest first hstarts hparse hadmits =>
      obtain ⟨board, handle', hregister, -, hfind, -⟩ := register_of_new opening
        (greeted c.board) (Handshake.tagsOf first) hready.fresh
      rw [read_of_ok hstage hrun, hregister] at hstage' ⊢
      obtain rfl : handle' = handle := Stage.admitted.inj hstage'
      exact ⟨_, hfind, rfl⟩
    | refuse | halt =>
      rw [read_of_error hstage hrun] at hstage'
      exact nomatch hstage'
  | @serving handle' link slot first frames left hstage hframed hserves hfind hnotes hadvance hlog =>
    have hreads := hserves.reads hfind
    obtain ⟨slot', hfind', hstate⟩ := h handle' hstage
    cases hfind.symm.trans hfind'
    rw [read_of_admitted hstage hframed hserves.reading] at hstage' ⊢
    obtain rfl : handle' = handle := Stage.admitted.inj (hstage.symm.trans hstage')
    generalize (c.board.intake link).step link.entry = result at hreads
    -- the slot is changed at most in its methods
    cases hreads with
    | forward | wait | halt => exact ⟨slot, Switchboard.find?_withIntake hfind _, hstate⟩
    | answer _ _ hverb | giveUp _ _ hverb =>
      have hheeded := Registry.find?_heed hfind hverb
      refine ⟨_, Switchboard.find?_withIntake hheeded _, ?_⟩
      exact hstate
  | refused hstage hrefuses hresult =>
    rw [read_of_refused hstage] at hstage' ⊢
    exact h handle hstage'
  | stopped hstage hframed hdead hfind hnotes hadvance hstops hlog =>
    rw [read_of_stopped hstage hframed hdead.reading] at hstage' ⊢
    exact h handle hstage'

/-- Where nobody drains the connection, the conversation stands somewhere. -/
lemma stands_of_undrained (h : Course settings opening Undrained Ready c sent log) :
    ∃ due, Stands settings c sent due ∧ Kept log due := by
  obtain ⟨due, hstands, hkept, -⟩ :=
    stands_of_course (fun _ _ hundrained => hundrained.toApart) (fun _ hready => hready) h
  exact ⟨due, hstands, hkept⟩

/-- The entry takes new requests if nobody drains it. -/
lemma isActive_of_course (h : Course settings opening Undrained Ready c sent log) : c.IsActive := by
  induction h with
  | start board =>
    intro handle hstage
    exact nomatch hstage
  | arrive _ hopen bytes ih => exact ih.touch _
  | finish _ ih => exact ih.touch _
  | read hcourse hready ih =>
    obtain ⟨due, hstands, -⟩ := stands_of_undrained hcourse
    exact ih.read hstands hready
  | others _ board hothers ih =>
    intro handle hstage
    obtain ⟨slot, hfind, hstate⟩ := ih handle hstage
    obtain ⟨slot', hfind', -⟩ := hothers.slot handle slot hstage hfind
    exact ⟨slot', hfind', (hothers.state handle slot slot' hstage hfind hfind').trans hstate⟩

/-! ## The link -/

/-- Behind a frame whose answer does not fit, the link is dead. -/
lemma dead_of_large (settings : HandshakeSettings) (opening : Opening) {text : String}
    {rest : Bytes} {frame : Frame}
    (hstage : c.stage = .admitted handle) (hframed : c.board.framed? handle.link = some link)
    (hserves : Serves link handle.id left) (hfind : c.board.registry.find? handle.id = some slot)
    (hstarts : Starts left (.text text rest)) (hparse : Frame.parse text = .ok frame)
    (hlarge : frame.answerable = false) :
    ∃ link', (c.read settings opening).board.framed? handle.link = some link' ∧
      link'.alive = false ∧ link'.wire.ended = link.wire.ended := by
  have hreads := hserves.reads hfind
  rw [read_of_admitted hstage hframed hserves.reading]
  generalize (c.board.intake link).step link.entry = result at hreads
  have hsame : ∀ {text' rest' frame'}, Starts left (.text text' rest') →
      Frame.parse text' = .ok frame' → frame'.answerable = false := by
    intro text' rest' frame' hstarts' hparse'
    cases hstarts.unique hstarts'
    cases hparse.symm.trans hparse'
    exact hlarge
  cases hreads with
  | forward hstarts' hparse' hverb =>
    have hfits := Frame.answerable_of_none hverb
    exact nomatch (hsame hstarts' hparse').symm.trans hfits
  | answer hstarts' hparse' hverb hfits => exact nomatch (hsame hstarts' hparse').symm.trans hfits
  | giveUp | halt =>
    exact ⟨_, Switchboard.framed?_withIntake hframed _ _, Bool.and_false _, rfl⟩
  | wait hopen hwaits => exact nomatch hstarts.unique hwaits.starts

/-- Frames taken from a stream of frames are the first of them, and can be answered. -/
lemma taken_of_frames {taken tail : List String} {frames' : List Frame}
    (hframes : (taken ++ tail).map Frame.parse = frames.map .ok)
    (htaken : List.Forall₂ Taken taken frames') :
    (∃ more, frames = frames' ++ more ∧ tail.map Frame.parse = more.map .ok) ∧
      ∀ frame ∈ frames', frame.answerable = true := by
  induction htaken generalizing frames with
  | nil => exact ⟨⟨frames, rfl, hframes⟩, by simp⟩
  | @cons text frame taken frames' htext _ ih =>
    cases frames with
    | nil => exact nomatch hframes
    | cons frame' frames =>
      rw [List.cons_append, List.map_cons, List.map_cons, List.cons_eq_cons] at hframes
      obtain ⟨hframe, hrest⟩ := hframes
      cases htext.1.symm.trans hframe
      obtain ⟨⟨more, rfl, htail⟩, hanswerable⟩ := ih hrest
      exact ⟨⟨more, rfl, htail⟩, List.forall_mem_cons.2 ⟨htext.2, hanswerable⟩⟩

/-- On a stream of frames that goes on, the reader stops only where an answer does not fit. -/
lemma large_of_stops {tail : List String} {extra : List String} {left' : Bytes}
    (h : Stops false left extra) (hreading : Reading left tail (.unfinished left'))
    (hframes : tail.map Frame.parse = frames.map .ok) :
    ∃ frame ∈ frames, frame.answerable = false := by
  cases tail with
  | nil =>
    cases h with
    | halt h =>
      rcases h.ends hreading with hended | herror
      · exact nomatch hended
      · exact nomatch herror
    | large hstarts =>
      cases hreading with
      | unfinished hunfinished => exact nomatch hunfinished.unique hstarts
  | cons text tail =>
    cases frames with
    | nil => exact nomatch hframes
    | cons frame frames =>
      rw [List.map_cons, List.map_cons, List.cons_eq_cons] at hframes
      cases h with
      | halt h => exact absurd hframes.1 (h.parse_ne hreading frame)
      | large hstarts hparse hlarge =>
        cases hreading with
        | text hstarts' _ =>
          cases hstarts.unique hstarts'
          cases hparse.symm.trans hframes.1
          exact ⟨frame, List.mem_cons_self, hlarge⟩

/-- How far the frames on a stream of frames have been taken. -/
lemma frames_of_advance {texts : List String} {left' : Bytes} {first' : Frame}
    {frames' : List Frame} (h : Advance settings sent left first' frames')
    (hreading : Reading sent texts (.unfinished left'))
    (hframes : texts.map Frame.parse = (first :: frames).map .ok) :
    first' = first ∧ (∀ frame ∈ frames', frame.answerable = true) ∧
      ∃ tail more, Reading left tail (.unfinished left') ∧ frames = frames' ++ more ∧
        tail.map Frame.parse = more.map .ok := by
  obtain ⟨greeting, taken, tail, rfl, hparse, htaken, hrest⟩ := h.reading hreading
  rw [List.map_cons, List.map_cons, List.cons_eq_cons] at hframes
  obtain ⟨⟨more, hmore, htail⟩, hanswerable⟩ := taken_of_frames hframes.2 htaken
  have hfirst : first' = first := Except.ok.inj (hparse.symm.trans hframes.1)
  exact ⟨hfirst, hanswerable, tail, more, hrest, hmore, htail⟩

/-! ## The main result -/

/-- **Endurance.** While an application that was let in sends frames and does not close, and nobody
drains its connection: if the answers to its `route` frames fit into frames, its link is alive and
its entry active, and in the log is what is due for its first frames, but for frames to be passed on
that found no room. Once the conversation is at rest, the link is alive and the entry active if and
only if all the answers fit; and then every `route` frame has been answered. -/
theorem usable_iff (h : Course settings opening Undrained Ready c sent log)
    (hstage : c.stage = .admitted handle) (hopen : c.wire.ended = false) {texts : List String}
    {left' : Bytes} (hreading : Reading sent texts (.unfinished left'))
    (hframes : texts.map Frame.parse = (first :: frames).map .ok) :
    ((∀ frame ∈ frames, frame.answerable = true) →
      c.Usable handle ∧ ∃ n, Kept log (logOf settings first (frames.take n))) ∧
    (c.Rests settings opening →
      (c.Usable handle ↔ ∀ frame ∈ frames, frame.answerable = true) ∧
      (c.Usable handle → Kept log (logOf settings first frames))) := by
  have hactive := isActive_of_course h handle hstage
  obtain ⟨due, hstands, hkept⟩ := stands_of_undrained h
  cases hstands with
  | greeting hstage' => exact nomatch hstage.symm.trans hstage'
  | refused hstage' => exact nomatch hstage.symm.trans hstage'
  | @serving handle' link slot first' frames' left hstage' hframed hserves hfind hnotes hadvance
      hlog =>
    obtain rfl : handle' = handle := Stage.admitted.inj (hstage'.symm.trans hstage)
    subst hlog
    obtain ⟨rfl, hanswerable, tail, more, htail, rfl, hmore⟩ :=
      frames_of_advance hadvance hreading hframes
    have husable : c.Usable handle' := ⟨⟨link, hframed, hserves.alive⟩, hactive⟩
    refine ⟨fun _ => ⟨husable, frames'.length, ?_⟩, fun hrests => ?_⟩
    · rw [List.take_left]
      exact hkept
    · -- at rest nothing is left but an unfinished frame
      obtain ⟨hunfinished, -⟩ := unfinished_of_rests hstage' hframed hserves hfind hrests
      obtain ⟨rfl, -⟩ := htail.unique (.unfinished hunfinished)
      obtain rfl : more = [] := List.map_eq_nil_iff.1 hmore.symm
      rw [List.append_nil]
      exact ⟨iff_of_true husable hanswerable, fun _ => hkept⟩
  | @stopped handle' link slot first' frames' left extra hstage' hframed hdead hfind hnotes hadvance
      hstops hlog =>
    obtain rfl : handle' = handle := Stage.admitted.inj (hstage'.symm.trans hstage)
    -- as the stream goes on, the reader has stopped behind a frame whose answer did not fit
    rw [← wire_of_admitted hstage' hframed, hopen] at hstops
    obtain ⟨rfl, -, tail, more, htail, rfl, hmore⟩ := frames_of_advance hadvance hreading hframes
    obtain ⟨frame, hframe, hlarge⟩ := large_of_stops hstops htail hmore
    have hsome : ¬∀ frame ∈ frames' ++ more, frame.answerable = true := by
      intro hall
      exact nomatch hlarge.symm.trans (hall frame (List.mem_append_right _ hframe))
    have hunusable : ¬c.Usable handle' := by
      rintro ⟨⟨link', hframed', halive⟩, -⟩
      cases hframed.symm.trans hframed'
      exact nomatch hdead.alive.symm.trans halive
    exact ⟨fun hall => absurd hall hsome, fun _ =>
      ⟨iff_of_false hunusable hsome, fun husable => absurd husable hunusable⟩⟩

/-- An application asks for a method, and is answered. -/
theorem usable_iff_oneMethod :
    let settings : HandshakeSettings := ⟨"cymru", "srv-1"⟩
    let opening : Opening := ⟨.inbound, .plain, .v4 ⟨10, 0, 0, 2⟩ 40000, none⟩
    let texts := ["1|authenticate|cymru", "2|route|INVITE"]
    ∃ c log handle, Course settings opening Undrained Ready c (texts.flatMap framed) log ∧
      c.stage = .admitted handle ∧ c.wire.ended = false ∧ c.Rests settings opening ∧
      c.Usable handle ∧ Kept log [.reply "|response|1|OK|srv-1", .reply "|response|2|OK"] := by
  intro settings opening texts
  have hstart : Course settings opening Undrained Ready ⟨{}, .greeting {}⟩ [] [] := .start {}
  have hgreeted := (hstart.arrive rfl (texts.flatMap framed)).read ⟨by decide +kernel⟩
  have hserved := hgreeted.read ⟨by decide +kernel⟩
  have hreading : Reading ([] ++ texts.flatMap framed) texts (.unfinished []) :=
    reading_framed (by decide +kernel)
  let handle : Handle := ⟨1, .inbound, .plain, .empty, none, some opening.peer, 0⟩
  have hframes : texts.map Frame.parse =
      [⟨"1", "authenticate", ["cymru"], none⟩, ⟨"2", "route", ["INVITE"], none⟩].map .ok := by
    decide +kernel
  obtain ⟨-, hrest⟩ := usable_iff hserved (show _ = Stage.admitted handle by decide +kernel)
    (by decide +kernel) hreading hframes
  obtain ⟨husable, hlog⟩ := hrest (by decide +kernel)
  have hanswerable : ∀ frame ∈ [(⟨"2", "route", ["INVITE"], none⟩ : Frame)],
      frame.answerable = true := by decide +kernel
  have hdue : logOf settings ⟨"1", "authenticate", ["cymru"], none⟩
      [⟨"2", "route", ["INVITE"], none⟩] =
        [.reply "|response|1|OK|srv-1", .reply "|response|2|OK"] := by decide +kernel
  exact ⟨_, _, handle, hserved, by decide +kernel, by decide +kernel, by decide +kernel,
    husable.2 hanswerable, hdue ▸ hlog (husable.2 hanswerable)⟩

/-! ## A frame that brings a link down -/

/-- There is always an id that is free. -/
lemma exists_fresh (registry : Registry) : ∃ id, registry.contains id = false := by
  obtain ⟨id, hid⟩ := Infinite.exists_notMem_finset (registry.slots.map Slot.id).toFinset
  refine ⟨id, ?_⟩
  rw [Bool.eq_false_iff, Ne, Registry.contains_iff]
  rintro ⟨slot, hslot, rfl⟩
  exact hid (List.mem_toFinset.2 (List.mem_map_of_mem hslot))

/-- Others can make the server ready for a reading. -/
lemma exists_ready (h : Course settings opening Undrained Ready c sent log) :
    ∃ board, Course settings opening Undrained Ready { c with board } sent log ∧ Ready board ∧
      board.registry = c.board.registry ∧ board.links = c.board.links := by
  obtain ⟨id, hfresh⟩ := exists_fresh c.board.registry
  let board : Switchboard := { c.board with nextEntry := id }
  have hundrained : Undrained c board := {
    link := fun handle link _ hframed => ⟨link.wire.written, hframed⟩
    slot := fun handle slot _ hfind => ⟨slot, hfind, rfl, rfl⟩
    state := fun handle slot slot' _ hfind hfind' => by
      cases hfind.symm.trans hfind'
      rfl }
  exact ⟨board, h.others board hundrained, ⟨hfresh⟩, rfl, rfl⟩

/-- A frame whose answer does not fit, right behind the handshake, brings the link down. -/
lemma exists_dead (settings : HandshakeSettings) (opening : Opening) {greeting text : String}
    {frame : Frame} (hgreeting : fits greeting = true)
    (hfirst : Frame.parse greeting = .ok first)
    (hadmits : Handshake.Admits settings (messageId 0) first) (htext : fits text = true)
    (hparse : Frame.parse text = .ok frame) (hlarge : frame.answerable = false) :
    ∃ c log handle link,
      Course settings opening Undrained Ready c ([greeting, text].flatMap framed) log ∧
      c.stage = .admitted handle ∧ c.wire.ended = false ∧
      c.board.framed? handle.link = some link ∧ link.alive = false := by
  have hstarts : ∀ {payload : String} (rest : Bytes), fits payload = true →
      Starts (framed payload ++ rest) (.text payload rest) := fun rest hfits =>
    starts_framed (fits_iff.1 hfits).1 (fits_iff.1 hfits).2 rest
  have hsent : [greeting, text].flatMap framed = framed greeting ++ (framed text ++ []) := by simp
  generalize [greeting, text].flatMap framed = sent at hsent ⊢
  -- the application is let in
  let c : Conversation := ⟨{}, .greeting (Wire.arrive {} sent)⟩
  have hcourse : Course settings opening Undrained Ready c ([] ++ sent) [] :=
    (Course.start {}).arrive rfl sent
  have hready : Ready c.board := ⟨rfl⟩
  have hholds : (Wire.arrive {} sent).inbox.Holds sent := .plain sent
  have hstarts' := hsent ▸ hstarts (framed text ++ []) hgreeting
  obtain ⟨greeting', rest, hstarts'', hrun⟩ := Handshake.run_of_admits
    ⟨greeting, _, hstarts', hfirst⟩ (admits_congr 0 c.board.nextMessage hadmits) hholds ⟨rfl, rfl⟩
  cases hstarts'.unique hstarts''
  obtain ⟨board, handle, hregister, hframed, hfind, -⟩ := register_of_new opening
    (greeted c.board) (Handshake.tagsOf first) hready.fresh
  have hgreeted := hcourse.read hready
  rw [read_of_ok (c := c) rfl hrun, hregister] at hgreeted
  -- the frame is read
  obtain ⟨board', hcourse', hready', hregistry, hlinks⟩ := exists_ready hgreeted
  rw [Switchboard.framed?_eq_some_iff] at hframed
  have hframed' := Switchboard.framed?_eq_some_iff.2
    ((congrArg (·[handle.link]?) hlinks).trans hframed)
  have hfind' := (congrArg (·.find? handle.id) hregistry).trans hfind
  obtain ⟨link, hlink, halive, hended⟩ := dead_of_large settings opening
    (c := ⟨board', .admitted handle⟩) rfl hframed' ⟨rfl, rfl, rfl, ⟨rfl, rfl⟩, .plain _⟩ hfind'
    (hstarts [] htext) hparse hlarge
  have hstage : (Conversation.read settings opening ⟨board', .admitted handle⟩).stage =
      .admitted handle := by
    rw [read_of_admitted (c := ⟨board', .admitted handle⟩) rfl hframed' rfl]
  refine ⟨_, _, handle, link, hcourse'.read hready', hstage, ?_, hlink, halive⟩
  rw [wire_of_admitted hstage hlink, hended]
  rfl

/-- A request for a method whose id has `n` letters. -/
def longRequest (n : Nat) : Frame :=
  ⟨String.ofList (List.replicate n 'i'), "route", ["INVITE"], none⟩

lemma toList_id_longRequest (n : Nat) : (longRequest n).id.toList = List.replicate n 'i' :=
  String.toList_ofList

lemma utf8ByteSize_id_longRequest (n : Nat) : (longRequest n).id.utf8ByteSize = n := by
  have hsingle : ∀ c ∈ List.replicate n 'i', c.utf8Size = 1 := by
    intro c hc
    rw [(List.mem_replicate.1 hc).2]
    decide
  exact (utf8ByteSize_ofList_of_single hsingle).trans List.length_replicate

/-- The request is a well-formed frame. -/
lemma parse_longRequest {n : Nat} (hpos : 0 < n) :
    Frame.parse (longRequest n).payload = .ok (longRequest n) := by
  have hletter : ∀ letter ∈ (longRequest n).id.toList, letter = 'i' := by
    intro letter hmem
    rw [toList_id_longRequest] at hmem
    exact (List.mem_replicate.1 hmem).2
  have hid : IsField (longRequest n).id := {
    bar := fun hbar => absurd (hletter _ hbar) (by decide)
    unbroken := fun hbroken => absurd (hletter _ (hbroken.subset List.mem_cons_self)) (by decide) }
  have hothers : ∀ field ∈ ["route", "INVITE"], IsField field := by decide +kernel
  have hne : (longRequest n).id ≠ "" := by
    intro hempty
    have hsize := utf8ByteSize_id_longRequest n
    rw [hempty] at hsize
    exact hpos.ne hsize
  have hkind : (longRequest n).kind ≠ "" := by
    show "route" ≠ ""
    decide
  exact parse_payload hne hkind (List.forall_mem_cons.2 ⟨hid, hothers⟩)

lemma fits_longRequest_iff {n : Nat} :
    fits (longRequest n).payload = true ↔ n + 13 ≤ maxLength := by
  have hbehind : (longRequest n).behindId = "|route|INVITE" := by
    show "|" ++ "|".intercalate ["route", "INVITE"] ++ bodyText none = _
    decide +kernel
  have hsize : ("|route|INVITE" : String).utf8ByteSize = 13 := by decide +kernel
  rw [fits_payload_iff, payload_eq, String.utf8ByteSize_append, hbehind, hsize,
    utf8ByteSize_id_longRequest]

/-- The request is not answered if its id is too long for an answer. -/
lemma not_answerable_longRequest {n : Nat} (hlong : maxLength < n + 49) :
    (longRequest n).answerable = false := by
  have hverb : (longRequest n).routeVerb = some "INVITE" := rfl
  have hroutable : Sip.isRoutable "INVITE" = true := by decide +kernel
  rw [answerable, hverb, Option.all_some, answer, if_pos hroutable, ← Bool.not_eq_true,
    fits_payload_iff, utf8ByteSize_response, utf8ByteSize_messageId, Option.elim_none,
    utf8ByteSize_id_longRequest]
  omega

/-- **A long id.** An application is let in and sends one frame, a request for a method whose id has
99960 letters. The frame is well-formed, but the link is dead, although the application has not
closed and nobody has drained its connection. -/
theorem not_usable_of_longId :
    let settings : HandshakeSettings := ⟨"cymru", "srv-1"⟩
    let opening : Opening := ⟨.inbound, .plain, .v4 ⟨10, 0, 0, 2⟩ 40000, none⟩
    let first : Frame := ⟨"1", "authenticate", ["cymru"], none⟩
    let texts := [first.payload, (longRequest 99960).payload]
    ∃ c log handle, Course settings opening Undrained Ready c (texts.flatMap framed) log ∧
      c.stage = .admitted handle ∧ c.wire.ended = false ∧
      Reading (texts.flatMap framed) texts (.unfinished []) ∧
      texts.map Frame.parse = [first, longRequest 99960].map .ok ∧ ¬c.Usable handle := by
  intro settings opening first texts
  have hfirst : Frame.parse first.payload = .ok first := by decide +kernel
  have hrequest := parse_longRequest (show 0 < 99960 by decide)
  have hfitsFirst : fits first.payload = true := by decide +kernel
  have hfits := fits_longRequest_iff.2 (show 99960 + 13 ≤ maxLength by decide)
  have hlarge := not_answerable_longRequest (show maxLength < 99960 + 49 by decide)
  obtain ⟨c, log, handle, link, hcourse, hstage, hopen, hframed, hdead⟩ :=
    exists_dead settings opening hfitsFirst hfirst (by decide +kernel) hfits hrequest hlarge
  have hparse : texts.map Frame.parse = [first, longRequest 99960].map .ok := by
    simp only [texts, List.map_cons, List.map_nil, hfirst, hrequest]
  have hall : ∀ text ∈ texts, fits text = true :=
    List.forall_mem_cons.2 ⟨hfitsFirst, List.forall_mem_singleton.2 hfits⟩
  refine ⟨c, log, handle, hcourse, hstage, hopen, reading_framed hall, hparse, ?_⟩
  rintro ⟨⟨link', hframed', halive⟩, -⟩
  cases hframed.symm.trans hframed'
  exact nomatch hdead.symm.trans halive

end Conversation

end CallDispatch
