import CallDispatch.Proofs.Link.Standing

/-!
# Conversations at rest

A conversation is at rest when another reading would change nothing. Readings bring it to rest, one
more of them than the application has sent bytes at most (`Conversation.Stands.rests`), since
each but the last takes a frame off the bytes left; and at rest, what stands in the log and what has
become of the application is what is due for the bytes sent (`Conversation.Stands.due`), however
they were cut.
-/

namespace CallDispatch

open Text CallDispatch.Frame Service

namespace Conversation

/-- Another reading changes nothing. -/
def Rests (settings : HandshakeSettings) (opening : Opening) (c : Conversation) : Prop :=
  c.read settings opening = c

instance (settings : HandshakeSettings) (opening : Opening) (c : Conversation) :
    Decidable (c.Rests settings opening) :=
  inferInstanceAs (Decidable (c.read settings opening = c))

variable {settings : HandshakeSettings} {opening : Opening} {c : Conversation} {sent left : Bytes}
  {log : List Output} {handle : Handle} {link : FramedLink} {slot : Slot} {wire : Wire}

/-- A conversation at rest stays as it is. -/
lemma Rests.iterate (h : c.Rests settings opening) (n : Nat) :
    (read settings opening)^[n] c = c :=
  Function.iterate_fixed h n

/-! ## Coming to rest -/

/-- The application has been let in, and its reader has come to the bytes `left`. -/
inductive Serving (c : Conversation) (left : Bytes) : Prop
  | intro {handle : Handle} {link : FramedLink} {slot : Slot} (hstage : c.stage = .admitted handle)
      (hframed : c.board.framed? handle.link = some link) (hserves : Serves link handle.id left)
      (hfind : c.board.registry.find? handle.id = some slot)

/-- Where an unfinished frame has been looked at, the server waits. -/
lemma rests_of_waits (hstage : c.stage = .admitted handle)
    (hframed : c.board.framed? handle.link = some link) (hserves : Serves link handle.id left)
    (hfind : c.board.registry.find? handle.id = some slot) (hopen : link.wire.ended = false)
    (hwaits : link.wire.inbox.Waits left) : c.Rests settings opening := by
  have hunfinished : Starts left .unfinished := hwaits.starts
  have hreads := hserves.reads hfind
  unfold Rests
  rw [read_of_admitted hstage hframed hserves.reading]
  generalize (c.board.intake link).step link.entry = result at hreads
  cases hreads with
  | forward hstarts | answer hstarts | giveUp hstarts => exact nomatch hstarts.unique hunfinished
  | @wait inbox _ hwaits' =>
    obtain rfl : inbox = link.wire.inbox := hwaits'.unique hwaits
    have hself := Switchboard.withIntake_self hframed hserves.reading
    exact congrArg (fun board => { c with board }) hself
  | halt inbox h =>
    cases h with
    | malformed hstarts | noText hstarts | noLength hstarts =>
      exact nomatch hstarts.unique hunfinished
    | finished _ hended => exact nomatch hopen.symm.trans hended

/-- A reading takes a frame off the bytes left, or the conversation is at rest behind it. -/
lemma Serving.read (h : Serving c left) (settings : HandshakeSettings) (opening : Opening) :
    (∃ rest : Bytes, rest.length < left.length ∧ Serving (c.read settings opening) rest) ∨
      (c.read settings opening).Rests settings opening := by
  obtain @⟨handle, link, slot, hstage, hframed, hserves, hfind⟩ := h
  have hreads := hserves.reads hfind
  rw [read_of_admitted hstage hframed hserves.reading]
  generalize (c.board.intake link).step link.entry = result at hreads
  cases hreads with
  | @forward text rest frame hstarts hparse hverb =>
    refine .inl ⟨rest, hstarts.length_lt, ?_⟩
    exact ⟨hstage, Switchboard.framed?_withIntake hframed _ _, hserves.goOn rfl (.plain rest),
      Switchboard.find?_withIntake hfind _⟩
  | @answer text rest frame verb hstarts hparse hverb hfits =>
    refine .inl ⟨rest, hstarts.length_lt, ?_⟩
    exact ⟨hstage, Switchboard.framed?_withIntake hframed _ _, hserves.goOn rfl (.plain rest),
      Switchboard.find?_withIntake (Registry.find?_heed hfind hverb) _⟩
  | giveUp =>
    exact .inr (read_of_stopped hstage (Switchboard.framed?_withIntake hframed _ _) rfl)
  | @wait inbox hopen hwaits =>
    exact .inr (rests_of_waits hstage (Switchboard.framed?_withIntake hframed _ _)
      (hserves.goOn rfl hwaits.holds) (Switchboard.find?_withIntake hfind _) hopen hwaits)
  | halt =>
    exact .inr (read_of_stopped hstage (Switchboard.framed?_withIntake hframed _ _) rfl)

/-- The reader comes to rest. -/
lemma Serving.rests (h : Serving c left) {n : Nat} (hle : left.length ≤ n) :
    ((Conversation.read settings opening)^[n + 1] c).Rests settings opening := by
  -- each reading but the last takes a frame, and a frame takes bytes
  induction n generalizing c left with
  | zero =>
    rcases h.read settings opening with ⟨rest, hlt, -⟩ | hrests
    · omega
    · exact hrests
  | succ n ih =>
    rw [Function.iterate_succ_apply]
    rcases h.read settings opening with ⟨rest, hlt, hserving⟩ | hrests
    · exact ih hserving (by omega)
    · rw [hrests.iterate]
      exact hrests

/-- A handshake that has looked at an unfinished frame waits. -/
lemma rests_of_greeting (hstage : c.stage = .greeting wire) (hopen : wire.ended = false)
    (hwaits : wire.inbox.Waits sent) (hwritable : wire.Writable) : c.Rests settings opening := by
  have hunfinished : Starts sent .unfinished := hwaits.starts
  have hgreets := greets_run settings hwaits.holds hwritable c.board.nextMessage
  generalize hrun : Handshake.run settings wire (messageId c.board.nextMessage) = result at hgreets
  cases hgreets with
  | @wait inbox _ hwaits' =>
    obtain rfl : inbox = wire.inbox := hwaits'.unique hwaits
    unfold Rests
    rw [read_of_wait hstage hrun, ← hstage]
  | welcome hstarts => exact nomatch hstarts.unique hunfinished
  | refuse _ _ hfirst =>
    obtain ⟨text, rest, hstarts, -⟩ := hfirst
    exact nomatch hstarts.unique hunfinished
  | halt _ _ h =>
    cases h with
    | malformed hstarts | noText hstarts | noLength hstarts =>
      exact nomatch hstarts.unique hunfinished
    | finished _ hended => exact nomatch hopen.symm.trans hended

/-- The handshake comes to rest, or becomes a connection. -/
lemma read_greeting_cases (settings : HandshakeSettings) (opening : Opening)
    (hstage : c.stage = .greeting wire) (hholds : wire.inbox.Holds sent)
    (hwritable : wire.Writable) :
    (∃ rest : Bytes, rest.length < sent.length ∧ Serving (c.read settings opening) rest) ∨
      (c.read settings opening).Rests settings opening := by
  have hgreets := greets_run settings hholds hwritable c.board.nextMessage
  generalize hrun : Handshake.run settings wire (messageId c.board.nextMessage) = result at hgreets
  cases hgreets with
  | wait hopen hwaits =>
    rw [read_of_wait hstage hrun]
    exact .inr (rests_of_greeting rfl hopen hwaits ⟨hwritable.gone, hwritable.shut⟩)
  | @welcome text rest first hstarts hparse hadmits =>
    rw [read_of_ok hstage hrun]
    by_cases htaken : c.board.registry.contains c.board.nextEntry = true
    · obtain ⟨board, e, hregister⟩ := register_of_taken opening
        (greeted c.board) (Handshake.tagsOf first) htaken
      rw [hregister]
      exact .inr (read_of_refused rfl)
    · obtain ⟨board, handle, hregister, hframed, hfind, -⟩ := register_of_new opening
        (greeted c.board) (Handshake.tagsOf first) (Bool.not_eq_true _ ▸ htaken)
      rw [hregister]
      refine .inl ⟨rest, hstarts.length_lt, ?_⟩
      exact ⟨rfl, hframed, ⟨rfl, rfl, rfl, ⟨hwritable.gone, hwritable.shut⟩, .plain rest⟩, hfind⟩
  | refuse | halt =>
    rw [read_of_error hstage hrun]
    exact .inr (read_of_refused rfl)

/-- Readings bring a conversation to rest. -/
lemma Stands.rests (h : Stands settings c sent log) :
    ((Conversation.read settings opening)^[sent.length + 1] c).Rests settings opening := by
  cases h with
  | greeting hstage hholds hwritable hlog =>
    rw [Function.iterate_succ_apply]
    rcases read_greeting_cases settings opening hstage hholds hwritable with
      ⟨rest, hlt, hserving⟩ | hrests
    · obtain ⟨n, hn⟩ : ∃ n, sent.length = n + 1 := Nat.exists_eq_add_one.2 (by omega)
      rw [hn]
      exact hserving.rests (by omega)
    · rw [hrests.iterate]
      exact hrests
  | serving hstage hframed hserves hfind hnotes hadvance hlog =>
    exact Serving.rests ⟨hstage, hframed, hserves, hfind⟩ hadvance.length_le
  | refused hstage hrefuses hresult =>
    have hrests : c.Rests settings opening := read_of_refused hstage
    rw [hrests.iterate]
    exact hrests
  | stopped hstage hframed hdead hfind hnotes hadvance hstops hlog =>
    have hrests : c.Rests settings opening := read_of_stopped hstage hframed hdead.reading
    rw [hrests.iterate]
    exact hrests

/-! ## At rest -/

lemma outcome_of_admitted (hstage : c.stage = .admitted handle)
    (hfind : c.board.registry.find? handle.id = some slot) :
    c.outcome = some (.ok (slot.handle.tags, slot.methods)) := by
  unfold outcome
  rw [hstage]
  simp only [hfind, Option.map_some]

/-- At rest, the reader waits for an unfinished frame. -/
lemma unfinished_of_rests (hstage : c.stage = .admitted handle)
    (hframed : c.board.framed? handle.link = some link) (hserves : Serves link handle.id left)
    (hfind : c.board.registry.find? handle.id = some slot) (hrests : c.Rests settings opening) :
    Starts left .unfinished ∧ link.wire.ended = false := by
  have hreads := hserves.reads hfind
  unfold Rests at hrests
  rw [read_of_admitted hstage hframed hserves.reading] at hrests
  generalize (c.board.intake link).step link.entry = result at hreads hrests
  -- the link is the same before and after the reading
  have hlink : some { link with
      wire := result.1.wire, alive := link.alive && !(result.2 == .stop)
      reading := !(result.2 == .stop) } = some link := by
    rw [← Switchboard.framed?_withIntake hframed, ← hframed]
    exact congrArg (fun c => c.board.framed? handle.link) hrests
  have hwire : result.1.wire = link.wire := congrArg FramedLink.wire (Option.some.inj hlink)
  have hreading : (!(result.2 == .stop)) = true :=
    (congrArg FramedLink.reading (Option.some.inj hlink)).trans hserves.reading
  -- a reading that takes a frame leaves fewer bytes than there were
  have hsame : ∀ {text : String} {rest : Bytes}, Starts left (.text text rest) →
      link.wire.inbox ≠ ⟨rest, none⟩ := by
    intro text rest hstarts hinbox
    have hholds := hserves.holds
    rw [hinbox] at hholds
    cases hholds
    exact Nat.lt_irrefl _ hstarts.length_lt
  cases hreads with
  | forward hstarts | answer hstarts =>
    exact absurd (congrArg Wire.inbox hwire).symm (hsame hstarts)
  | giveUp | halt => exact nomatch hreading
  | wait hopen hwaits => exact ⟨hwaits.starts, hopen⟩

/-- At rest, the handshake waits for an unfinished frame. -/
lemma wait_of_rests (hstage : c.stage = .greeting wire) (hholds : wire.inbox.Holds sent)
    (hwritable : wire.Writable) (hrests : c.Rests settings opening) :
    Starts sent .unfinished ∧ handshake settings sent wire.ended = none := by
  have hgreets := greets_run settings hholds hwritable c.board.nextMessage
  rw [handshake_eq hholds hwritable c.board.nextMessage]
  generalize hrun : Handshake.run settings wire (messageId c.board.nextMessage) = result at hgreets
  have hresult : result.2 = none := by
    obtain ⟨wire', none | result⟩ := result
    · rfl
    · have hstage' := register_ne_greeting opening
        (c.board.establish settings opening wire) wire
      rw [← read_of_result hstage hrun, hrests] at hstage'
      exact absurd hstage hstage'
  cases hgreets with
  | wait hopen hwaits => exact ⟨hwaits.starts, rfl⟩
  | welcome | refuse | halt => exact nomatch hresult

/-- At rest, the log and the outcome are what is due for the bytes sent. -/
lemma Stands.due (h : Stands settings c sent log) (hrests : c.Rests settings opening)
    {texts : List String} {ending : Ending} (hreading : Reading sent texts ending) :
    log = outputs settings c.wire.ended texts ending ∧
      c.outcome = Service.outcome settings sent c.wire.ended texts := by
  cases h with
  | greeting hstage hholds hwritable hlog =>
    obtain ⟨hunfinished, hresult⟩ := wait_of_rests hstage hholds hwritable hrests
    obtain ⟨rfl, rfl⟩ := hreading.unique (.unfinished hunfinished)
    rw [wire_of_greeting hstage, hlog, Service.outcome, hresult, Conversation.outcome, hstage]
    exact ⟨rfl, rfl⟩
  | serving hstage hframed hserves hfind hnotes hadvance hlog =>
    obtain ⟨hunfinished, hopen⟩ := unfinished_of_rests hstage hframed hserves hfind hrests
    obtain ⟨tail, htail, houtputs, houtcome⟩ := hadvance.due c.wire.ended hreading
    -- no text is left, so what has been taken is all
    obtain ⟨rfl, rfl⟩ := htail.unique (.unfinished hunfinished)
    constructor
    · rw [houtputs, wire_of_admitted hstage hframed, hopen, hlog]
      exact (List.append_nil _).symm
    · rw [houtcome, outcome_of_admitted hstage hfind, hnotes.tags, hnotes.methods]
      rfl
  | refused hstage hrefuses hresult =>
    rw [wire_of_refused hstage, hrefuses.due hreading, Service.outcome, hresult,
      Conversation.outcome, hstage]
    exact ⟨rfl, rfl⟩
  | stopped hstage hframed hdead hfind hnotes hadvance hstops hlog =>
    obtain ⟨tail, htail, houtputs, houtcome⟩ := hadvance.due c.wire.ended hreading
    rw [← wire_of_admitted hstage hframed] at hstops
    obtain ⟨hserved, hasked, hstopped⟩ := hstops.served htail
    constructor
    · rw [houtputs, hlog, hserved, hstopped]
      rfl
    · rw [houtcome, hasked, outcome_of_admitted hstage hfind, hnotes.tags, hnotes.methods]

/-! ## The main result -/

/-- Where nothing is lost, a conversation stands somewhere with its log. -/
lemma stands_of_apart (h : Course settings opening Apart Roomy c sent log) :
    Stands settings c sent log := by
  obtain ⟨due, hstands, -, hlog⟩ :=
    stands_of_course (fun _ _ hapart => hapart) (fun _ hroomy => hroomy.toReady) h
  rw [hlog fun _ hroomy => hroomy]
  exact hstands

/-- **Cutting.** Readings bring a conversation to rest. At rest, the log and what has become of the
application are what is due for the bytes sent: they do not depend on how the bytes were cut into
chunks, on when they were read and on what others did meanwhile, and so they are the same as for any
other conversation at rest on the same stream. -/
theorem rests_exact (h : Course settings opening Apart Roomy c sent log) :
    ((read settings opening)^[sent.length + 1] c).Rests settings opening ∧
    (c.Rests settings opening →
      (∃ texts ending, Reading sent texts ending ∧
        log = outputs settings c.wire.ended texts ending ∧
        c.outcome = Service.outcome settings sent c.wire.ended texts) ∧
      ∀ opening' c' log', Course settings opening' Apart Roomy c' sent log' →
        c'.wire.ended = c.wire.ended → c'.Rests settings opening' →
          log' = log ∧ c'.outcome = c.outcome) := by
  have hstands := stands_of_apart h
  refine ⟨hstands.rests, ?_⟩
  intro hrests
  obtain ⟨texts, ending, hreading⟩ := exists_reading sent
  have hdue := hstands.due hrests hreading
  refine ⟨⟨texts, ending, hreading, hdue⟩, ?_⟩
  intro opening' c' log' hcourse hended hrests'
  obtain ⟨hlog, houtcome⟩ := (stands_of_apart hcourse).due hrests' hreading
  rw [hended] at hlog houtcome
  exact ⟨hlog.trans hdue.1.symm, houtcome.trans hdue.2.symm⟩

/-- An application is let in, asks for a method, sends another frame and closes; its bytes come in
two chunks, of which the first ends inside the second frame. -/
theorem rests_exact_twoChunks :
    let settings : HandshakeSettings := ⟨"cymru", "srv-1"⟩
    let opening : Opening := ⟨.inbound, .plain, .v4 ⟨10, 0, 0, 2⟩ 40000, none⟩
    let stream := ["1|authenticate|cymru|a", "2|route|invite", "3|hello"].flatMap framed
    ∃ c log, Course settings opening Apart Roomy c stream log ∧ c.Rests settings opening ∧
      (∃ texts ending, Reading stream texts ending ∧
        log = outputs settings c.wire.ended texts ending ∧
        c.outcome = Service.outcome settings stream c.wire.ended texts) ∧
      log = [.reply "|response|1|OK|srv-1", .reply "|response|2|OK",
        .forward ⟨"3", "hello", [], none⟩, .disconnected] := by
  intro settings opening stream
  have hstart : Course settings opening Apart Roomy ⟨{}, .greeting {}⟩ [] [] := .start {}
  have hgreeted := (hstart.arrive rfl (stream.take 30)).read
    ⟨⟨by decide +kernel⟩, by decide +kernel⟩
  have hserved := ((hgreeted.arrive (by decide +kernel) (stream.drop 30)).read
    ⟨⟨by decide +kernel⟩, by decide +kernel⟩).read ⟨⟨by decide +kernel⟩, by decide +kernel⟩
  have hover := hserved.finish.read ⟨⟨by decide +kernel⟩, by decide +kernel⟩
  have hstream : [] ++ stream.take 30 ++ stream.drop 30 = stream := by
    rw [List.nil_append, List.take_append_drop]
  rw [hstream] at hover
  have hrests := (rests_exact hover).2 (by decide +kernel)
  exact ⟨_, _, hover, by decide +kernel, hrests.1, by decide +kernel⟩

end Conversation

end CallDispatch
