import CallDispatch.Dial.Dialer
import CallDispatch.Proofs.Frame.Responses
import CallDispatch.Proofs.Link.Stream

/-!
# Admission

Who becomes a connection. The handshake looks at the first frame on a stream and at nothing behind
it: it comes to the same result whether the bytes arrive in chunks or all at once
(`Opening.establishFrom_eq`), since an incomplete frame only makes it wait and a complete one is the
same when more has arrived. What the application gets to read is the one answer to its first frame,
or nothing where that does not fit into a frame (`answer_eq`).

## Main definitions

* `Frame.First`: the first frame on a stream.
* `Handshake.Admits`: what the first frame has to be.
* `Opening.establishFrom`: establishing a connection while the chunks of a stream arrive.
-/

namespace CallDispatch

open Text CallDispatch.Frame

/-- The first frame on a stream. -/
def Frame.First (bytes : Bytes) (frame : Frame) : Prop :=
  ∃ text rest, Starts bytes (.text text rest) ∧ Frame.parse text = .ok frame

/-- A stream has at most one first frame. -/
lemma Frame.First.unique {bytes : Bytes} {frame frame' : Frame} (h : First bytes frame)
    (h' : First bytes frame') : frame = frame' := by
  obtain ⟨text, rest, hstarts, hframe⟩ := h
  obtain ⟨text', rest', hstarts', hframe'⟩ := h'
  cases hstarts.unique hstarts'
  rw [hframe] at hframe'
  exact Except.ok.inj hframe'

namespace Handshake

variable {settings : HandshakeSettings} {answerId : String} {wire wire' : Wire} {left : Bytes}
  {frame : Frame}

/-! ## The answer -/

/-- The response that lets an application in. -/
def welcome (settings : HandshakeSettings) (answerId : String) (frame : Frame) : Frame :=
  .response answerId frame.id true (some settings.identity)

/-- The response to the first frame of an application. -/
def answerTo (settings : HandshakeSettings) (answerId : String) (frame : Frame) : Frame :=
  if frame.kind ≠ "authenticate" then
    .response answerId frame.id false (some "authenticate first")
  else if frame.args.head?.getD "" ≠ settings.secret then
    .response answerId frame.id false (some "incorrect secret")
  else welcome settings answerId frame

/-- The first frame asks to be let in and names the secret. A missing argument is an empty one. -/
structure Knows (settings : HandshakeSettings) (frame : Frame) : Prop where
  kind : frame.kind = "authenticate"
  secret : frame.args.head?.getD "" = settings.secret

/-- The first frame of an application that is let in: it knows the secret, and can be answered. -/
structure Admits (settings : HandshakeSettings) (answerId : String) (frame : Frame) : Prop
    extends Knows settings frame where
  fits : (welcome settings answerId frame).payload.utf8ByteSize ≤ maxLength

/-- The tags that an application advertises with its first frame. -/
def tagsOf (frame : Frame) : TagSet :=
  (frame.args[1]?).elim .empty TagSet.parse

/-- A secret that is not empty has to be there. -/
lemma getD_head?_eq_iff {args : List String} {secret : String} (hne : secret ≠ "") :
    args.head?.getD "" = secret ↔ args.head? = some secret := by
  cases args.head? with
  | none => simp [hne.symm]
  | some text => simp

lemma answerTo_of_knows (h : Knows settings frame) :
    answerTo settings answerId frame = welcome settings answerId frame := by
  rw [answerTo, if_neg (not_not.2 h.kind), if_neg (not_not.2 h.secret)]

/-- Who does not know the secret is answered by a `NO` response to the frame. -/
lemma answerTo_of_not_knows (answerId : String) (h : ¬Knows settings frame) :
    ∃ reason, answerTo settings answerId frame =
      .response answerId frame.id false (some reason) := by
  unfold answerTo
  by_cases hkind : frame.kind = "authenticate"
  · have hsecret : frame.args.head?.getD "" ≠ settings.secret := fun hsecret => h ⟨hkind, hsecret⟩
    rw [if_neg (not_not.2 hkind), if_pos hsecret]
    exact ⟨_, rfl⟩
  · rw [if_pos hkind]
    exact ⟨_, rfl⟩

/-- What the handshake comes to when the response has been sent, or could not be. -/
def verdict (settings : HandshakeSettings) (frame : Frame) (sent : Except LinkError Unit) :
    Except DialError TagSet :=
  if frame.kind ≠ "authenticate" then
    .error (.handshake ("unexpected '" ++ frame.kind ++ "' message before authenticating"))
  else if frame.args.head?.getD "" ≠ settings.secret then .error (.handshake "incorrect secret")
  else
    match sent with
    | .error e => .error (.link e)
    | .ok () => .ok (tagsOf frame)

/-- Answering is sending the response. -/
lemma answer_eq (settings : HandshakeSettings) (wire : Wire) (answerId : String) (frame : Frame) :
    answer settings wire answerId frame =
      ((wire.send (answerTo settings answerId frame).payload).1,
        verdict settings frame (wire.send (answerTo settings answerId frame).payload).2) := by
  unfold answer answerTo verdict
  by_cases hkind : frame.kind ≠ "authenticate"
  · simp only [if_pos hkind]
    rfl
  · by_cases hsecret : frame.args.head?.getD "" ≠ settings.secret
    · simp only [if_neg hkind, if_pos hsecret]
      rfl
    · simp only [if_neg hkind, if_neg hsecret, welcome]
      generalize wire.send _ = sent
      obtain ⟨wire', e | _⟩ := sent <;> rfl

/-- The answer to someone who is let in. -/
lemma answer_of_admits (hwritable : wire.Writable) (h : Admits settings answerId frame) :
    answer settings wire answerId frame =
      ({ wire with
          written := wire.written ++ framed (welcome settings answerId frame).payload },
        .ok (tagsOf frame)) := by
  rw [answer_eq, answerTo_of_knows h.toKnows, Wire.send_eq hwritable,
    write_of_fits (fits_payload_iff.2 h.fits)]
  unfold verdict
  rw [if_neg (not_not.2 h.kind), if_neg (not_not.2 h.secret)]

/-- Anyone else is not let in. -/
lemma answer_of_not_admits (hwritable : wire.Writable) (h : ¬Admits settings answerId frame) :
    ∃ e, answer settings wire answerId frame =
      ({ wire with
          written := (write wire.written (answerTo settings answerId frame).payload).1 },
        .error e) := by
  rw [answer_eq, Wire.send_eq hwritable]
  unfold verdict
  by_cases hkind : frame.kind ≠ "authenticate"
  · rw [if_pos hkind]
    exact ⟨_, rfl⟩
  · by_cases hsecret : frame.args.head?.getD "" ≠ settings.secret
    · rw [if_neg hkind, if_pos hsecret]
      exact ⟨_, rfl⟩
    · -- the application knows the secret, so its answer does not fit
      have hknows : Knows settings frame := ⟨not_not.1 hkind, not_not.1 hsecret⟩
      have hfits : ¬fits (welcome settings answerId frame).payload = true := by
        rw [fits_payload_iff]
        exact fun hfits => h ⟨hknows, hfits⟩
      obtain ⟨e, hwrite⟩ := write_of_not_fits (Bool.not_eq_true _ ▸ hfits) wire.written
      rw [answerTo_of_knows hknows, hwrite, if_neg hkind, if_neg hsecret]
      exact ⟨_, rfl⟩

/-- Answering does not look at the reading side of a stream. -/
lemma answer_beside {change : Wire → Wire} (h : Wire.Beside change) (wire : Wire) :
    answer settings (change wire) answerId frame =
      (change (answer settings wire answerId frame).1,
        (answer settings wire answerId frame).2) := by
  rw [answer_eq, answer_eq, h wire]

/-! ## The first frame -/

/-- The first frame is answered. -/
lemma run_of_first (settings : HandshakeSettings) (answerId : String) (hfirst : First left frame)
    (hholds : wire.inbox.Holds left) :
    ∃ text rest, Starts left (.text text rest) ∧ run settings wire answerId =
      ((answer settings { wire with inbox := ⟨rest, none⟩ } answerId frame).1,
        some (answer settings { wire with inbox := ⟨rest, none⟩ } answerId frame).2) := by
  obtain ⟨text, rest, hstarts, hframe⟩ := hfirst
  refine ⟨text, rest, hstarts, ?_⟩
  unfold run
  rw [Wire.read_text hstarts hholds]
  simp only [hframe]

/-- An application that is admitted is welcomed, and what stands behind its first frame is left. -/
lemma run_of_admits (hfirst : First left frame) (h : Admits settings answerId frame)
    (hholds : wire.inbox.Holds left) (hwritable : wire.Writable) :
    ∃ text rest, Starts left (.text text rest) ∧ run settings wire answerId =
      ({ wire with
          inbox := ⟨rest, none⟩
          written := wire.written ++ framed (welcome settings answerId frame).payload },
        some (.ok (tagsOf frame))) := by
  obtain ⟨text, rest, hstarts, hrun⟩ := run_of_first settings answerId hfirst hholds
  have hstill : ({ wire with inbox := ⟨rest, none⟩ } : Wire).Writable :=
    ⟨hwritable.gone, hwritable.shut⟩
  have hanswer := answer_of_admits hstill h
  refine ⟨text, rest, hstarts, ?_⟩
  rw [hrun, hanswer]

/-- Anyone else is answered as far as that fits into a frame, and turned away. -/
lemma run_of_not_admits (hfirst : First left frame) (h : ¬Admits settings answerId frame)
    (hholds : wire.inbox.Holds left) (hwritable : wire.Writable) :
    ∃ rest e, run settings wire answerId =
      ({ wire with
          inbox := ⟨rest, none⟩
          written := (write wire.written (answerTo settings answerId frame).payload).1 },
        some (.error e)) := by
  obtain ⟨text, rest, hstarts, hrun⟩ := run_of_first settings answerId hfirst hholds
  have hstill : ({ wire with inbox := ⟨rest, none⟩ } : Wire).Writable :=
    ⟨hwritable.gone, hwritable.shut⟩
  obtain ⟨e, hanswer⟩ := answer_of_not_admits hstill h
  refine ⟨rest, e, ?_⟩
  rw [hrun, hanswer]

/-- Where there is no first frame, the handshake waits while the frame is unfinished and the stream
goes on, and fails otherwise. -/
lemma run_of_no_first (settings : HandshakeSettings) (answerId : String)
    (hnone : ∀ frame, ¬First left frame) (hholds : wire.inbox.Holds left) :
    (∃ inbox, run settings wire answerId = ({ wire with inbox }, none) ∧
      wire.ended = false ∧ inbox.Waits left) ∨
    ∃ inbox e, run settings wire answerId = ({ wire with inbox }, some (.error e)) := by
  obtain ⟨token, hstarts⟩ := exists_starts left
  unfold run
  cases token with
  | text text rest =>
    rw [Wire.read_text hstarts hholds]
    cases hframe : Frame.parse text with
    | ok frame => exact absurd ⟨text, rest, hstarts, hframe⟩ (hnone frame)
    | error e => exact .inr ⟨_, _, by simp only [hframe]; rfl⟩
  | noText rest =>
    obtain ⟨inbox, e, hread⟩ := Wire.read_broken hstarts (.inr ⟨rest, rfl⟩) hholds
    exact .inr ⟨inbox, _, by rw [hread]⟩
  | noLength =>
    obtain ⟨inbox, e, hread⟩ := Wire.read_broken hstarts (.inl rfl) hholds
    exact .inr ⟨inbox, _, by rw [hread]⟩
  | unfinished =>
    obtain ⟨inbox, hwaits, hread⟩ := Wire.read_unfinished hstarts hholds
    rw [hread, Wire.pause]
    cases wire.ended with
    | false => exact .inl ⟨inbox, rfl, rfl, hwaits⟩
    | true => by_cases hempty : inbox.buffer.isEmpty = true <;>
        simp only [hempty, if_true] <;> exact .inr ⟨inbox, _, rfl⟩

/-- While the handshake waits, only the inbox has changed. -/
lemma waits_of_run (hholds : wire.inbox.Holds left)
    (hrun : run settings wire answerId = (wire', none)) :
    ∃ inbox, wire' = { wire with inbox } ∧ wire.ended = false ∧ inbox.Waits left := by
  by_cases hfirst : ∃ frame, First left frame
  · obtain ⟨frame, hfirst⟩ := hfirst
    obtain ⟨text, rest, -, hanswer⟩ := run_of_first settings answerId hfirst hholds
    rw [hanswer] at hrun
    cases hrun
  · rcases run_of_no_first settings answerId (not_exists.1 hfirst) hholds with
      ⟨inbox, hnone, hopen, hwaits⟩ | ⟨inbox, e, hsome⟩
    · rw [hnone] at hrun
      cases hrun
      exact ⟨inbox, rfl, hopen, hwaits⟩
    · rw [hsome] at hrun
      cases hrun

/-! ## Chunk by chunk -/

/-- A result of the handshake does not change by what neither matters for writing nor for what has
been read. -/
lemma run_beside {change : Wire → Wire} (hbeside : Wire.Beside change)
    (hread : ∀ wire' arrival, wire.read = (wire', arrival) → arrival ≠ .nothing →
      (change wire).read = (change wire', arrival))
    {result : Except DialError TagSet} (hrun : run settings wire answerId = (wire', some result)) :
    run settings (change wire) answerId = (change wire', some result) := by
  unfold run at hrun ⊢
  cases harrival : wire.read with
  | mk wire'' arrival =>
    rw [harrival] at hrun
    -- with nothing to read there would be no result
    cases arrival with
    | nothing => cases hrun
    | finished =>
      rw [hread _ _ harrival (by simp)]
      cases hrun
      rfl
    | failure e =>
      rw [hread _ _ harrival (by simp)]
      cases hrun
      rfl
    | payload text =>
      rw [hread _ _ harrival (by simp)]
      cases hframe : Frame.parse text with
      | error e =>
        simp only [hframe] at hrun ⊢
        cases hrun
        rfl
      | ok frame =>
        simp only [hframe] at hrun ⊢
        rw [answer_beside hbeside]
        cases hrun
        rfl

lemma run_arrive (hholds : wire.inbox.Holds left) (hopen : wire.ended = false)
    {result : Except DialError TagSet} (hrun : run settings wire answerId = (wire', some result))
    (more : Bytes) :
    run settings (wire.arrive more) answerId = (wire'.arrive more, some result) :=
  run_beside (Wire.beside_arrive more)
    (fun _ _ hread hsome => Wire.read_arrive hholds hopen hread hsome more) hrun

lemma run_finish (hopen : wire.ended = false) {result : Except DialError TagSet}
    (hrun : run settings wire answerId = (wire', some result)) :
    run settings wire.finish answerId = (wire'.finish, some result) :=
  run_beside Wire.beside_finish (fun _ _ hread hsome => Wire.read_finish hopen hread hsome) hrun

/-- The handshake depends only on the bytes that the inbox stands for. -/
lemma run_congr (wire : Wire) {inbox inbox' : Inbox} (h : inbox.Holds left)
    (h' : inbox'.Holds left) :
    run settings { wire with inbox } answerId =
      run settings { wire with inbox := inbox' } answerId := by
  unfold run
  rw [Wire.read_congr h h']

/-- The response to a frame takes the same number of bytes whatever its id is. -/
lemma utf8ByteSize_answerTo (settings : HandshakeSettings) (frame : Frame) (n m : Nat) :
    (answerTo settings (messageId n) frame).payload.utf8ByteSize =
      (answerTo settings (messageId m) frame).payload.utf8ByteSize := by
  unfold answerTo welcome
  by_cases hkind : frame.kind ≠ "authenticate"
  · rw [if_pos hkind, if_pos hkind]
    exact utf8ByteSize_response_congr n m _ _ _
  · rw [if_neg hkind, if_neg hkind]
    by_cases hsecret : frame.args.head?.getD "" ≠ settings.secret
    · rw [if_pos hsecret, if_pos hsecret]
      exact utf8ByteSize_response_congr n m _ _ _
    · rw [if_neg hsecret, if_neg hsecret]
      exact utf8ByteSize_response_congr n m _ _ _

/-- The result of the handshake depends neither on what has been written nor on the id of the
answer. -/
lemma result_congr (h : wire.inbox.Holds left) (h' : wire'.inbox.Holds left)
    (hended : wire.ended = wire'.ended) (hwritable : wire.Writable) (hwritable' : wire'.Writable)
    (n m : Nat) :
    (run settings wire (messageId n)).2 = (run settings wire' (messageId m)).2 := by
  obtain ⟨inbox, arrival, hread, hread'⟩ := Wire.read_alike h h' hended
  unfold run
  rw [hread, hread']
  cases arrival with
  | nothing => rfl
  | finished => rfl
  | failure e => rfl
  | payload text =>
    cases hframe : Frame.parse text with
    | error e => simp only [hframe]
    | ok frame =>
      have hstill : ({ wire with inbox } : Wire).Writable := ⟨hwritable.gone, hwritable.shut⟩
      have hstill' : ({ wire' with inbox } : Wire).Writable := ⟨hwritable'.gone, hwritable'.shut⟩
      simp only [hframe]
      rw [answer_eq, answer_eq, Wire.send_eq hstill, Wire.send_eq hstill']
      exact congrArg (fun sent => some (verdict settings frame sent))
        (write_snd_congr (utf8ByteSize_answerTo settings frame n m) _ _)

/-- The handshake goes as if all chunks had arrived at once. -/
lemma runChunks_eq (hholds : wire.inbox.Holds left) (hopen : wire.ended = false)
    (chunks : List Bytes) :
    runChunks settings answerId wire chunks =
      run settings (wire.arrive chunks.flatten) answerId := by
  induction chunks generalizing wire left with
  | nil => rw [List.flatten_nil, Wire.arrive_nil, runChunks]
  | cons chunk chunks ih =>
    have hmore := Wire.holds_arrive hholds hopen chunk
    have hstill : (wire.arrive chunk).ended = false := by rw [Wire.arrive_of_open hopen, hopen]
    rw [List.flatten_cons, ← Wire.arrive_append]
    unfold runChunks
    cases hrun : run settings (wire.arrive chunk) answerId with
    | mk wire' result =>
      cases result with
      | some result =>
        rw [run_arrive hmore hstill hrun]
        exact congrArg (·, some result) (Wire.foldl_arrive wire' chunks)
      | none =>
        -- the bytes so far are still there, so they are read together with those to come
        obtain ⟨inbox, rfl, -, hwaits⟩ := waits_of_run hmore hrun
        have hwaiting : ({ wire.arrive chunk with inbox } : Wire).ended = false := hstill
        have hrest := @ih { wire.arrive chunk with inbox } _ hwaits.holds hwaiting
        rw [Wire.arrive_of_open hstill]
        rw [Wire.arrive_of_open hwaiting] at hrest
        refine hrest.trans ?_
        exact run_congr (wire.arrive chunk) (hwaits.holds.receive _) (hmore.receive _)

end Handshake

/-! ## Establishing -/

namespace Opening

variable {opening : Opening} {settings : HandshakeSettings} {answerId : String} {id : EntryId}

/-- The server's end of a stream on which all bytes have arrived, and perhaps the end as well. -/
def streamOf (bytes : Bytes) (closes : Bool) : Wire :=
  let wire := Wire.arrive {} bytes
  if closes then wire.finish else wire

/-- Runs the handshake while the chunks of a stream arrive, and makes the entry of the connection;
behind the last chunk the application may close its writing side. -/
def establishFrom (opening : Opening) (settings : HandshakeSettings) (answerId : String)
    (id : EntryId) (chunks : List Bytes) (closes : Bool) : Wire × Except DialError Entry :=
  let (wire, result) := Handshake.runChunks settings answerId {} chunks
  let wire := if closes then wire.finish else wire
  match result with
  | none => opening.establish settings answerId id wire
  | some (.error e) => (wire, .error e)
  | some (.ok tags) => (wire, .ok (opening.entry id tags))

/-- It does not matter how the bytes of a stream are cut. -/
lemma establishFrom_eq (opening : Opening) (settings : HandshakeSettings) (answerId : String)
    (id : EntryId) (chunks : List Bytes) (closes : Bool) :
    opening.establishFrom settings answerId id chunks closes =
      opening.establish settings answerId id (streamOf chunks.flatten closes) := by
  have hholds : ({} : Wire).inbox.Holds [] := Inbox.waits_empty.holds
  have hmore := Wire.holds_arrive hholds rfl chunks.flatten
  have hopen : (Wire.arrive {} chunks.flatten).ended = false := rfl
  unfold establishFrom streamOf
  rw [Handshake.runChunks_eq hholds rfl]
  cases hrun : Handshake.run settings (Wire.arrive {} chunks.flatten) answerId with
  | mk wire result =>
    cases result with
    | some result =>
      -- the end of the stream behind a result changes nothing
      have hclosed : Handshake.run settings (if closes then (Wire.arrive {} chunks.flatten).finish
          else Wire.arrive {} chunks.flatten) answerId =
          (if closes then wire.finish else wire, some result) := by
        cases closes with
        | false => exact hrun
        | true => exact Handshake.run_finish hopen hrun
      simp only [establish, hclosed]
      cases result <;> rfl
    | none =>
      obtain ⟨inbox, rfl, -, hwaits⟩ := Handshake.waits_of_run hmore hrun
      have hsame : ∀ wire : Wire, wire.inbox = (Wire.arrive {} chunks.flatten).inbox →
          Handshake.run settings { wire with inbox } answerId =
            Handshake.run settings wire answerId := by
        intro wire hinbox
        rw [← hinbox] at hmore
        exact Handshake.run_congr wire hwaits.holds hmore
      cases closes with
      | false =>
        have hsame := hsame (Wire.arrive {} chunks.flatten) rfl
        simp only [establish, Bool.false_eq_true, if_false, hsame]
      | true =>
        have hsame := hsame (Wire.arrive {} chunks.flatten).finish rfl
        simp only [establish, if_true, Wire.finish] at hsame ⊢
        rw [hsame]

/-! ## What comes of a stream -/

variable {bytes : Bytes} {closes : Bool} {frame : Frame}

lemma holds_streamOf (bytes : Bytes) (closes : Bool) :
    (streamOf bytes closes).inbox.Holds bytes := by
  cases closes <;> exact .plain bytes

lemma writable_streamOf (bytes : Bytes) (closes : Bool) : (streamOf bytes closes).Writable := by
  cases closes <;> exact ⟨rfl, rfl⟩

lemma written_streamOf (bytes : Bytes) (closes : Bool) : (streamOf bytes closes).written = [] := by
  cases closes <;> rfl

/-- Whoever is admitted becomes a connection over a stream on which nothing but the welcome has been
written. -/
lemma exists_establish_of_admits (opening : Opening) (id : EntryId) (closes : Bool)
    (hfirst : First bytes frame) (h : Handshake.Admits settings answerId frame) :
    ∃ wire, opening.establish settings answerId id (streamOf bytes closes) =
        (wire, .ok (opening.entry id (Handshake.tagsOf frame))) ∧
      wire.Writable ∧
      wire.written = framed (Handshake.welcome settings answerId frame).payload := by
  have hwritable := writable_streamOf bytes closes
  obtain ⟨text, rest, -, hrun⟩ :=
    Handshake.run_of_admits hfirst h (holds_streamOf bytes closes) hwritable
  unfold establish
  rw [hrun]
  exact ⟨_, rfl, ⟨hwritable.gone, hwritable.shut⟩,
    congrArg (· ++ _) (written_streamOf bytes closes)⟩

/-- Whoever is admitted becomes a connection and is welcomed. -/
lemma establish_of_admits (opening : Opening) (id : EntryId) (closes : Bool)
    (hfirst : First bytes frame)
    (h : Handshake.Admits settings answerId frame) :
    (opening.establish settings answerId id (streamOf bytes closes)).2 =
        .ok (opening.entry id (Handshake.tagsOf frame)) ∧
      (opening.establish settings answerId id (streamOf bytes closes)).1.written =
        framed (Handshake.welcome settings answerId frame).payload := by
  obtain ⟨wire, hestablish, -, hwritten⟩ :=
    exists_establish_of_admits opening id closes hfirst h
  rw [hestablish]
  exact ⟨rfl, hwritten⟩

/-- Whoever is not admitted gets the response, if it fits into a frame, and no connection. -/
lemma establish_of_not_admits (opening : Opening) (id : EntryId) (closes : Bool)
    (hfirst : First bytes frame)
    (h : ¬Handshake.Admits settings answerId frame) :
    (∃ e, (opening.establish settings answerId id (streamOf bytes closes)).2 = .error e) ∧
      (opening.establish settings answerId id (streamOf bytes closes)).1.written =
        (write [] (Handshake.answerTo settings answerId frame).payload).1 := by
  obtain ⟨rest, e, hrun⟩ := Handshake.run_of_not_admits hfirst h
    (holds_streamOf bytes closes) (writable_streamOf bytes closes)
  unfold establish
  rw [hrun]
  exact ⟨⟨e, rfl⟩, congrArg (fun written => (write written _).1) (written_streamOf bytes closes)⟩

/-- Without a first frame there is neither a connection nor an answer. -/
lemma establish_of_no_first (opening : Opening) (settings : HandshakeSettings) (answerId : String)
    (id : EntryId) (closes : Bool) (hnone : ∀ frame, ¬First bytes frame) :
    (∃ e, (opening.establish settings answerId id (streamOf bytes closes)).2 = .error e) ∧
      (opening.establish settings answerId id (streamOf bytes closes)).1.written = [] := by
  have hwritten := written_streamOf bytes closes
  unfold establish
  rcases Handshake.run_of_no_first settings answerId hnone (holds_streamOf bytes closes) with
    ⟨inbox, hrun, -, -⟩ | ⟨inbox, e, hrun⟩
  · rw [hrun]
    exact ⟨⟨_, rfl⟩, hwritten⟩
  · rw [hrun]
    exact ⟨⟨_, rfl⟩, hwritten⟩

/-- A connection is admitted. -/
lemma establish_eq_ok_iff :
    (∃ entry, (opening.establish settings answerId id (streamOf bytes closes)).2 = .ok entry) ↔
      ∃ frame, First bytes frame ∧ Handshake.Admits settings answerId frame := by
  constructor
  · rintro ⟨entry, hok⟩
    by_cases hfirst : ∃ frame, First bytes frame
    · obtain ⟨frame, hfirst⟩ := hfirst
      refine ⟨frame, hfirst, ?_⟩
      by_contra hnot
      obtain ⟨⟨e, herror⟩, -⟩ := establish_of_not_admits opening id closes hfirst hnot
      exact nomatch herror.symm.trans hok
    · obtain ⟨⟨e, herror⟩, -⟩ :=
        establish_of_no_first opening settings answerId id closes (not_exists.1 hfirst)
      exact nomatch herror.symm.trans hok
  · rintro ⟨frame, hfirst, hadmits⟩
    exact ⟨_, (establish_of_admits opening id closes hfirst hadmits).1⟩

/-- What becomes a connection is the stream of someone who is admitted. -/
lemma admitted_of_ok {entry : Entry}
    (hok : (opening.establish settings answerId id (streamOf bytes closes)).2 = .ok entry) :
    ∃ frame, First bytes frame ∧ Handshake.Admits settings answerId frame ∧
      entry = opening.entry id (Handshake.tagsOf frame) ∧
      (opening.establish settings answerId id (streamOf bytes closes)).1.written =
        framed (Handshake.welcome settings answerId frame).payload := by
  obtain ⟨frame, hfirst, hadmits⟩ := establish_eq_ok_iff.1 ⟨entry, hok⟩
  obtain ⟨hentry, hwritten⟩ := establish_of_admits opening id closes hfirst hadmits
  exact ⟨frame, hfirst, hadmits, Except.ok.inj (hok.symm.trans hentry), hwritten⟩

/-- Who does not know the secret is sent a `NO` response, if it fits into a frame. -/
lemma written_of_not_knows (opening : Opening) (answerId : String) (id : EntryId) (closes : Bool)
    (hfirst : First bytes frame) (h : ¬Handshake.Knows settings frame) :
    ∃ reason,
      let no := Frame.response answerId frame.id false (some reason)
      (opening.establish settings answerId id (streamOf bytes closes)).1.written =
        if no.payload.utf8ByteSize ≤ 99999 then framed no.payload else [] := by
  obtain ⟨reason, hanswer⟩ := Handshake.answerTo_of_not_knows answerId h
  have hnot : ¬Handshake.Admits settings answerId frame := fun hadmits => h hadmits.toKnows
  have hwritten := (establish_of_not_admits opening id closes hfirst hnot).2
  refine ⟨reason, ?_⟩
  rw [hwritten, hanswer]
  exact write_nil_payload _

/-- Where the secret is known and no connection comes of it, nothing is sent. -/
lemma written_of_knows {e : DialError}
    (hknows : ∀ frame, First bytes frame → Handshake.Knows settings frame)
    (herror : (opening.establish settings answerId id (streamOf bytes closes)).2 = .error e) :
    (opening.establish settings answerId id (streamOf bytes closes)).1.written = [] := by
  by_cases hfirst : ∃ frame, First bytes frame
  · obtain ⟨frame, hfirst⟩ := hfirst
    have hframe := hknows frame hfirst
    have hnot : ¬Handshake.Admits settings answerId frame := by
      intro hadmits
      have hok := (establish_of_admits opening id closes hfirst hadmits).1
      exact nomatch hok.symm.trans herror
    -- so it is the size of the answer that keeps the application out
    have hlarge : ¬(Handshake.welcome settings answerId frame).payload.utf8ByteSize ≤ maxLength :=
      fun hle => hnot ⟨hframe, hle⟩
    have hwritten := (establish_of_not_admits opening id closes hfirst hnot).2
    rw [hwritten, Handshake.answerTo_of_knows hframe]
    exact (write_nil_payload _).trans (if_neg hlarge)
  · exact (establish_of_no_first opening settings answerId id closes (not_exists.1 hfirst)).2

end Opening

/-- A stream that does not become a connection leaves the registry as it is. -/
lemma Switchboard.greet_of_error (board : Switchboard) {settings : HandshakeSettings}
    {opening : Opening} {bytes : Bytes} {closes : Bool} {e : DialError}
    (h : (opening.establish settings (messageId board.nextMessage) board.nextEntry
      (Opening.streamOf bytes closes)).2 = .error e) :
    board.greet settings opening bytes closes =
      ({ board with nextMessage := board.nextMessage + 1 }, .error e) := by
  unfold greet establish
  have hwire : (if closes then (Wire.arrive {} bytes).finish else Wire.arrive {} bytes) =
      Opening.streamOf bytes closes := rfl
  simp only [hwire]
  generalize opening.establish settings _ _ _ = result at h
  obtain ⟨wire, result⟩ := result
  obtain rfl : result = .error e := h
  rfl

/-! ## The main result -/

/-- **Admission.** However the bytes of a stream are cut, they become a connection if and only if
the first frame on it is an `authenticate` frame with the exact secret, which has to be there if it
is not empty, and the `OK` response to it fits into a frame. Then the tags of the connection are
those of the second argument, and this response is what is written. Otherwise nothing is registered,
and what is written is one `NO` response to the first frame if that does not name the secret or is
of another kind and the response fits, and nothing if not. -/
theorem Opening.establishFrom_exact (board : Switchboard) (settings : HandshakeSettings)
    (opening : Opening) (chunks : List Bytes) (closes : Bool) :
    let answerId := messageId board.nextMessage
    let stream := chunks.flatten
    let outcome := opening.establishFrom settings answerId board.nextEntry chunks closes
    let ok := fun frame : Frame => Frame.response answerId frame.id true (some settings.identity)
    let knows := fun frame : Frame =>
      frame.kind = "authenticate" ∧ frame.args.head?.getD "" = settings.secret
    (settings.secret ≠ "" → ∀ frame, knows frame ↔
      frame.kind = "authenticate" ∧ frame.args.head? = some settings.secret) ∧
    ((∃ entry, outcome.2 = .ok entry) ↔
      ∃ frame, First stream frame ∧ knows frame ∧ (ok frame).payload.utf8ByteSize ≤ 99999) ∧
    (∀ entry, outcome.2 = .ok entry → ∃ frame, First stream frame ∧
      entry = opening.entry board.nextEntry ((frame.args[1]?).elim .empty TagSet.parse) ∧
      outcome.1.written = framed (ok frame).payload) ∧
    (∀ e, outcome.2 = .error e →
      (board.greet settings opening stream closes).1.registry = board.registry ∧
      (∀ frame, First stream frame → ¬knows frame → ∃ reason,
        let no := Frame.response answerId frame.id false (some reason)
        outcome.1.written = if no.payload.utf8ByteSize ≤ 99999 then framed no.payload else []) ∧
      ((∀ frame, First stream frame → knows frame) → outcome.1.written = [])) := by
  intro answerId stream outcome ok knows
  have hcut : outcome =
      opening.establish settings answerId board.nextEntry (streamOf stream closes) :=
    establishFrom_eq opening settings answerId board.nextEntry chunks closes
  clear_value outcome
  subst hcut
  refine ⟨?_, ?_, ?_, ?_⟩
  · intro hne frame
    exact and_congr_right fun _ => Handshake.getD_head?_eq_iff hne
  · rw [establish_eq_ok_iff]
    refine exists_congr fun frame => and_congr_right fun _ => ?_
    exact ⟨fun h => ⟨⟨h.kind, h.secret⟩, h.fits⟩, fun h => ⟨⟨h.1.1, h.1.2⟩, h.2⟩⟩
  · intro entry hok
    obtain ⟨frame, hfirst, -, hentry, hwritten⟩ := admitted_of_ok hok
    exact ⟨frame, hfirst, hentry, hwritten⟩
  · intro e herror
    refine ⟨by rw [board.greet_of_error herror]; rfl, ?_, ?_⟩
    · intro frame hfirst hunknown
      exact written_of_not_knows opening answerId board.nextEntry closes hfirst
        fun h => hunknown ⟨h.kind, h.secret⟩
    · intro hall
      refine written_of_knows ?_ herror
      intro frame hfirst
      exact ⟨(hall frame hfirst).1, (hall frame hfirst).2⟩

end CallDispatch
