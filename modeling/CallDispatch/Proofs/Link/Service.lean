import CallDispatch.Proofs.Link.Admission
import CallDispatch.Proofs.Link.Reader

/-!
# What an application is due

What the bytes that an application sends are to lead to, said without a word about how they arrive
or who reads them when: the frames behind the first are taken one by one, up to the first text that
is no frame and the first `route` frame whose answer does not fit into a frame (`served`). Each of
them is answered or passed on, and if the reader then stops for good, the connection is reported as
disconnected (`outputs`).

`Advance` says how far the frames on a stream have been taken, `Stops` and `Refuses` why nothing
more is taken. None of them is disturbed by bytes that arrive behind; and from each it follows what
is due for the whole stream (`Advance.due`, `Stops.served`, `Refuses.due`).

## Main definitions

* `Output`: what comes of the bytes of an application.
* `Service.served`, `Service.asked`: the frames that are taken, and the methods that are asked for.
* `Service.outputs`, `Service.outcome`: what is due for a stream.
-/

namespace CallDispatch

open Text CallDispatch.Frame

/-! ## Outputs -/

/-- What comes of the bytes of an application. -/
inductive Output
  /-- The application is sent a payload, of which this is what stands behind the id. -/
  | reply (behindId : String)
  /-- A frame is passed on. -/
  | forward (frame : Frame)
  /-- The connection is reported as disconnected. -/
  | disconnected
deriving DecidableEq

/-- What comes of a frame that is taken. -/
def Frame.output (frame : Frame) : Output :=
  match frame.routeVerb with
  | none => .forward frame
  | some verb => .reply (frame.answer "" verb).behindId

namespace Service

/-- The frames that are taken. -/
def served : List String → List Frame
  | [] => []
  | text :: texts =>
    match Frame.parse text with
    | .error _ => []
    | .ok frame => if frame.answerable then frame :: served texts else []

/-- The methods that are asked for, up to the frame whose answer does not fit. -/
def asked : List String → List String
  | [] => []
  | text :: texts =>
    match Frame.parse text with
    | .error _ => []
    | .ok frame => frame.asks.toList ++ if frame.answerable then asked texts else []

instance (settings : HandshakeSettings) (answerId : String) (frame : Frame) :
    Decidable (Handshake.Admits settings answerId frame) :=
  decidable_of_iff ((frame.kind = "authenticate" ∧ frame.args.head?.getD "" = settings.secret) ∧
      (Handshake.welcome settings answerId frame).payload.utf8ByteSize ≤ maxLength)
    ⟨fun h => ⟨⟨h.1.1, h.1.2⟩, h.2⟩, fun h => ⟨⟨h.kind, h.secret⟩, h.fits⟩⟩

/-- What comes of the first frame of an application that is not let in. -/
def refusal (settings : HandshakeSettings) (first : Frame) : List Output :=
  if (Handshake.answerTo settings (messageId 0) first).payload.utf8ByteSize ≤ maxLength then
    [.reply (Handshake.answerTo settings "" first).behindId]
  else []

/-- Whether the reader of an application that was let in stops for good: at the end of the stream,
at something that is no frame, or behind a frame whose answer does not fit. -/
def stops (ended : Bool) (texts : List String) (ending : Ending) : Bool :=
  ended || ending.isError || (served texts).length < texts.length

/-- What comes of the texts on a stream. -/
def outputs (settings : HandshakeSettings) (ended : Bool) (texts : List String) (ending : Ending) :
    List Output :=
  match texts with
  | [] => []
  | text :: texts =>
    match Frame.parse text with
    | .error _ => []
    | .ok first =>
      if Handshake.Admits settings (messageId 0) first then
        .reply (Handshake.welcome settings "" first).behindId :: (served texts).map Frame.output ++
          if stops ended texts ending then [.disconnected] else []
      else refusal settings first

/-- The result of the handshake if the bytes arrive at once. -/
def handshake (settings : HandshakeSettings) (sent : Bytes) (ended : Bool) :
    Option (Except DialError TagSet) :=
  (Handshake.run settings (Opening.streamOf sent ended) (messageId 0)).2

/-- What becomes of an application that sends these bytes: the error with which it is refused, or
its tags with the methods that it asks for behind its first frame; nothing as long as the first
frame is unfinished. -/
def outcome (settings : HandshakeSettings) (sent : Bytes) (ended : Bool) (texts : List String) :
    Option (Except DialError (TagSet × TextSet)) :=
  (handshake settings sent ended).map fun result =>
    result.map fun tags => (tags, .ofList (asked texts.tail))

/-! ## Taking frames -/

/-- A text that is a frame, and one that can be answered. -/
def Taken (text : String) (frame : Frame) : Prop :=
  Frame.parse text = .ok frame ∧ frame.answerable = true

variable {texts tail : List String} {frames : List Frame} {ended : Bool}

lemma served_append (h : List.Forall₂ Taken texts frames) (tail : List String) :
    served (texts ++ tail) = frames ++ served tail := by
  induction h with
  | nil => rfl
  | cons htaken _ ih =>
    rw [List.cons_append, served, htaken.1]
    simp only [htaken.2, if_true, ih, List.cons_append]

lemma asked_append (h : List.Forall₂ Taken texts frames) (tail : List String) :
    asked (texts ++ tail) = frames.flatMap (·.asks.toList) ++ asked tail := by
  induction h with
  | nil => rfl
  | cons htaken _ ih =>
    rw [List.cons_append, asked, htaken.1]
    simp only [htaken.2, if_true, ih, List.flatMap_cons, List.append_assoc]

lemma stops_append (h : List.Forall₂ Taken texts frames) (tail : List String) (ending : Ending) :
    stops ended (texts ++ tail) ending = stops ended tail ending := by
  have hlength : (frames ++ served tail).length < (texts ++ tail).length ↔
      (served tail).length < tail.length := by
    rw [List.length_append, List.length_append, h.length_eq, Nat.add_lt_add_iff_left]
  rw [stops, stops, served_append h, decide_eq_decide.2 hlength]

/-- Why the reader stops at the bytes `left`, with the methods that are heeded nevertheless. -/
inductive Stops (ended : Bool) (left : Bytes) : List String → Prop
  | halt (h : Halts ended left) : Stops ended left []
  /-- The answer to a frame does not fit. -/
  | large {text : String} {rest : Bytes} {frame : Frame} (hstarts : Starts left (.text text rest))
      (hparse : Frame.parse text = .ok frame) (hlarge : frame.answerable = false) :
    Stops ended left frame.asks.toList

variable {left more : Bytes} {ending : Ending} {extra : List String}

lemma Stops.append (h : Stops false left extra) (more : Bytes) :
    Stops false (left ++ more) extra := by
  cases h with
  | halt h => exact .halt (h.append more)
  | large hstarts hparse hlarge => exact .large (hstarts.append (by simp) more) hparse hlarge

lemma Stops.finish (h : Stops ended left extra) : Stops true left extra := by
  cases h with
  | halt h => exact .halt h.finish
  | large hstarts hparse hlarge => exact .large hstarts hparse hlarge

/-- Where the reader stops, no more frames are to be taken. -/
lemma Stops.served (h : Stops ended left extra) (hreading : Reading left tail ending) :
    served tail = [] ∧ asked tail = extra ∧ stops ended tail ending = true := by
  cases h with
  | halt h =>
    cases tail with
    | nil =>
      refine ⟨rfl, rfl, ?_⟩
      rcases h.ends hreading with hended | herror
      · simp [stops, hended]
      · simp [stops, herror]
    | cons text tail =>
      have hparse := h.parse_ne hreading
      cases hframe : Frame.parse text with
      | ok frame => exact absurd hframe (hparse frame)
      | error e =>
        have hnone : Service.served (text :: tail) = [] := by rw [Service.served, hframe]
        refine ⟨hnone, by rw [asked, hframe], ?_⟩
        simp [stops, hnone]
  | @large text rest frame hstarts hparse hlarge =>
    cases hreading with
    | text hstarts' _ =>
      cases hstarts.unique hstarts'
      -- the method of the frame is noted, but the frame is not served
      have hnone : ∀ tail, Service.served (text :: tail) = [] := fun tail => by
        rw [Service.served, hparse]
        simp [hlarge]
      refine ⟨hnone _, ?_, ?_⟩
      · rw [asked, hparse]
        simp [hlarge]
      · simp [stops, hnone]
    | noText hstarts' | noLength hstarts' | unfinished hstarts' =>
      exact nomatch hstarts.unique hstarts'

/-! ## How far the frames on a stream have been taken -/

/-- Bytes are texts one behind the other, and the bytes left. -/
inductive Passed : Bytes → List String → Bytes → Prop
  | nil (bytes : Bytes) : Passed bytes [] bytes
  | cons {bytes rest left : Bytes} {text : String} {texts : List String}
      (hstarts : Starts bytes (.text text rest)) (hrest : Passed rest texts left) :
    Passed bytes (text :: texts) left

variable {bytes : Bytes} {text : String}

lemma Passed.append (h : Passed bytes texts left) (more : Bytes) :
    Passed (bytes ++ more) texts (left ++ more) := by
  induction h with
  | nil bytes => exact .nil _
  | cons hstarts _ ih => exact .cons (hstarts.append (by simp) more) ih

lemma Passed.snoc {rest : Bytes} (h : Passed bytes texts left)
    (hstarts : Starts left (.text text rest)) : Passed bytes (texts ++ [text]) rest := by
  induction h with
  | nil bytes => exact .cons hstarts (.nil rest)
  | cons hfirst _ ih => exact .cons hfirst (ih hstarts)

lemma Passed.length_le (h : Passed bytes texts left) : left.length ≤ bytes.length := by
  induction h with
  | nil => exact Nat.le_refl _
  | cons hstarts _ ih => exact Nat.le_of_lt (Nat.lt_of_le_of_lt ih hstarts.length_lt)

/-- The reading of a stream goes on with what was left. -/
lemma Passed.split (h : Passed bytes texts left) {all : List String}
    (hreading : Reading bytes all ending) :
    ∃ tail, all = texts ++ tail ∧ Reading left tail ending := by
  induction h generalizing all with
  | nil bytes => exact ⟨all, rfl, hreading⟩
  | cons hstarts _ ih =>
    cases hreading with
    | text hstarts' hrest =>
      cases hstarts.unique hstarts'
      obtain ⟨tail, rfl, htail⟩ := ih hrest
      exact ⟨tail, rfl, htail⟩
    | noText hstarts' => exact nomatch hstarts.unique hstarts'
    | noLength hstarts' => exact nomatch hstarts.unique hstarts'
    | unfinished hstarts' => exact nomatch hstarts.unique hstarts'

/-- The bytes sent are the first frame of an application that is let in, frames that have been
taken, and the bytes left. -/
structure Advance (settings : HandshakeSettings) (sent left : Bytes) (first : Frame)
    (frames : List Frame) : Prop where
  admits : Handshake.Admits settings (messageId 0) first
  passed : ∃ greeting texts, Passed sent (greeting :: texts) left ∧
    Frame.parse greeting = .ok first ∧ List.Forall₂ Taken texts frames

variable {settings : HandshakeSettings} {sent : Bytes} {first frame : Frame}

/-- The first frame is the first one on the stream. -/
lemma Advance.isFirst (h : Advance settings sent left first frames) : First sent first := by
  obtain ⟨greeting, texts, hpassed, hparse, -⟩ := h.passed
  cases hpassed with
  | cons hstarts _ => exact ⟨greeting, _, hstarts, hparse⟩

lemma Advance.start {rest : Bytes} (hstarts : Starts sent (.text text rest))
    (hparse : Frame.parse text = .ok first)
    (hadmits : Handshake.Admits settings (messageId 0) first) :
    Advance settings sent rest first [] :=
  ⟨hadmits, text, [], .cons hstarts (.nil rest), hparse, .nil⟩

lemma Advance.append (h : Advance settings sent left first frames) (more : Bytes) :
    Advance settings (sent ++ more) (left ++ more) first frames := by
  obtain ⟨hadmits, greeting, texts, hpassed, hparse, htaken⟩ := h
  exact ⟨hadmits, greeting, texts, hpassed.append more, hparse, htaken⟩

lemma Advance.length_le (h : Advance settings sent left first frames) :
    left.length ≤ sent.length := by
  obtain ⟨-, greeting, texts, hpassed, -⟩ := h
  exact hpassed.length_le

/-- One more frame is taken. -/
lemma Advance.take {rest : Bytes} (h : Advance settings sent left first frames)
    (hstarts : Starts left (.text text rest)) (hparse : Frame.parse text = .ok frame)
    (hanswerable : frame.answerable = true) :
    Advance settings sent rest first (frames ++ [frame]) := by
  obtain ⟨hadmits, greeting, texts, hpassed, hfirst, htaken⟩ := h
  refine ⟨hadmits, greeting, texts ++ [text], hpassed.snoc hstarts, hfirst, ?_⟩
  exact List.rel_append htaken (.cons ⟨hparse, hanswerable⟩ .nil)

/-- The texts on a stream of which frames have been taken. -/
lemma Advance.reading (h : Advance settings sent left first frames)
    (hreading : Reading sent texts ending) :
    ∃ greeting taken tail, texts = greeting :: (taken ++ tail) ∧ Frame.parse greeting = .ok first ∧
      List.Forall₂ Taken taken frames ∧ Reading left tail ending := by
  obtain ⟨-, greeting, taken, hpassed, hparse, htaken⟩ := h
  obtain ⟨tail, rfl, htail⟩ := hpassed.split hreading
  exact ⟨greeting, taken, tail, rfl, hparse, htaken, htail⟩

/-- What is in the log when these frames have been taken. -/
def logOf (settings : HandshakeSettings) (first : Frame) (frames : List Frame) : List Output :=
  .reply (Handshake.welcome settings "" first).behindId :: frames.map Frame.output

lemma logOf_snoc (settings : HandshakeSettings) (first : Frame) (frames : List Frame)
    (frame : Frame) :
    logOf settings first frames ++ [frame.output] = logOf settings first (frames ++ [frame]) := by
  rw [logOf, logOf, List.map_append, List.cons_append, List.map_singleton]

/-- What is due for a stream of which frames have been taken: besides what they lead to, what the
texts lead to that are left. -/
lemma Advance.due (h : Advance settings sent left first frames) (ended : Bool)
    (hreading : Reading sent texts ending) :
    ∃ tail, Reading left tail ending ∧
      outputs settings ended texts ending = logOf settings first frames ++
        ((served tail).map Frame.output ++ if stops ended tail ending then [.disconnected] else []) ∧
      outcome settings sent ended texts = some (.ok (Handshake.tagsOf first,
        .ofList (frames.flatMap (·.asks.toList) ++ asked tail))) := by
  obtain ⟨greeting, taken, tail, rfl, hparse, htaken, hrest⟩ := h.reading hreading
  obtain ⟨text, rest, -, hrun⟩ := Handshake.run_of_admits h.isFirst h.admits
    (Opening.holds_streamOf sent ended) (Opening.writable_streamOf sent ended)
  refine ⟨tail, hrest, ?_, ?_⟩
  · rw [outputs, hparse]
    simp only [if_pos h.admits, served_append htaken, stops_append htaken, logOf, List.map_append,
      List.cons_append, List.append_assoc]
  · rw [outcome, handshake, hrun, List.tail_cons, asked_append htaken]
    rfl

/-! ## The first frame -/

/-- What the handshake does, where the inbox stands for the bytes `sent` and the next message of the
server has the number `n`. -/
inductive Greets (settings : HandshakeSettings) (wire : Wire) (n : Nat) (sent : Bytes) :
    Wire × Option (Except DialError TagSet) → Prop
  | wait {inbox : Inbox} (hopen : wire.ended = false) (hwaits : inbox.Waits sent) :
    Greets settings wire n sent ({ wire with inbox }, none)
  | welcome {text : String} {rest : Bytes} {first : Frame} (hstarts : Starts sent (.text text rest))
      (hparse : Frame.parse text = .ok first)
      (hadmits : Handshake.Admits settings (messageId 0) first) :
    Greets settings wire n sent
      ({ wire with
          inbox := ⟨rest, none⟩
          written := wire.written ++
            framed (Handshake.welcome settings (messageId n) first).payload },
        some (.ok (Handshake.tagsOf first)))
  | refuse {first : Frame} (inbox : Inbox) (e : DialError) (hfirst : First sent first)
      (hnot : ¬Handshake.Admits settings (messageId 0) first) :
    Greets settings wire n sent
      ({ wire with
          inbox
          written :=
            (write wire.written (Handshake.answerTo settings (messageId n) first).payload).1 },
        some (.error e))
  | halt (inbox : Inbox) (e : DialError) (h : Halts wire.ended sent) :
    Greets settings wire n sent ({ wire with inbox }, some (.error e))

variable {wire wire' : Wire} {n : Nat} {e : DialError}

/-- Who is admitted does not depend on the id of the answer. -/
lemma admits_congr (n m : Nat) (h : Handshake.Admits settings (messageId n) first) :
    Handshake.Admits settings (messageId m) first :=
  ⟨h.toKnows, utf8ByteSize_response_congr n m _ _ _ ▸ h.fits⟩

/-- What the handshake does on a stream to which the server can write. -/
lemma greets_run (settings : HandshakeSettings) (hholds : wire.inbox.Holds sent)
    (hwritable : wire.Writable) (n : Nat) :
    Greets settings wire n sent (Handshake.run settings wire (messageId n)) := by
  by_cases hfirst : ∃ first, First sent first
  · obtain ⟨first, hfirst⟩ := hfirst
    by_cases hadmits : Handshake.Admits settings (messageId 0) first
    · obtain ⟨text, rest, hstarts, hrun⟩ :=
        Handshake.run_of_admits hfirst (admits_congr 0 n hadmits) hholds hwritable
      obtain ⟨text', rest', hstarts', hparse⟩ := hfirst
      cases hstarts.unique hstarts'
      rw [hrun]
      exact .welcome hstarts hparse hadmits
    · have hnot : ¬Handshake.Admits settings (messageId n) first := mt (admits_congr n 0) hadmits
      obtain ⟨rest, e, hrun⟩ := Handshake.run_of_not_admits hfirst hnot hholds hwritable
      rw [hrun]
      exact .refuse _ e hfirst hadmits
  · have hnone : ∀ frame, ¬First sent frame := not_exists.1 hfirst
    rcases Handshake.run_of_no_first settings (messageId n) hnone hholds with
      ⟨inbox, hrun, hopen, hwaits⟩ | ⟨inbox, e, hrun⟩
    · rw [hrun]
      exact .wait hopen hwaits
    · rw [hrun]
      refine .halt inbox e ?_
      obtain ⟨token, hstarts⟩ := exists_starts sent
      cases token with
      | text text rest =>
        exact .malformed hstarts fun frame hframe => hnone frame ⟨text, rest, hstarts, hframe⟩
      | noText rest => exact .noText hstarts
      | noLength => exact .noLength hstarts
      | unfinished =>
        -- the handshake would wait if the stream went on
        refine .finished hstarts (Bool.not_eq_false _ ▸ fun hopen => ?_)
        obtain ⟨inbox', -, hread⟩ := Wire.read_unfinished hstarts hholds
        have hwait : Handshake.run settings wire (messageId n) =
            ({ wire with inbox := inbox' }, none) := by
          unfold Handshake.run
          rw [hread, Wire.pause, hopen]
          rfl
        cases congrArg Prod.snd (hrun.symm.trans hwait)

/-- The handshake comes to the result to which it comes if the bytes arrive at once. -/
lemma handshake_eq (hholds : wire.inbox.Holds sent) (hwritable : wire.Writable) (n : Nat) :
    handshake settings sent wire.ended = (Handshake.run settings wire (messageId n)).2 := by
  have hended : (Opening.streamOf sent wire.ended).ended = wire.ended := by
    cases wire.ended <;> rfl
  exact Handshake.result_congr (Opening.holds_streamOf sent wire.ended) hholds hended
    (Opening.writable_streamOf sent wire.ended) hwritable 0 n

/-- A result of the handshake stays when more bytes arrive. -/
lemma handshake_append {result : Except DialError TagSet}
    (h : handshake settings sent false = some result) (more : Bytes) :
    handshake settings (sent ++ more) false = some result := by
  have hrun := Handshake.run_arrive (Opening.holds_streamOf sent false) rfl (Prod.ext rfl h) more
  exact congrArg Prod.snd hrun

/-- A result of the handshake stays when the stream ends. -/
lemma handshake_finish {result : Except DialError TagSet}
    (h : handshake settings sent ended = some result) :
    handshake settings sent true = some result := by
  cases ended with
  | true => exact h
  | false =>
    have hopen : (Opening.streamOf sent false).ended = false := rfl
    have hrun := Handshake.run_finish hopen (Prod.ext rfl h)
    exact congrArg Prod.snd hrun

/-- Why an application is refused, with what it is sent. -/
inductive Refuses (settings : HandshakeSettings) (ended : Bool) (sent : Bytes) : List Output → Prop
  | refuse {first : Frame} (hfirst : First sent first)
      (hnot : ¬Handshake.Admits settings (messageId 0) first) :
    Refuses settings ended sent (refusal settings first)
  | halt (h : Halts ended sent) : Refuses settings ended sent []

variable {log : List Output}

lemma Refuses.append (h : Refuses settings false sent log) (more : Bytes) :
    Refuses settings false (sent ++ more) log := by
  cases h with
  | refuse hfirst hnot =>
    obtain ⟨text, rest, hstarts, hparse⟩ := hfirst
    exact .refuse ⟨text, _, hstarts.append (by simp) more, hparse⟩ hnot
  | halt h => exact .halt (h.append more)

lemma Refuses.finish (h : Refuses settings ended sent log) : Refuses settings true sent log := by
  cases h with
  | refuse hfirst hnot => exact .refuse hfirst hnot
  | halt h => exact .halt h.finish

/-- What is due for an application that is refused. -/
lemma Refuses.due (h : Refuses settings ended sent log) (hreading : Reading sent texts ending) :
    outputs settings ended texts ending = log := by
  cases h with
  | refuse hfirst hnot =>
    obtain ⟨text, rest, hstarts, hparse⟩ := hfirst
    obtain ⟨tail, rfl, -⟩ := (Passed.cons hstarts (.nil rest)).split hreading
    rw [List.cons_append, outputs, hparse]
    simp only [if_neg hnot]
  | halt h =>
    cases texts with
    | nil => rfl
    | cons text texts =>
      cases hframe : Frame.parse text with
      | error e => rw [outputs, hframe]
      | ok frame => exact absurd hframe (h.parse_ne hreading frame)

end Service

end CallDispatch
