import CallDispatch.Link.Wire
import CallDispatch.Proofs.Frame.Encoding

/-!
# Reading and writing a stream

What the server's end of a stream gives depends on the bytes that its inbox stands for, and on
nothing else about the inbox (`Wire.read_congr`). Once something has been found in them, it is found
again when more bytes have arrived or the stream has ended behind them (`Wire.read_arrive`,
`Wire.read_finish`); and what is done on the reading side does not matter for writing
(`Wire.Beside`).
-/

namespace CallDispatch

open Text CallDispatch.Frame

/-! ## Decoding steps -/

namespace Frame.Inbox

variable {inbox inbox' : Inbox} {left : Bytes}

/-- The bytes for which an inbox waits say what is in it. -/
lemma Waits.unique (h : inbox.Waits left) (h' : inbox'.Waits left) : inbox = inbox' := by
  cases h with
  | length hdigits =>
    cases h' with
    | length => rfl
    | payload hlength hshort =>
      exact absurd (List.mem_append_right _ List.mem_cons_self)
        (not_mem_of_isDigit hdigits.isDigit)
  | @payload digits payload n hlength hshort =>
    generalize hleft : digits ++ mark :: payload = left at h'
    cases h' with
    | length hdigits =>
      have hmark : mark ∈ digits ++ mark :: payload :=
        List.mem_append_right _ List.mem_cons_self
      rw [hleft] at hmark
      exact absurd hmark (not_mem_of_isDigit hdigits.isDigit)
    | payload hlength' hshort' =>
      obtain ⟨rfl, rfl⟩ := marked_inj hlength.mark_not_mem hlength'.mark_not_mem hleft
      rw [hlength.unique hlength']

/-- A decoding step depends only on the bytes that the inbox stands for. -/
lemma next_congr (h : inbox.Holds left) (h' : inbox'.Holds left) : inbox.next = inbox'.next := by
  obtain ⟨token, hstarts⟩ := exists_starts left
  have hmet := next_met hstarts h
  have hmet' := next_met hstarts h'
  cases token with
  | text text rest => exact hmet.trans hmet'.symm
  | noText rest => exact hmet.trans hmet'.symm
  | noLength =>
    obtain ⟨rfl, -⟩ := hmet
    obtain ⟨rfl, -⟩ := hmet'
    rfl
  | unfinished => exact Prod.ext (hmet.2.unique hmet'.2) (hmet.1.trans hmet'.1.symm)

/-- What a decoding step finds, it finds as well when more bytes have arrived. -/
lemma next_receive (h : inbox.Holds left) {item : Except LinkError String}
    (hnext : inbox.next = (inbox', some item)) (more : Bytes) :
    (inbox.receive more).next = (inbox'.receive more, some item) := by
  obtain ⟨token, hstarts⟩ := exists_starts left
  have hmet := next_met hstarts h
  rw [hnext] at hmet
  cases token with
  | text text rest =>
    cases hmet
    exact next_met (hstarts.append (by simp) more) (h.receive more)
  | noText rest =>
    cases hmet
    exact next_met (hstarts.append (by simp) more) (h.receive more)
  | noLength =>
    obtain ⟨-, hfound⟩ := hmet
    cases hfound
    exact (next_met (hstarts.append (by simp) more) (h.receive more)).2
  | unfinished => exact nomatch hmet.1

end Frame.Inbox

/-! ## Writing -/

namespace Wire

/-- A stream on which the server can write. -/
structure Writable (wire : Wire) : Prop where
  gone : wire.gone = false
  shut : wire.shut = false

/-- Sending is encoding behind what has been written. -/
lemma send_eq {wire : Wire} (h : wire.Writable) (payload : String) :
    wire.send payload =
      ({ wire with written := (write wire.written payload).1 },
        (write wire.written payload).2) := by
  have hopen : ¬(wire.gone = true ∨ wire.shut = true) := by simp [h.gone, h.shut]
  unfold send write
  cases encode payload with
  | error e => rfl
  | ok bytes => exact if_neg hopen

/-- What could be framed is not written on a stream that is closed on either side. -/
lemma send_of_not_writable {wire : Wire} (h : ¬wire.Writable) {payload : String}
    (hfits : fits payload = true) : wire.send payload = (wire, .error (.io "broken pipe")) := by
  obtain ⟨hne, hle⟩ := fits_iff.1 hfits
  have hclosed : wire.gone = true ∨ wire.shut = true := by
    by_contra hopen
    obtain ⟨hgone, hshut⟩ := not_or.1 hopen
    exact h ⟨Bool.eq_false_iff.2 hgone, Bool.eq_false_iff.2 hshut⟩
  rw [send, encode_eq, if_neg hne, if_neg (Nat.not_lt.2 hle)]
  exact if_pos hclosed

/-- A change of a stream that does not matter for writing, and for which writing does not matter. -/
def Beside (change : Wire → Wire) : Prop :=
  ∀ wire payload,
    (change wire).send payload = (change (wire.send payload).1, (wire.send payload).2)

lemma beside_arrive (bytes : Bytes) : Beside (·.arrive bytes) := by
  intro wire payload
  unfold arrive send
  cases encode payload with
  | error e => rfl
  | ok written => by_cases hended : wire.ended = true <;>
      by_cases hgone : wire.gone = true ∨ wire.shut = true <;> simp [hended, hgone]

lemma beside_finish : Beside finish := by
  intro wire payload
  unfold finish send
  cases encode payload with
  | error e => rfl
  | ok written => by_cases hgone : wire.gone = true ∨ wire.shut = true <;> simp [hgone]

/-! ## Arriving bytes -/

variable {wire wire' : Wire} {left : Bytes}

lemma arrive_of_open (h : wire.ended = false) (bytes : Bytes) :
    wire.arrive bytes = { wire with inbox := wire.inbox.receive bytes } := by
  rw [arrive, h]
  rfl

@[simp] lemma arrive_nil (wire : Wire) : wire.arrive [] = wire := by
  simp [arrive, Inbox.receive]

lemma arrive_append (wire : Wire) (bytes more : Bytes) :
    (wire.arrive bytes).arrive more = wire.arrive (bytes ++ more) := by
  by_cases hended : wire.ended = true
  · simp only [arrive, if_pos hended]
  · simp only [arrive, if_neg hended, Inbox.receive, List.append_assoc]

/-- The end of a stream does not arrive with bytes. -/
lemma ended_arrive (wire : Wire) (bytes : Bytes) : (wire.arrive bytes).ended = wire.ended := by
  unfold arrive
  by_cases hended : wire.ended = true
  · rw [if_pos hended]
  · rw [if_neg hended]

lemma Writable.arrive (h : wire.Writable) (bytes : Bytes) : (wire.arrive bytes).Writable := by
  unfold Wire.arrive
  by_cases hended : wire.ended = true
  · rw [if_pos hended]
    exact h
  · rw [if_neg hended]
    exact ⟨h.gone, h.shut⟩

lemma Writable.finish (h : wire.Writable) : wire.finish.Writable :=
  ⟨h.gone, h.shut⟩

/-- Chunks that arrive one after another arrive as their bytes. -/
lemma foldl_arrive (wire : Wire) (chunks : List Bytes) :
    chunks.foldl arrive wire = wire.arrive chunks.flatten := by
  induction chunks generalizing wire with
  | nil => simp
  | cons chunk chunks ih => rw [List.foldl_cons, ih, arrive_append, List.flatten_cons]

lemma holds_arrive (hholds : wire.inbox.Holds left) (hopen : wire.ended = false) (bytes : Bytes) :
    (wire.arrive bytes).inbox.Holds (left ++ bytes) := by
  rw [arrive_of_open hopen]
  exact hholds.receive bytes

/-! ## Reading -/

/-- What a stream gives for what is decoded. -/
def arrivalOf : Except LinkError String → Arrival
  | .ok text => .payload text
  | .error e => .failure e

/-- What a stream gives where no frame is complete, with the inbox as it is then. -/
def pause (ended : Bool) (inbox : Inbox) : Arrival :=
  if ended then
    if inbox.buffer.isEmpty then .finished else .failure (.io "bytes remaining on stream")
  else .nothing

/-- Behind the end of a stream there is nothing to wait for. -/
lemma pause_true (inbox : Inbox) :
    pause true inbox = .finished ∨ ∃ e, pause true inbox = .failure e := by
  unfold pause
  rw [if_pos rfl]
  by_cases hempty : inbox.buffer.isEmpty = true
  · exact .inl (if_pos hempty)
  · exact .inr ⟨_, if_neg hempty⟩

lemma read_of_some {inbox : Inbox} {item : Except LinkError String}
    (h : wire.inbox.next = (inbox, some item)) :
    wire.read = ({ wire with inbox }, arrivalOf item) := by
  unfold read Inbox.nextAtEnd
  rw [h, ite_self]
  cases item <;> rfl

lemma read_of_none {inbox : Inbox} (h : wire.inbox.next = (inbox, none)) :
    wire.read = ({ wire with inbox }, pause wire.ended inbox) := by
  unfold read Inbox.nextAtEnd pause
  rw [h]
  cases wire.ended with
  | false => rfl
  | true => by_cases hempty : inbox.buffer.isEmpty = true <;> simp [hempty]

/-- A frame is read. -/
lemma read_text {text : String} {rest : Bytes} (hstarts : Starts left (.text text rest))
    (hholds : wire.inbox.Holds left) :
    wire.read = ({ wire with inbox := ⟨rest, none⟩ }, .payload text) :=
  read_of_some (Inbox.next_met hstarts hholds)

/-- What is no frame is an error. -/
lemma read_broken {token : Token} (hstarts : Starts left token)
    (htoken : token = .noLength ∨ ∃ rest, token = .noText rest) (hholds : wire.inbox.Holds left) :
    ∃ inbox e, wire.read = ({ wire with inbox }, .failure e) := by
  have hmet := Inbox.next_met hstarts hholds
  rcases htoken with rfl | ⟨rest, rfl⟩
  · exact ⟨_, _, read_of_some hmet.2⟩
  · exact ⟨_, _, read_of_some hmet⟩

/-- Where a frame is unfinished, the server waits, or finds the end of the stream. -/
lemma read_unfinished (hstarts : Starts left .unfinished) (hholds : wire.inbox.Holds left) :
    ∃ inbox, inbox.Waits left ∧ wire.read = ({ wire with inbox }, pause wire.ended inbox) := by
  obtain ⟨hnone, hwaits⟩ : wire.inbox.next.2 = none ∧ wire.inbox.next.1.Waits left :=
    Inbox.next_met hstarts hholds
  exact ⟨_, hwaits, read_of_none (Prod.ext rfl hnone)⟩

/-- Streams whose inboxes stand for the same bytes give the same. -/
lemma read_alike (h : wire.inbox.Holds left) (h' : wire'.inbox.Holds left)
    (hended : wire.ended = wire'.ended) :
    ∃ inbox arrival, wire.read = ({ wire with inbox }, arrival) ∧
      wire'.read = ({ wire' with inbox }, arrival) := by
  have hnext : wire.inbox.next = wire'.inbox.next := Inbox.next_congr h h'
  obtain ⟨inbox, item, hstep⟩ : ∃ inbox item, wire.inbox.next = (inbox, item) := ⟨_, _, rfl⟩
  have hstep' : wire'.inbox.next = (inbox, item) := hnext.symm.trans hstep
  cases item with
  | none => exact ⟨inbox, _, read_of_none hstep, hended ▸ read_of_none hstep'⟩
  | some item => exact ⟨inbox, _, read_of_some hstep, read_of_some hstep'⟩

/-- What is read depends only on the bytes that the inbox stands for. -/
lemma read_congr {inbox inbox' : Inbox} (h : inbox.Holds left) (h' : inbox'.Holds left) :
    { wire with inbox }.read = { wire with inbox := inbox' }.read := by
  have hnext : inbox.next = inbox'.next := Inbox.next_congr h h'
  unfold read Inbox.nextAtEnd
  simp only [hnext]

/-- While the stream goes on, something other than nothing comes of a decoding step. -/
lemma next_of_read (hopen : wire.ended = false) {arrival : Arrival}
    (hread : wire.read = (wire', arrival)) (hsome : arrival ≠ .nothing) :
    ∃ inbox item, wire.inbox.next = (inbox, some item) ∧ wire' = { wire with inbox } ∧
      arrival = arrivalOf item := by
  cases hnext : wire.inbox.next with
  | mk inbox item =>
    cases item with
    | none =>
      rw [read_of_none hnext, hopen] at hread
      cases hread
      exact absurd rfl hsome
    | some item =>
      rw [read_of_some hnext] at hread
      cases hread
      exact ⟨inbox, item, rfl, rfl, rfl⟩

/-- What has been read is read as well when more bytes have arrived. -/
lemma read_arrive (hholds : wire.inbox.Holds left) (hopen : wire.ended = false) {arrival : Arrival}
    (hread : wire.read = (wire', arrival)) (hsome : arrival ≠ .nothing) (more : Bytes) :
    (wire.arrive more).read = (wire'.arrive more, arrival) := by
  obtain ⟨inbox, item, hnext, rfl, rfl⟩ := next_of_read hopen hread hsome
  have hmore := Inbox.next_receive hholds hnext more
  have hstill : ({ wire with inbox } : Wire).ended = false := hopen
  rw [arrive_of_open hopen, arrive_of_open hstill]
  exact read_of_some hmore

/-- What has been read is read as well when the stream has ended behind it. -/
lemma read_finish (hopen : wire.ended = false) {arrival : Arrival}
    (hread : wire.read = (wire', arrival)) (hsome : arrival ≠ .nothing) :
    wire.finish.read = (wire'.finish, arrival) := by
  obtain ⟨inbox, item, hnext, rfl, rfl⟩ := next_of_read hopen hread hsome
  have hclosed : wire.finish.inbox.next = (inbox, some item) := hnext
  exact read_of_some hclosed

end Wire

end CallDispatch
