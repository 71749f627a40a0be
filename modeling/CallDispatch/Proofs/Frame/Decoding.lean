import CallDispatch.Proofs.Frame.Grammar
import Mathlib.Data.List.Induction
import Mathlib.Data.List.TakeWhile

/-!
# Decoding frames

An inbox reads the frames of a stream as the grammar says, however the stream is cut into chunks. At
any time it stands for the bytes that it has not read (`Inbox.Holds`), which are those in its buffer
and, if it has already taken a length off them, the digits and the number sign of that length. One
decoding step finds what these bytes begin with (`Inbox.next_met`), so decoding until nothing comes
any more gives a reading of them (`Inbox.readAll_reading`), and what is left is an unfinished frame,
which the next chunk continues (`Inbox.feeds_of_waits`).

## Main definitions

* `Inbox.Holds`, `Inbox.Waits`: the bytes for which an inbox stands, and the unfinished ones.
* `results`: what decoding gives for a reading.
* `Inbox.feed`, `Inbox.nexts`: decoding chunk by chunk, up to the first error or whatever comes.
-/

namespace CallDispatch.Frame

open Text

/-! ## Lengths -/

lemma isDigitByte_iff {b : UInt8} :
    isDigitByte b = true ↔ 0x30 ≤ b.toNat ∧ b.toNat ≤ 0x39 := by
  simp [isDigitByte, UInt8.le_iff_toNat_le]

/-- The length is the number that the digits make up. -/
lemma lengthOf_eq (digits : Bytes) :
    lengthOf digits = Nat.ofDigits 10 (digits.reverse.map fun b => b.toNat - 0x30) := by
  -- by induction from the last digit
  induction digits using List.reverseRecOn with
  | nil => rfl
  | append_singleton digits b ih =>
    have hstep : lengthOf (digits ++ [b]) = 10 * lengthOf digits + (b.toNat - 0x30) := by
      simp [lengthOf]
    rw [hstep, ih, List.reverse_append, List.reverse_singleton, List.singleton_append,
      List.map_cons, Nat.ofDigits_cons]
    exact Nat.add_comm _ _

lemma mayAnnounce_iff {bytes : Bytes} :
    MayAnnounce bytes ↔ bytes.length ≤ maxDigits ∧ bytes.all isDigitByte = true := by
  have hall : bytes.all isDigitByte = true ↔ ∀ b ∈ bytes, 0x30 ≤ b.toNat ∧ b.toNat ≤ 0x39 := by
    simp only [List.all_eq_true, isDigitByte_iff]
  rw [hall]
  exact ⟨fun h => ⟨h.length_le, h.isDigit⟩, fun h => ⟨h.1, h.2⟩⟩

lemma announces_iff {digits : Bytes} {n : Nat} :
    Announces digits n ↔ (digits.length ≤ maxDigits ∧ digits.all isDigitByte = true ∧
      lengthOf digits ≠ 0) ∧ lengthOf digits = n := by
  constructor
  · rintro ⟨hne, hle, hdigits, hvalue, hpos⟩
    have hmay := mayAnnounce_iff.1 ⟨hle, hdigits⟩
    rw [← lengthOf_eq] at hvalue
    exact ⟨⟨hmay.1, hmay.2, by omega⟩, hvalue⟩
  · rintro ⟨⟨hle, hdigits, hpos⟩, rfl⟩
    have hmay := mayAnnounce_iff.2 ⟨hle, hdigits⟩
    refine ⟨?_, hmay.length_le, hmay.isDigit, (lengthOf_eq digits).symm, Nat.pos_of_ne_zero hpos⟩
    rintro rfl
    exact hpos rfl

/-! ## Headers -/

lemma readHeader_of_announces {digits : Bytes} {n : Nat} (h : Announces digits n) (rest : Bytes) :
    readHeader (digits ++ mark :: rest) = .found n rest := by
  obtain ⟨hdigits, rfl⟩ := announces_iff.1 h
  rw [readHeader, span_append_cons h.mark_not_mem]
  exact if_pos hdigits

lemma readHeader_of_noLength {head : Bytes} (hmark : mark ∉ head) (hnone : ∀ n, ¬Announces head n)
    (rest : Bytes) : readHeader (head ++ mark :: rest) = .invalid := by
  rw [readHeader, span_append_cons hmark]
  exact if_neg fun hdigits => hnone _ (announces_iff.2 ⟨hdigits, rfl⟩)

lemma readHeader_of_mayAnnounce {bytes : Bytes} (h : MayAnnounce bytes) :
    readHeader bytes = .incomplete := by
  rw [readHeader, span_of_notMem (not_mem_of_isDigit h.isDigit)]
  exact if_pos (mayAnnounce_iff.1 h)

lemma readHeader_of_noDigits {bytes : Bytes} (hmark : mark ∉ bytes) (hnone : ¬MayAnnounce bytes) :
    readHeader bytes = .invalid := by
  rw [readHeader, span_of_notMem hmark]
  exact if_neg fun hdigits => hnone (mayAnnounce_iff.2 hdigits)

/-! ## Results -/

/-- The error with which a stream ends. -/
def Ending.error? : Ending → Option LinkError
  | unfinished _ => none
  | noLength _ => some (.protocol "invalid message length specifier")
  | noText _ => some (.protocol "frame is not valid utf-8")

/-- What decoding gives for a reading: the texts, and the error if there is one. -/
def results (texts : List String) (ending : Ending) : List (Except LinkError String) :=
  texts.map .ok ++ (ending.error?.map .error).toList

lemma results_append {texts : List String} {ending : Ending} (h : ending.isError = false)
    (more : List String) (ending' : Ending) :
    results texts ending ++ results more ending' = results (texts ++ more) ending' := by
  cases ending with
  | unfinished left => simp [results, Ending.error?]
  | noLength | noText => cases h

/-- Decoding gives an error exactly if the reading ends with one. -/
lemma all_isOk_results (texts : List String) (ending : Ending) :
    (results texts ending).all Except.isOk = !ending.isError := by
  have htexts : (texts.map (Except.ok : String → Except LinkError String)).all Except.isOk =
      true := by
    simp [Except.isOk, Except.toBool]
  rw [results, List.all_append, htexts, Bool.true_and]
  cases ending <;> rfl

namespace Inbox

/-! ## The bytes that an inbox stands for -/

/-- The bytes that an inbox has not read: those in its buffer, behind the digits of the length that
it has taken off them. -/
inductive Holds : Inbox → Bytes → Prop
  | plain (buffer : Bytes) : Holds ⟨buffer, none⟩ buffer
  | announced {digits : Bytes} {n : Nat} (h : Announces digits n) (buffer : Bytes) :
    Holds ⟨buffer, some n⟩ (digits ++ mark :: buffer)

/-- An inbox that waits for more of a frame: it has at most five digits, or a length and fewer bytes
than that. -/
inductive Waits : Inbox → Bytes → Prop
  | length {bytes : Bytes} (h : MayAnnounce bytes) : Waits ⟨bytes, none⟩ bytes
  | payload {digits payload : Bytes} {n : Nat} (h : Announces digits n)
      (hshort : payload.length < n) : Waits ⟨payload, some n⟩ (digits ++ mark :: payload)

variable {inbox inbox' : Inbox} {left : Bytes}

lemma Waits.holds (h : inbox.Waits left) : inbox.Holds left := by
  cases h with
  | length hdigits => exact .plain _
  | payload hlength hshort => exact .announced hlength _

lemma Waits.starts (h : inbox.Waits left) : Starts left .unfinished := by
  cases h with
  | length hdigits => exact .length hdigits
  | payload hlength hshort => exact .payload hlength hshort

/-- Bytes that arrive stand behind those that are there. -/
lemma Holds.receive (h : inbox.Holds left) (more : Bytes) :
    (inbox.receive more).Holds (left ++ more) := by
  cases h with
  | plain buffer => exact .plain _
  | announced hlength buffer =>
    rw [List.append_assoc, List.cons_append]
    exact .announced hlength _

lemma holds_buffer (h : inbox.announced = none) : inbox.Holds inbox.buffer := by
  obtain ⟨buffer, announced⟩ := inbox
  cases h
  exact .plain buffer

/-- Bytes that begin with no length are held in the buffer. -/
lemma Holds.eq_plain (h : inbox.Holds left) (hmark : ∀ digits n rest, Announces digits n →
    left ≠ digits ++ mark :: rest) : inbox = ⟨left, none⟩ := by
  cases h with
  | plain buffer => rfl
  | announced hlength buffer => exact absurd rfl (hmark _ _ _ hlength)

/-! ## One step -/

/-- The length is read off the bytes or has been before; then the payload is taken. -/
lemma next_of_announces {digits rest : Bytes} {n : Nat} (h : Announces digits n)
    (hholds : inbox.Holds (digits ++ mark :: rest)) : inbox.next = takePayload n rest := by
  generalize hleft : digits ++ mark :: rest = left at hholds
  cases hholds with
  | plain buffer =>
    subst hleft
    simp only [next, readHeader_of_announces h]
  | announced hlength buffer =>
    obtain ⟨rfl, rfl⟩ := marked_inj h.mark_not_mem hlength.mark_not_mem hleft
    rw [h.unique hlength]
    rfl

lemma takePayload_of_length {payload rest : Bytes} {n : Nat} (h : payload.length = n) :
    takePayload n (payload ++ rest) =
      match readUtf8 payload with
      | some text => (⟨rest, none⟩, some (.ok text))
      | none => (⟨rest, none⟩, some (.error (.protocol "frame is not valid utf-8"))) := by
  subst h
  cases htext : readUtf8 payload <;> simp [takePayload, htext]

end Inbox

/-- What a decoding step gives for what the bytes begin with. -/
def Token.Met (inbox : Inbox) (left : Bytes) (result : Inbox × Option (Except LinkError String)) :
    Token → Prop
  | text t rest => result = (⟨rest, none⟩, some (.ok t))
  | noText rest => result = (⟨rest, none⟩, some (.error (.protocol "frame is not valid utf-8")))
  | noLength => inbox = ⟨left, none⟩ ∧
    result = (inbox, some (.error (.protocol "invalid message length specifier")))
  | unfinished => result.2 = none ∧ result.1.Waits left

/-- What an inbox is when a reading has come to its end. -/
def Ending.Met (inbox : Inbox) : Ending → Prop
  | unfinished left => inbox.Waits left
  | noLength left => inbox = ⟨left, none⟩ ∧ Starts left .noLength
  | noText left => inbox = ⟨left, none⟩

namespace Inbox

variable {inbox : Inbox} {left : Bytes} {token : Token} {texts : List String} {ending : Ending}

/-- A decoding step finds what the bytes begin with. -/
lemma next_met (h : Starts left token) (hholds : inbox.Holds left) :
    token.Met inbox left inbox.next := by
  cases h with
  | text rest hlength =>
    rw [next_of_announces hlength hholds, takePayload_of_length rfl, readUtf8_eq_some_iff.2 rfl]
    rfl
  | noText rest hlength hnone =>
    rw [next_of_announces hlength hholds, takePayload_of_length rfl, readUtf8_eq_none_iff.2 hnone]
    rfl
  | noLength rest hmark hnone =>
    have hplain : inbox = ⟨_, none⟩ := hholds.eq_plain fun digits n rest' hlength heq =>
      hnone n ((marked_inj hmark hlength.mark_not_mem heq).1 ▸ hlength)
    subst hplain
    refine ⟨rfl, ?_⟩
    simp only [next, readHeader_of_noLength hmark hnone]
  | noDigits hmark hnone =>
    have hplain : inbox = ⟨left, none⟩ := hholds.eq_plain fun digits n rest hlength heq =>
      hmark (heq ▸ List.mem_append_right _ List.mem_cons_self)
    subst hplain
    refine ⟨rfl, ?_⟩
    simp only [next, readHeader_of_noDigits hmark hnone]
  | length hdigits =>
    have hplain : inbox = ⟨left, none⟩ := hholds.eq_plain fun digits n rest hlength heq =>
      not_mem_of_isDigit hdigits.isDigit (heq ▸ List.mem_append_right _ List.mem_cons_self)
    subst hplain
    simp only [next, readHeader_of_mayAnnounce hdigits]
    exact ⟨rfl, .length hdigits⟩
  | @payload digits payload n hlength hshort =>
    have htake : takePayload n payload = (⟨payload, some n⟩, none) := by
      have hlt : (payload.take n).length < n := by
        rw [List.length_take]
        omega
      rw [takePayload, if_pos hlt]
    rw [next_of_announces hlength hholds, htake]
    exact ⟨rfl, .payload hlength hshort⟩

/-- A frame takes bytes off the buffer. -/
lemma length_lt_of_starts {text : String} {rest : Bytes} (h : Starts left (.text text rest))
    (hholds : inbox.Holds left) : rest.length < inbox.buffer.length := by
  cases hholds with
  | plain buffer => exact h.length_lt
  | announced hlength buffer =>
    generalize hleft : _ ++ mark :: buffer = left at h
    cases h with
    | text rest hpayload =>
      obtain ⟨rfl, rfl⟩ := marked_inj hlength.mark_not_mem hpayload.mark_not_mem hleft
      have hpos := hpayload.pos
      rw [List.length_append]
      omega

/-! ## Decoding all that is there -/

/-- Decoding gives a reading of the bytes, and comes to the end that the reading says. -/
lemma readFrom_reading (h : Reading left texts ending) (hholds : inbox.Holds left) (fuel : Nat)
    (hfuel : inbox.buffer.length ≤ fuel) (seen : List (Except LinkError String)) :
    (readFrom seen (fuel + 1) inbox).1 = seen.reverse ++ results texts ending ∧
      ending.Met (readFrom seen (fuel + 1) inbox).2 := by
  induction h generalizing inbox fuel seen with
  | @text bytes rest text texts ending hstarts hrest ih =>
    have hnext : inbox.next = (⟨rest, none⟩, some (.ok text)) := next_met hstarts hholds
    have hshorter : rest.length < inbox.buffer.length := length_lt_of_starts hstarts hholds
    -- the frame took bytes off the buffer, so there is fuel for the next one
    obtain ⟨fuel, rfl⟩ : ∃ n, fuel = n + 1 := ⟨fuel - 1, by omega⟩
    have henough : rest.length ≤ fuel := by omega
    have hread := ih (.plain rest) fuel henough (.ok text :: seen)
    rw [List.reverse_cons, List.append_assoc, List.singleton_append] at hread
    rw [readFrom, hnext]
    exact hread
  | @noText bytes rest hstarts =>
    have hnext : inbox.next =
        (⟨rest, none⟩, some (.error (.protocol "frame is not valid utf-8"))) :=
      next_met hstarts hholds
    rw [readFrom, hnext]
    exact ⟨List.reverse_cons, rfl⟩
  | @noLength bytes hstarts =>
    obtain ⟨hplain, hnext⟩ : inbox = ⟨bytes, none⟩ ∧ inbox.next =
        (inbox, some (.error (.protocol "invalid message length specifier"))) :=
      next_met hstarts hholds
    rw [readFrom, hnext]
    exact ⟨List.reverse_cons, hplain, hstarts⟩
  | @unfinished bytes hstarts =>
    obtain ⟨hnext, hwaits⟩ : inbox.next.2 = none ∧ inbox.next.1.Waits bytes :=
      next_met hstarts hholds
    rw [readFrom]
    generalize inbox.next = result at hnext hwaits
    obtain ⟨inbox', item⟩ := result
    cases hnext
    exact ⟨(List.append_nil _).symm, hwaits⟩

/-- Decoding until nothing comes any more gives a reading of the bytes. -/
lemma readAll_reading (h : Reading left texts ending) (hholds : inbox.Holds left) :
    inbox.readAll.1 = results texts ending ∧ ending.Met inbox.readAll.2 :=
  readFrom_reading h hholds _ (Nat.le_refl _) []

end Inbox

/-! ## One reading -/

section Uniqueness

variable {bytes : Bytes} {token token' : Token} {texts texts' : List String}
  {ending ending' : Ending}

/-- Bytes begin with one token, the one that a decoding step finds. -/
lemma Starts.unique (h : Starts bytes token) (h' : Starts bytes token') : token = token' := by
  have hmet := Inbox.next_met h (.plain bytes)
  have hmet' := Inbox.next_met h' (.plain bytes)
  cases token <;> cases token' <;> simp_all [Token.Met]

/-- A stream has one reading. -/
lemma Reading.unique (h : Reading bytes texts ending) (h' : Reading bytes texts' ending') :
    texts' = texts ∧ ending' = ending := by
  induction h generalizing texts' ending' with
  | text hstarts _ ih =>
    cases h' with
    | text hstarts' hrest' =>
      cases hstarts.unique hstarts'
      obtain ⟨rfl, rfl⟩ := ih hrest'
      exact ⟨rfl, rfl⟩
    | noText hstarts' | noLength hstarts' | unfinished hstarts' =>
      cases hstarts.unique hstarts'
  | noText hstarts =>
    cases h' with
    | noText hstarts' =>
      cases hstarts.unique hstarts'
      exact ⟨rfl, rfl⟩
    | text hstarts' | noLength hstarts' | unfinished hstarts' => cases hstarts.unique hstarts'
  | noLength hstarts =>
    cases h' with
    | noLength => exact ⟨rfl, rfl⟩
    | text hstarts' | noText hstarts' | unfinished hstarts' => cases hstarts.unique hstarts'
  | unfinished hstarts =>
    cases h' with
    | unfinished => exact ⟨rfl, rfl⟩
    | text hstarts' | noText hstarts' | noLength hstarts' => cases hstarts.unique hstarts'

end Uniqueness

/-! ## Chunk by chunk -/

/-- Gives chunks to an inbox one after another, and decodes after each of them until nothing comes
any more, up to the first error. The results come with the inbox afterwards and the chunks that it
has not been given. -/
def Inbox.feed (inbox : Inbox) :
    List Bytes → List (Except LinkError String) × Inbox × List Bytes
  | [] => ([], inbox, [])
  | chunk :: chunks =>
    let (items, inbox) := (inbox.receive chunk).readAll
    if items.all Except.isOk then
      let (more, inbox, unread) := inbox.feed chunks
      (items ++ more, inbox, unread)
    else (items, inbox, chunks)

/-- Gives chunks to an inbox one after another, with one decoding step after each of them, whatever
comes. -/
def Inbox.nexts (inbox : Inbox) : List Bytes → Inbox × List (Option (Except LinkError String))
  | [] => (inbox, [])
  | chunk :: chunks =>
    let (inbox, item) := (inbox.receive chunk).next
    let (inbox, items) := inbox.nexts chunks
    (inbox, item :: items)

/-- What an inbox and the chunks that it has not been given are at the end of a stream. -/
def Ending.Reached (inbox : Inbox) (unread : List Bytes) : Ending → Prop
  | unfinished left => inbox.Waits left ∧ unread = []
  | noLength left => inbox.announced = none ∧ Starts inbox.buffer .noLength ∧
    inbox.buffer ++ unread.flatten = left
  | noText left => inbox.announced = none ∧ inbox.buffer ++ unread.flatten = left

namespace Inbox

variable {inbox : Inbox} {left : Bytes}

/-- Chunks, given to an inbox that stands for bytes, are read as the bytes and the chunks in one. -/
def Feeds (inbox : Inbox) (left : Bytes) (chunks : List Bytes) : Prop :=
  ∃ texts ending, Reading (left ++ chunks.flatten) texts ending ∧
    (inbox.feed chunks).1 = results texts ending ∧
    ending.Reached (inbox.feed chunks).2.1 (inbox.feed chunks).2.2

/-- The first chunk is read, and those behind it if there is no error in it. -/
lemma feeds_cons (hholds : inbox.Holds left) (chunk : Bytes) {chunks : List Bytes}
    (hrest : ∀ inbox' left', inbox'.Waits left' → Feeds inbox' left' chunks) :
    Feeds inbox left (chunk :: chunks) := by
  obtain ⟨texts, ending, hreading⟩ := exists_reading (left ++ chunk)
  obtain ⟨hitems, hmet⟩ := readAll_reading hreading (hholds.receive chunk)
  have hfeed : inbox.feed (chunk :: chunks) =
      if !ending.isError then
        (results texts ending ++ ((inbox.receive chunk).readAll.2.feed chunks).1,
          ((inbox.receive chunk).readAll.2.feed chunks).2)
      else (results texts ending, (inbox.receive chunk).readAll.2, chunks) := by
    rw [← all_isOk_results texts ending, ← hitems]
    rfl
  rw [Feeds, hfeed, List.flatten_cons, ← List.append_assoc]
  generalize (inbox.receive chunk).readAll.2 = inbox' at hmet ⊢
  cases ending with
  | unfinished left' =>
    obtain ⟨more, ending', hmore, hresults, hreached⟩ := hrest inbox' left' hmet
    refine ⟨texts ++ more, ending', hreading.append_unfinished rfl hmore, ?_, hreached⟩
    have hgood : (Ending.unfinished left').isError = false := rfl
    rw [← results_append hgood, ← hresults]
    rfl
  | noLength left' =>
    obtain ⟨rfl, hstarts⟩ := hmet
    exact ⟨texts, _, hreading.append_failed rfl chunks.flatten, rfl, rfl, hstarts, rfl⟩
  | noText left' =>
    obtain rfl : inbox' = ⟨left', none⟩ := hmet
    exact ⟨texts, _, hreading.append_failed rfl chunks.flatten, rfl, rfl, rfl⟩

/-- An inbox that waits for more of a frame goes on with it. -/
lemma feeds_of_waits (chunks : List Bytes) (hwaits : inbox.Waits left) :
    Feeds inbox left chunks := by
  induction chunks generalizing inbox left with
  | nil =>
    refine ⟨[], .unfinished left, ?_, rfl, hwaits, rfl⟩
    rw [List.flatten_nil, List.append_nil]
    exact .unfinished hwaits.starts
  | cons chunk chunks ih => exact feeds_cons hwaits.holds chunk fun _ _ => ih

/-- An empty inbox waits for a length. -/
lemma waits_empty : ({} : Inbox).Waits [] :=
  .length ⟨Nat.zero_le _, by simp⟩

/-- Where no length stands, all decoding steps fail and change nothing, whatever bytes arrive. -/
lemma nexts_of_noLength (hannounced : inbox.announced = none)
    (hstarts : Starts inbox.buffer .noLength) (chunks : List Bytes) :
    inbox.nexts chunks = (inbox.receive chunks.flatten, List.replicate chunks.length
      (some (.error (.protocol "invalid message length specifier")))) := by
  induction chunks generalizing inbox with
  | nil =>
    rw [List.flatten_nil, receive, List.append_nil]
    rfl
  | cons chunk chunks ih =>
    -- there is still no length when the first chunk has arrived
    have hmore : Starts (inbox.buffer ++ chunk) .noLength := hstarts.append (by simp) chunk
    have hnext : (inbox.receive chunk).next = (inbox.receive chunk,
        some (.error (.protocol "invalid message length specifier"))) :=
      (next_met hmore ((holds_buffer hannounced).receive chunk)).2
    have hjoined : (inbox.receive chunk).receive chunks.flatten =
        inbox.receive (chunk :: chunks).flatten := by
      simp [receive]
    have hreceived : (inbox.receive chunk).announced = none := hannounced
    have hrest := ih hreceived hmore
    simp only [nexts, hnext, hrest, hjoined, List.length_cons, List.replicate_succ]

/-! ## The main result -/

/-- **Decoding.** However a stream is cut into chunks, decoding gives the one reading that the
grammar says, up to the first error, and the same as without cuts. Without an error nothing is left
but an unfinished frame. After an error the inbox and the chunks that it has not been given make up
what the reading leaves; where no length stands, every later step fails again and changes nothing,
whatever bytes arrive; and behind a payload that is not a text, decoding goes on with the frame that
follows it. -/
theorem feed_exact (chunks : List Bytes) :
    ∃ texts ending inbox unread,
      Reading chunks.flatten texts ending ∧
      (∀ texts' ending', Reading chunks.flatten texts' ending' →
        texts' = texts ∧ ending' = ending) ∧
      ({} : Inbox).feed chunks = (results texts ending, inbox, unread) ∧
      (({} : Inbox).receive chunks.flatten).readAll.1 = results texts ending ∧
      ending.Reached inbox unread ∧
      (∀ left, ending = .noLength left → ∀ later, inbox.nexts later =
        (inbox.receive later.flatten, List.replicate later.length
          (some (.error (.protocol "invalid message length specifier"))))) ∧
      (∀ left, ending = .noText left → ∀ texts' ending', Reading left texts' ending' →
        (inbox.feed ([] :: unread)).1 = results texts' ending') := by
  obtain ⟨texts, ending, hreading, hresults, hreached⟩ := feeds_of_waits chunks waits_empty
  rw [List.nil_append] at hreading
  have hwhole := readAll_reading hreading (waits_empty.holds.receive chunks.flatten)
  generalize hfeed : ({} : Inbox).feed chunks = fed at hresults hreached
  obtain ⟨items, inbox, unread⟩ := fed
  obtain rfl : items = results texts ending := hresults
  refine ⟨texts, ending, inbox, unread, hreading, fun _ _ => hreading.unique, rfl, hwhole.1,
    hreached, fun left hending later => ?_, fun left hending texts' ending' hleft => ?_⟩
  · subst hending
    exact nexts_of_noLength hreached.1 hreached.2.1 later
  · subst hending
    obtain ⟨hannounced, hjoined⟩ : inbox.announced = none ∧
        inbox.buffer ++ unread.flatten = left := hreached
    obtain ⟨more, ending'', hmore, hresumed, -⟩ :=
      feeds_cons (holds_buffer hannounced) [] fun _ _ hwaits => feeds_of_waits unread hwaits
    rw [List.flatten_cons, List.nil_append, hjoined] at hmore
    obtain ⟨rfl, rfl⟩ := hmore.unique hleft
    exact hresumed

/-- `5#hello01#!-` in three pieces. -/
example : (({} : Inbox).feed [[0x35, 0x23, 0x68, 0x65], [0x6C, 0x6C, 0x6F, 0x30, 0x31],
    [0x23, 0x21, 0x2D]]).1 =
      [.ok "hello", .ok "!", .error (.protocol "invalid message length specifier")] := by
  decide

end Inbox

end CallDispatch.Frame
