import CallDispatch.Frame.Codec
import CallDispatch.Proofs.Text.Reading
import CallDispatch.Proofs.Text.Utf8
import Mathlib.Data.List.TakeDrop
import Mathlib.Data.Nat.Digits.Defs

/-!
# The grammar of frames

How a stream of frames is to be read, whoever reads it and however its bytes arrive: one to five
decimal digits that make up a number other than zero, a number sign, as many bytes as the number
says, which are the UTF-8 form of a text, and then the next frame. `Starts` says what bytes begin
with and `Reading` what a whole stream says, up to the first error.

What bytes begin with does not change when more bytes arrive, unless the beginning was unfinished
(`Starts.append`). So a reading can be continued where it came to a halt
(`Reading.append_unfinished`), and one that came to an error stays as it is
(`Reading.append_failed`).

## Main definitions

* `Announces`: digits that announce a payload of a length.
* `Token`, `Starts`: what bytes begin with.
* `Ending`, `Reading`: the texts on a stream, and how they end.
-/

namespace CallDispatch.Frame

open Text

/-! ## Lengths -/

/-- Digits that announce a payload of `n` bytes. -/
structure Announces (digits : Bytes) (n : Nat) : Prop where
  ne_nil : digits ≠ []
  length_le : digits.length ≤ 5
  isDigit : ∀ b ∈ digits, 0x30 ≤ b.toNat ∧ b.toNat ≤ 0x39
  value_eq : Nat.ofDigits 10 (digits.reverse.map fun b => b.toNat - 0x30) = n
  pos : 0 < n

/-- Bytes with which the digits of a length may begin. -/
structure MayAnnounce (bytes : Bytes) : Prop where
  length_le : bytes.length ≤ 5
  isDigit : ∀ b ∈ bytes, 0x30 ≤ b.toNat ∧ b.toNat ≤ 0x39

/-- The number sign is not a digit. -/
lemma not_mem_of_isDigit {bytes : Bytes} (h : ∀ b ∈ bytes, 0x30 ≤ b.toNat ∧ b.toNat ≤ 0x39) :
    mark ∉ bytes := by
  intro hmem
  have hdigit := (h mark hmem).1
  exact absurd hdigit (by decide)

lemma Announces.mark_not_mem {digits : Bytes} {n : Nat} (h : Announces digits n) :
    mark ∉ digits :=
  not_mem_of_isDigit h.isDigit

/-- Digits announce one length. -/
lemma Announces.unique {digits : Bytes} {n m : Nat} (hn : Announces digits n)
    (hm : Announces digits m) : n = m :=
  hn.value_eq.symm.trans hm.value_eq

/-- What stands before and behind the first number sign is determined. -/
lemma marked_inj {head head' rest rest' : Bytes} (h : mark ∉ head) (h' : mark ∉ head')
    (heq : head ++ mark :: rest = head' ++ mark :: rest') : head = head' ∧ rest = rest' := by
  have hspan : (head, mark :: rest) = (head', mark :: rest') := by
    rw [← span_append_cons h, ← span_append_cons h', heq]
  simpa using hspan

/-! ## What bytes begin with -/

/-- What stands at the beginning of bytes, with the bytes behind it. -/
inductive Token
  /-- A frame with a text. -/
  | text (text : String) (rest : Bytes)
  /-- A frame whose payload is not a text. -/
  | noText (rest : Bytes)
  /-- No length. -/
  | noLength
  /-- A frame of which more is to come. -/
  | unfinished

/-- What bytes begin with. -/
inductive Starts : Bytes → Token → Prop
  | text {digits : Bytes} {text : String} (rest : Bytes)
      (h : Announces digits (utf8Bytes text).length) :
    Starts (digits ++ mark :: (utf8Bytes text ++ rest)) (.text text rest)
  | noText {digits payload : Bytes} (rest : Bytes) (h : Announces digits payload.length)
      (hnone : ∀ text, utf8Bytes text ≠ payload) :
    Starts (digits ++ mark :: (payload ++ rest)) (.noText rest)
  /-- What stands before the first number sign announces nothing. -/
  | noLength {head : Bytes} (rest : Bytes) (hmark : mark ∉ head) (hnone : ∀ n, ¬Announces head n) :
    Starts (head ++ mark :: rest) .noLength
  /-- There is no number sign, and what is there are too many bytes or not all digits. -/
  | noDigits {bytes : Bytes} (hmark : mark ∉ bytes) (hnone : ¬MayAnnounce bytes) :
    Starts bytes .noLength
  | length {bytes : Bytes} (h : MayAnnounce bytes) : Starts bytes .unfinished
  | payload {digits payload : Bytes} {n : Nat} (h : Announces digits n)
      (hshort : payload.length < n) :
    Starts (digits ++ mark :: payload) .unfinished

/-- The token when more bytes arrive. -/
def Token.extend (more : Bytes) : Token → Token
  | text t rest => text t (rest ++ more)
  | noText rest => noText (rest ++ more)
  | noLength => noLength
  | unfinished => unfinished

/-- All bytes begin with something. -/
lemma exists_starts (bytes : Bytes) : ∃ token, Starts bytes token := by
  by_cases hmark : mark ∈ bytes
  · obtain ⟨head, behind, rfl, hhead⟩ := List.eq_append_cons_of_mem hmark
    by_cases hlength : ∃ n, Announces head n
    · obtain ⟨n, hn⟩ := hlength
      by_cases hshort : behind.length < n
      · exact ⟨_, .payload hn hshort⟩
      · -- the payload has arrived, and is a text or not
        have hpayload : (behind.take n).length = n := by
          rw [List.length_take]
          omega
        rw [← List.take_append_drop n behind]
        by_cases htext : ∃ text, utf8Bytes text = behind.take n
        · obtain ⟨text, htext⟩ := htext
          rw [← htext] at hpayload ⊢
          exact ⟨_, .text _ (hpayload.symm ▸ hn)⟩
        · have hnone : ∀ text, utf8Bytes text ≠ behind.take n := not_exists.1 htext
          exact ⟨_, .noText _ (hpayload.symm ▸ hn) hnone⟩
    · exact ⟨_, .noLength behind hhead (not_exists.1 hlength)⟩
  · by_cases hdigits : MayAnnounce bytes
    · exact ⟨_, .length hdigits⟩
    · exact ⟨_, .noDigits hmark hdigits⟩

/-- What bytes begin with, they begin with when more arrive, unless it was unfinished. -/
lemma Starts.append {bytes : Bytes} {token : Token} (h : Starts bytes token)
    (hne : token ≠ .unfinished) (more : Bytes) : Starts (bytes ++ more) (token.extend more) := by
  cases h with
  | text rest hlength =>
    rw [List.append_assoc, List.cons_append, List.append_assoc]
    exact .text _ hlength
  | noText rest hlength hnone =>
    rw [List.append_assoc, List.cons_append, List.append_assoc]
    exact .noText _ hlength hnone
  | noLength rest hmark hnone =>
    rw [List.append_assoc, List.cons_append]
    exact .noLength _ hmark hnone
  | noDigits hmark hnone =>
    have hlonger : ∀ behind, ¬MayAnnounce (bytes ++ behind) := fun behind hmay =>
      hnone ⟨by have hle := hmay.length_le; rw [List.length_append] at hle; omega,
        fun b hb => hmay.isDigit b (List.mem_append_left _ hb)⟩
    by_cases hmore : mark ∈ more
    · -- the first number sign has arrived, behind bytes that are no length
      obtain ⟨head, behind, rfl, hhead⟩ := List.eq_append_cons_of_mem hmore
      rw [← List.append_assoc]
      refine .noLength behind (List.not_mem_append hmark hhead) fun n hn => ?_
      exact hlonger head ⟨hn.length_le, hn.isDigit⟩
    · exact .noDigits (List.not_mem_append hmark hmore) (hlonger more)
  | length | payload => exact absurd rfl hne

/-! ## Whole streams -/

/-- How a stream ends, with the bytes that are not read. -/
inductive Ending
  | unfinished (left : Bytes)
  /-- No length stands where these bytes begin. -/
  | noLength (left : Bytes)
  /-- A payload is not a text; these are the bytes behind it. -/
  | noText (left : Bytes)

/-- Whether there was an error. -/
def Ending.isError : Ending → Bool
  | unfinished _ => false
  | noLength _ | noText _ => true

/-- The ending when more bytes arrive behind an error. -/
def Ending.extend (more : Bytes) : Ending → Ending
  | unfinished left => unfinished (left ++ more)
  | noLength left => noLength (left ++ more)
  | noText left => noText (left ++ more)

/-- The texts on a stream, and how they end. -/
inductive Reading : Bytes → List String → Ending → Prop
  | text {bytes rest : Bytes} {text : String} {texts : List String} {ending : Ending}
      (h : Starts bytes (.text text rest)) (hrest : Reading rest texts ending) :
    Reading bytes (text :: texts) ending
  | noText {bytes rest : Bytes} (h : Starts bytes (.noText rest)) :
    Reading bytes [] (.noText rest)
  | noLength {bytes : Bytes} (h : Starts bytes .noLength) : Reading bytes [] (.noLength bytes)
  | unfinished {bytes : Bytes} (h : Starts bytes .unfinished) :
    Reading bytes [] (.unfinished bytes)

/-- A frame takes bytes. -/
lemma Starts.length_lt {bytes rest : Bytes} {text : String} (h : Starts bytes (.text text rest)) :
    rest.length < bytes.length := by
  cases h with
  | text rest hlength =>
    simp only [List.length_append, List.length_cons]
    omega

/-- Every stream has a reading. -/
lemma exists_reading (bytes : Bytes) : ∃ texts ending, Reading bytes texts ending := by
  -- by induction on the length, since a frame takes bytes
  induction h : bytes.length using Nat.strong_induction_on generalizing bytes with
  | _ n ih =>
    obtain ⟨token, hstarts⟩ := exists_starts bytes
    cases token with
    | text text rest =>
      obtain ⟨texts, ending, hrest⟩ := ih rest.length (h ▸ hstarts.length_lt) rest rfl
      exact ⟨text :: texts, ending, .text hstarts hrest⟩
    | noText rest => exact ⟨[], _, .noText hstarts⟩
    | noLength => exact ⟨[], _, .noLength hstarts⟩
    | unfinished => exact ⟨[], _, .unfinished hstarts⟩

variable {bytes left : Bytes} {texts more : List String} {ending : Ending}

/-- A reading goes on with what was left. -/
lemma Reading.append_unfinished {behind : Bytes} {ending' : Ending}
    (h : Reading bytes texts ending) (hending : ending = .unfinished left)
    (hmore : Reading (left ++ behind) more ending') :
    Reading (bytes ++ behind) (texts ++ more) ending' := by
  induction h with
  | text hstarts _ ih => exact .text (hstarts.append (by simp) behind) (ih hending)
  | noText | noLength => cases hending
  | unfinished =>
    cases hending
    exact hmore

/-- A reading that came to an error stays as it is. -/
lemma Reading.append_failed (h : Reading bytes texts ending) (hending : ending.isError = true)
    (behind : Bytes) : Reading (bytes ++ behind) texts (ending.extend behind) := by
  induction h with
  | text hstarts _ ih => exact .text (hstarts.append (by simp) behind) (ih hending)
  | noText hstarts => exact .noText (hstarts.append (by simp) behind)
  | noLength hstarts => exact .noLength (hstarts.append (by simp) behind)
  | unfinished => cases hending

end CallDispatch.Frame
