import CallDispatch.Json.Basic
import CallDispatch.Proofs.Text.Digits
import Mathlib.Tactic.Lemma

/-!
# Tokens from printed characters

What is printed for a word, a text or a number makes the one token that it is printed for
(`lexes_text`, `lexes_decimalDigits`). The end of a number is only seen at the next character, so
characters are said to make tokens if these are what there is when the characters end (`Lexes`), and
two such pieces may stand around a mark, which ends whatever stands in front of it
(`Lexes.append_mark`).

## Main definitions

* `Json.Mark`: the characters that are tokens by themselves.
* `Json.Lexes`: the tokens of a piece of a document, wherever it stands.
-/

namespace CallDispatch.Json

open Text

/-! ## Pieces and marks -/

lemma LexState.run_append (state : LexState) (as bs : List Char) :
    state.run (as ++ bs) = (state.run as).bind (·.run bs) := by
  induction as generalizing state with
  | nil => rfl
  | cons a as ih =>
    rw [List.cons_append, run, run]
    cases state.step a with
    | none => rfl
    | some next => exact ih next

/-- A character that is a token by itself. -/
inductive Mark : Char → Token → Prop
  | openObject : Mark '\x7b' .openObject
  | closeObject : Mark '\x7d' .closeObject
  | openArray : Mark '[' .openArray
  | closeArray : Mark ']' .closeArray
  | colon : Mark ':' .colon
  | comma : Mark ',' .comma

variable {c : Char} {token : Token} {cs cs' : List Char} {ts ts' : List Token}

lemma Mark.start (h : Mark c token) (state : LexState) :
    state.start c = some (state.emit token) := by
  cases h <;> rfl

/-- A mark continues no number. -/
lemma Mark.next (h : Mark c token) (part : NumberPart) : part.next c = none := by
  cases h <;> cases part <;> rfl

/-- A mark is a token behind the tokens that might also end in front of it. -/
lemma Mark.step (h : Mark c token) {state : LexState} (hfinish : state.finish = some ts) :
    state.step c = some ⟨token :: ts.reverse, .between⟩ := by
  obtain ⟨before, mode⟩ := state
  -- the characters can only have ended between two tokens or in a number
  cases mode with
  | between =>
    obtain rfl : before.reverse = ts := Option.some.inj hfinish
    rw [List.reverse_reverse]
    exact h.start _
  | number part seen =>
    simp only [LexState.finish] at hfinish
    split at hfinish
    · rename_i hcomplete
      cases hfinish
      simp only [LexState.step, h.next, hcomplete, if_true, h.start]
      rw [List.reverse_reverse]
      rfl
    · cases hfinish
  | word rest token => cases hfinish
  | text read => cases hfinish
  | escape read => cases hfinish
  | escapeDigits read due value => cases hfinish

/-- The characters make the tokens, wherever they begin between two tokens. -/
def Lexes (cs : List Char) (ts : List Token) : Prop :=
  ∀ before, (LexState.run ⟨before, .between⟩ cs).bind LexState.finish = some (before.reverse ++ ts)

lemma lexes_nil : Lexes [] [] := by
  intro before
  rw [List.append_nil]
  rfl

/-- Two pieces stand around a mark. -/
lemma Lexes.append_mark (h : Lexes cs ts) (hmark : Mark c token) (h' : Lexes cs' ts') :
    Lexes (cs ++ c :: cs') (ts ++ token :: ts') := by
  intro before
  obtain ⟨state, hrun, hfinish⟩ := Option.bind_eq_some_iff.1 (h before)
  have hrest := h' (token :: (before.reverse ++ ts).reverse)
  rw [LexState.run_append, hrun, Option.bind_some, LexState.run, hmark.step hfinish]
  simpa using hrest

lemma Lexes.mark_cons (hmark : Mark c token) (h : Lexes cs ts) :
    Lexes (c :: cs) (token :: ts) :=
  lexes_nil.append_mark hmark h

lemma Lexes.concat_mark (h : Lexes cs ts) (hmark : Mark c token) :
    Lexes (cs ++ [c]) (ts ++ [token]) :=
  h.append_mark hmark lexes_nil

/-! ## Words -/

lemma lexes_null : Lexes ['n', 'u', 'l', 'l'] [.null] :=
  fun _ => congrArg some List.reverse_cons

lemma lexes_true : Lexes ['t', 'r', 'u', 'e'] [.bool true] :=
  fun _ => congrArg some List.reverse_cons

lemma lexes_false : Lexes ['f', 'a', 'l', 's', 'e'] [.bool false] :=
  fun _ => congrArg some List.reverse_cons

/-! ## Texts -/

variable {before : List Token} {seen : List Char}

/-- A control character is two zeros and two more digits behind its escape. -/
lemma hexPadded_control :
    ∀ n < 0x20, hexPadded 4 n = ['0', '0', (n / 16).digitChar, (n % 16).digitChar] := by
  decide

/-- The escape of a control character is read as that character. -/
lemma run_control (hcontrol : c.toNat < 0x20) (rest : List Char) :
    LexState.run ⟨before, .text ⟨seen, none, true⟩⟩ ('\\' :: 'u' :: hexPadded 4 c.toNat ++ rest) =
      LexState.run ⟨before, .text ⟨c :: seen, none, true⟩⟩ rest := by
  have hhigh := hexValue_digitChar (c.toNat / 16) (by omega)
  have hlow := hexValue_digitChar (c.toNat % 16) (by omega)
  have hzero : hexValue '0' = some 0 := rfl
  have hvalue : 16 * (c.toNat / 16) + c.toNat % 16 = c.toNat := Nat.div_add_mod c.toNat 16
  have hpush : TextSoFar.pushUnit ⟨seen, none, true⟩ c.toNat = ⟨c :: seen, none, true⟩ := by
    rw [TextSoFar.pushUnit, if_neg (by omega), if_neg (by omega), Char.ofNat_toNat]
    rfl
  -- the two zeros add nothing, and the other digits add up to the code of the character
  rw [hexPadded_control c.toNat hcontrol]
  simp [LexState.run, LexState.step, hzero, hhigh, hlow, hvalue, hpush]

/-- A character is read from the way it stands in a text. -/
lemma run_escape (c : Char) (rest : List Char) :
    LexState.run ⟨before, .text ⟨seen, none, true⟩⟩ (escape c ++ rest) =
      LexState.run ⟨before, .text ⟨c :: seen, none, true⟩⟩ rest := by
  by_cases hshort : c ∈ ['"', '\\', '\x08', '\x0c', '\n', '\r', '\t']
  · simp only [List.mem_cons, List.not_mem_nil, or_false] at hshort
    rcases hshort with rfl | rfl | rfl | rfl | rfl | rfl | rfl <;> rfl
  · simp only [List.mem_cons, List.not_mem_nil, or_false, not_or] at hshort
    obtain ⟨hquote, hslash, hb, hf, hn, hr, ht⟩ := hshort
    rw [escape, if_neg hquote, if_neg hslash, if_neg hb, if_neg hf, if_neg hn, if_neg hr, if_neg ht]
    by_cases hcontrol : c.toNat < 0x20
    · rw [if_pos hcontrol]
      exact run_control hcontrol rest
    · rw [if_neg hcontrol, List.singleton_append, LexState.run]
      simp only [LexState.step, if_neg hquote, if_neg hslash, if_neg hcontrol]
      rfl

lemma run_flatMap_escape (cs rest : List Char) :
    LexState.run ⟨before, .text ⟨seen, none, true⟩⟩ (cs.flatMap escape ++ rest) =
      LexState.run ⟨before, .text ⟨cs.reverse ++ seen, none, true⟩⟩ rest := by
  induction cs generalizing seen with
  | nil => rfl
  | cons c cs ih =>
    rw [List.flatMap_cons, List.append_assoc, run_escape, ih, List.reverse_cons, List.append_assoc,
      List.singleton_append]

/-- A text is read back from its quoted characters. -/
lemma lexes_text (t : String) : Lexes (textChars (some t)) [.text (some t)] := by
  intro before
  have hopen : LexState.start ⟨before, .between⟩ '"' = some ⟨before, .text ⟨[], none, true⟩⟩ := rfl
  have hcontent : TextSoFar.content ⟨t.toList.reverse ++ [], none, true⟩ = some t := by
    simp [TextSoFar.content]
  rw [textChars, Option.getD_some, List.cons_append, LexState.run]
  simp only [LexState.step, hopen]
  rw [run_flatMap_escape, LexState.run]
  simp only [LexState.step, if_true, hcontent]
  exact congrArg some List.reverse_cons

/-! ## Numbers -/

lemma start_of_isDigit (h : c.isDigit = true) (hzero : c ≠ '0') (before : List Token) :
    LexState.start ⟨before, .between⟩ c = some ⟨before, .number .integer [c]⟩ := by
  unfold LexState.start
  split
  case h_17 => exact if_pos h
  case h_16 => exact absurd rfl hzero
  all_goals exact absurd h (by decide)

/-- Digits continue an integer. -/
lemma run_digits (h : ∀ c ∈ cs, c.isDigit = true) :
    LexState.run ⟨before, .number .integer seen⟩ cs =
      some ⟨before, .number .integer (cs.reverse ++ seen)⟩ := by
  induction cs generalizing seen with
  | nil => rfl
  | cons c cs ih =>
    obtain ⟨hc, hcs⟩ := List.forall_mem_cons.1 h
    have hnext : NumberPart.integer.next c = some .integer := by simp [NumberPart.next, hc]
    rw [LexState.run]
    simp only [LexState.step, hnext]
    rw [ih hcs, List.reverse_cons, List.append_assoc, List.singleton_append]

/-- A number is read back from its decimal digits. -/
lemma lexes_decimalDigits (n : Nat) : Lexes (decimalDigits n) [.number (decimalDigits n)] := by
  intro before
  have hne : decimalDigits n ≠ [] := Nat.toDigits_ne_nil
  obtain ⟨c, cs, hdigits⟩ := List.exists_cons_of_ne_nil hne
  by_cases hzero : c = '0'
  -- a zero in front ends the integer, so it has to be the only digit
  · have hsingle : decimalDigits n = ['0'] :=
      decimalDigits_of_head? (by rw [hdigits, hzero, List.head?_cons])
    rw [hsingle]
    exact congrArg some List.reverse_cons
  · have hall : ∀ d ∈ c :: cs, d.isDigit = true :=
      fun d hd => isDigit_of_mem_decimalDigits (hdigits ▸ hd)
    obtain ⟨hc, hcs⟩ := List.forall_mem_cons.1 hall
    rw [hdigits, LexState.run]
    simp only [LexState.step, start_of_isDigit hc hzero]
    rw [run_digits hcs, Option.bind_some]
    simp [LexState.finish, NumberPart.isComplete]

end CallDispatch.Json
