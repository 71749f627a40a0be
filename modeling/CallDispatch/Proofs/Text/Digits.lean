import CallDispatch.Text.Decimal
import CallDispatch.Text.Hex
import Mathlib.Algebra.Group.Nat.Defs
import Mathlib.Data.List.Basic
import Mathlib.Tactic.Lemma

/-!
# Digits

The characters of a number are the digits of its base (`of_mem_toDigits`), and from its decimal or
hexadecimal digits the number is read back (`readUpTo_decimal`, `hexNumber_hexDigits`), whatever
zeros stand in front of it.
-/

namespace CallDispatch.Text

variable {limit zeros n : Nat} {cs : List Char}

/-- What holds of the digits of a base holds of the characters of every number. -/
lemma of_mem_toDigits {p : Char → Prop} {base : Nat} (hbase : 1 < base)
    (hdigit : ∀ d < base, p (Nat.digitChar d)) (n : Nat) : ∀ c ∈ Nat.toDigits base n, p c := by
  induction n using Nat.strongRecOn with
  | ind n ih =>
    intro c hc
    rw [Nat.toDigits_eq_if hbase] at hc
    by_cases hsmall : n < base
    · rw [if_pos hsmall, List.mem_singleton] at hc
      subst hc
      exact hdigit n hsmall
    · have hshorter : n / base < n := Nat.div_lt_self (by omega) hbase
      rw [if_neg hsmall, List.mem_append, List.mem_singleton] at hc
      rcases hc with hc | rfl
      · exact ih (n / base) hshorter c hc
      · exact hdigit (n % base) (Nat.mod_lt n (by omega))

/-! ## Decimal numbers -/

lemma isDigit_of_mem_decimalDigits {c : Char} (h : c ∈ decimalDigits n) : c.isDigit = true :=
  Nat.isDigit_of_mem_toDigits (by decide) (by decide) h

/-- Only zero begins with a zero. -/
lemma decimalDigits_of_head? (h : (decimalDigits n).head? = some '0') :
    decimalDigits n = ['0'] := by
  induction n using Nat.strongRecOn with
  | ind n ih =>
    rw [decimalDigits, Nat.toDigits_eq_if (by decide)] at h ⊢
    by_cases hsmall : n < 10
    · rw [if_pos hsmall] at h ⊢
      exact congrArg (fun c => [c]) (Option.some.inj h)
    · have hsame : (Nat.toDigits 10 (n / 10) ++ [(n % 10).digitChar]).head? =
          (Nat.toDigits 10 (n / 10)).head? :=
        List.head?_append_of_ne_nil _ Nat.toDigits_ne_nil
      rw [if_neg hsmall, hsame] at h
      -- the digits in front of the last one are those of a number that is not zero
      have hfront : Nat.toDigits 10 (n / 10) = ['0'] := ih (n / 10) (by omega) h
      have hvalue : Nat.ofDigitChars 10 (Nat.toDigits 10 (n / 10)) 0 = n / 10 :=
        Nat.ofDigitChars_toDigits (by decide) (by decide)
      rw [hfront] at hvalue
      have hzero : 0 = n / 10 := hvalue
      omega

/-- A digit is no sign. -/
lemma readUnsigned_of_isDigit (limit : Nat) (h : ∀ c ∈ cs, c.isDigit = true) :
    readUnsigned limit cs = readUpTo limit cs := by
  unfold readUnsigned
  split
  · exact absurd (h '+' List.mem_cons_self) (by decide)
  · rfl

/-- Zeros in front do not count. -/
lemma decimalValue_replicate_append (zeros : Nat) (cs : List Char) :
    decimalValue (List.replicate zeros '0' ++ cs) = decimalValue cs := by
  induction zeros with
  | zero => rfl
  | succ zeros ih => exact ih

lemma isDigit_of_mem_padded {c : Char} (h : c ∈ List.replicate zeros '0' ++ decimalDigits n) :
    c.isDigit = true := by
  rcases List.mem_append.1 h with hc | hc
  · rw [(List.mem_replicate.1 hc).2]
    rfl
  · exact isDigit_of_mem_decimalDigits hc

/-- A number is read from its decimal digits, unless it is too large. -/
lemma readUpTo_padded (limit zeros n : Nat) :
    readUpTo limit (List.replicate zeros '0' ++ decimalDigits n) =
      if n ≤ limit then some n else none := by
  have hne : List.replicate zeros '0' ++ decimalDigits n ≠ [] :=
    List.append_ne_nil_of_right_ne_nil _ Nat.toDigits_ne_nil
  have hvalue : decimalValue (decimalDigits n) = n :=
    Nat.ofDigitChars_toDigits (by decide) (by decide)
  rw [readUpTo, readDecimal,
    if_pos ⟨hne, List.all_eq_true.2 fun _ hc => isDigit_of_mem_padded hc⟩,
    decimalValue_replicate_append, hvalue, Option.filter_some]
  simp only [decide_eq_true_eq]

lemma readUnsigned_padded (limit zeros n : Nat) :
    readUnsigned limit (List.replicate zeros '0' ++ decimalDigits n) =
      if n ≤ limit then some n else none := by
  rw [readUnsigned_of_isDigit limit fun _ hc => isDigit_of_mem_padded hc, readUpTo_padded]

/-- A number that is not too large is read from its decimal digits. -/
lemma readUpTo_decimalDigits (h : n ≤ limit) : readUpTo limit (decimalDigits n) = some n := by
  have hread := readUpTo_padded limit 0 n
  rw [if_pos h] at hread
  exact hread

/-! ## Hexadecimal numbers -/

lemma hexValue_digitChar : ∀ d < 16, hexValue (Nat.digitChar d) = some d := by
  decide

/-- The last digit counts least. -/
lemma hexNumber_concat (cs : List Char) (c : Char) :
    hexNumber (cs ++ [c]) =
      (hexNumber cs).bind fun value => (hexValue c).map (16 * value + ·) := by
  rw [hexNumber, List.foldl_append]
  rfl

/-- A number is read from its hexadecimal digits. -/
lemma hexNumber_hexDigits (n : Nat) : hexNumber (hexDigits n) = some n := by
  induction n using Nat.strongRecOn with
  | ind n ih =>
    rw [hexDigits, Nat.toDigits_eq_if (by decide)]
    by_cases hsmall : n < 16
    · rw [if_pos hsmall, ← List.nil_append [n.digitChar], hexNumber_concat,
        hexValue_digitChar n hsmall]
      exact congrArg some (Nat.zero_add n)
    · have hfront : hexNumber (Nat.toDigits 16 (n / 16)) = some (n / 16) := ih (n / 16) (by omega)
      rw [if_neg hsmall, hexNumber_concat, hfront, hexValue_digitChar _ (Nat.mod_lt n (by decide))]
      exact congrArg some (Nat.div_add_mod n 16)

lemma length_hexDigits_le {width : Nat} (hpos : 0 < width) (h : n < 16 ^ width) :
    (hexDigits n).length ≤ width :=
  (Nat.length_toDigits_le_iff (by decide) hpos).2 h

/-- What holds of the hexadecimal digits holds of the characters of every padded number. -/
lemma of_mem_hexPadded {p : Char → Prop} (hdigit : ∀ d < 16, p (Nat.digitChar d)) (width n : Nat) :
    ∀ c ∈ hexPadded width n, p c := by
  intro c hc
  rcases List.mem_append.1 hc with hc | hc
  · rw [(List.mem_replicate.1 hc).2]
    exact hdigit 0 (by decide)
  · exact of_mem_toDigits (by decide) hdigit n c hc

/-- Padded digits are as many as asked for, unless the number has more. -/
lemma length_hexPadded {width : Nat} (hpos : 0 < width) (h : n < 16 ^ width) :
    (hexPadded width n).length = width := by
  have hle : (hexDigits n).length ≤ width := length_hexDigits_le hpos h
  simp only [hexPadded, List.length_append, List.length_replicate]
  omega

end CallDispatch.Text
