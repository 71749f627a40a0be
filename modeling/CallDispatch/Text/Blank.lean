/-!
# Blank characters and trimming

A character is blank when Unicode gives it the property White_Space. `trimmed` removes blanks at
both ends and nothing else: what it leaves starts and ends with a character that is not blank.
-/

namespace CallDispatch.Text

/-- The characters with the Unicode property White_Space. -/
def isBlank (c : Char) : Bool :=
  let n := c.toNat
  (0x09 ≤ n && n ≤ 0x0D) || n == 0x20 || n == 0x85 || n == 0xA0 || n == 0x1680 ||
    (0x2000 ≤ n && n ≤ 0x200A) || n == 0x2028 || n == 0x2029 || n == 0x202F || n == 0x205F ||
    n == 0x3000

/-- The characters without the blanks in front. -/
def withoutLead (cs : List Char) : List Char :=
  cs.dropWhile isBlank

/-- The characters without the blanks at either end. -/
def trimmed (cs : List Char) : List Char :=
  (withoutLead (withoutLead cs).reverse).reverse

/-- The text without the blanks at either end. -/
def trim (text : String) : String :=
  String.ofList (trimmed text.toList)

/-- Neither end of the characters is blank. -/
def Tight (cs : List Char) : Prop :=
  (∀ c ∈ cs.head?, isBlank c = false) ∧ (∀ c ∈ cs.getLast?, isBlank c = false)

instance (cs : List Char) : Decidable (Tight cs) :=
  inferInstanceAs (Decidable ((∀ c ∈ cs.head?, _) ∧ (∀ c ∈ cs.getLast?, _)))

/-- What is left after the leading blanks does not start with one. -/
theorem head_withoutLead (cs : List Char) : ∀ c ∈ (withoutLead cs).head?, isBlank c = false := by
  induction cs with
  | nil => simp [withoutLead]
  | cons a rest ih =>
    by_cases h : isBlank a = true
    · simpa [withoutLead, List.dropWhile_cons, h] using ih
    · simp [withoutLead, h]

/-- Removing leading blanks leaves the last character in place, if anything is left. -/
theorem getLast_withoutLead {cs : List Char} (h : withoutLead cs ≠ []) :
    (withoutLead cs).getLast? = cs.getLast? := by
  induction cs with
  | nil => rfl
  | cons a rest ih =>
    by_cases ha : isBlank a = true
    · simp only [withoutLead, List.dropWhile_cons, ha, if_true] at h ⊢
      have := ih h
      cases rest with
      | nil => simp at h
      | cons b more => simpa [withoutLead, List.getLast?_cons_cons] using this
    · simp [withoutLead, ha]

/-- Nothing is removed from the front of characters that do not start with a blank. -/
theorem withoutLead_eq_self {cs : List Char} (h : ∀ c ∈ cs.head?, isBlank c = false) :
    withoutLead cs = cs := by
  cases cs with
  | nil => rfl
  | cons a rest => simp [withoutLead, h a (by simp)]

/-- Trimming leaves no blank at either end. -/
theorem tight_trimmed (cs : List Char) : Tight (trimmed cs) := by
  refine ⟨?_, ?_⟩
  · by_cases hr : withoutLead (withoutLead cs).reverse = []
    · simp [trimmed, hr]
    · have := getLast_withoutLead hr
      simp only [trimmed, List.head?_reverse, this, List.getLast?_reverse]
      exact head_withoutLead cs
  · simpa [trimmed, List.getLast?_reverse] using head_withoutLead (withoutLead cs).reverse

/-- Trimming changes nothing that has no blank at either end. -/
theorem trimmed_eq_self {cs : List Char} (h : Tight cs) : trimmed cs = cs := by
  have h1 : withoutLead cs = cs := withoutLead_eq_self h.1
  have h2 : withoutLead cs.reverse = cs.reverse := by
    apply withoutLead_eq_self
    simpa [List.head?_reverse] using h.2
  simp [trimmed, h1, h2]

end CallDispatch.Text
