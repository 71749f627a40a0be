/-!
# Letter case of ASCII texts

Method names, schemes and parameter names are compared without regard to the case of ASCII
letters; every other character stands for itself. `sameLetters` is that comparison and `upper`
its normal form: two texts have the same letters iff their upper-case forms are equal.
-/

namespace CallDispatch.Text

/-- The text with its ASCII letters in upper case. -/
def upper (text : String) : String :=
  String.ofList (text.toList.map Char.toUpper)

/-- The text with its ASCII letters in lower case. -/
def lower (text : String) : String :=
  String.ofList (text.toList.map Char.toLower)

/-- Whether two texts differ at most in the case of ASCII letters. -/
def sameLetters (a b : String) : Bool :=
  upper a == upper b

/-- Upper case is taken character by character. -/
theorem toList_upper (text : String) : (upper text).toList = text.toList.map Char.toUpper := by
  simp [upper]

/-- Texts have the same letters iff they agree in upper case. -/
theorem sameLetters_iff {a b : String} : sameLetters a b = true ↔ upper a = upper b := by
  simp [sameLetters]

/-- Removes `lead` from the front of the characters, without regard to letter case. -/
def dropLead (lead : String) (cs : List Char) : Option (List Char) :=
  let head := cs.take lead.length
  if sameLetters (String.ofList head) lead then some (cs.drop lead.length) else none

end CallDispatch.Text
