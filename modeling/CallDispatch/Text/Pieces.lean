/-!
# Cutting texts at separators

Three ways to cut a list of characters: at every occurrence of a separator (`pieces`), at its first
one (`cutFirst`) or its last one (`cutLast`), and at the first line break (`cutLine`).
-/

namespace CallDispatch.Text

/-- Puts a character in front of the first piece. -/
def extendFirst (c : Char) : List (List Char) → List (List Char)
  | [] => [[c]]
  | piece :: rest => (c :: piece) :: rest

/-- The pieces between the occurrences of `sep`: one more than there are occurrences. -/
def pieces (sep : Char) (cs : List Char) : List (List Char) :=
  cs.foldr (fun c rest => if c = sep then [] :: rest else extendFirst c rest) [[]]

/-- The texts between the occurrences of `sep`. -/
def split (sep : Char) (text : String) : List String :=
  (pieces sep text.toList).map String.ofList

/-- What stands before and after the first occurrence of `sep`. -/
def cutFirst (sep : Char) (cs : List Char) : Option (List Char × List Char) :=
  match cs.span (· != sep) with
  | (_, []) => none
  | (before, _ :: after) => some (before, after)

/-- What stands before and after the last occurrence of `sep`. -/
def cutLast (sep : Char) (cs : List Char) : Option (List Char × List Char) :=
  (cutFirst sep cs.reverse).map fun (after, before) => (before.reverse, after.reverse)

/-- What stands before the first character of `stops`: everything if there is none. -/
def upTo (stops : List Char) (cs : List Char) : List Char :=
  cs.takeWhile (!stops.contains ·)

/-- Looks for a line break behind `seen`, the characters passed so far, last one first. -/
def cutLineFrom (seen : List Char) : List Char → Option (List Char × List Char)
  | [] => none
  | c :: rest =>
    if c = '\r' ∧ rest.head? = some '\n' then some (seen.reverse, rest.tail)
    else cutLineFrom (c :: seen) rest

/-- What stands before and after the first line break (a carriage return and a line feed). -/
def cutLine (cs : List Char) : Option (List Char × List Char) :=
  cutLineFrom [] cs

@[simp] theorem pieces_nil (sep : Char) : pieces sep [] = [[]] := rfl

/-- A separator starts a new piece, and any other character belongs to the first one. -/
theorem pieces_cons (sep c : Char) (cs : List Char) :
    pieces sep (c :: cs) = if c = sep then [] :: pieces sep cs else extendFirst c (pieces sep cs) :=
  rfl

/-- There is always a piece, if only an empty one. -/
theorem pieces_ne_nil (sep : Char) (cs : List Char) : pieces sep cs ≠ [] := by
  cases cs with
  | nil => simp
  | cons c rest =>
    rw [pieces_cons]
    split
    · simp
    · cases pieces sep rest <;> simp [extendFirst]

end CallDispatch.Text
