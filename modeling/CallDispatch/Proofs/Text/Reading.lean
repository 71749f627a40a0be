import CallDispatch.Text.Blank
import CallDispatch.Text.Case
import CallDispatch.Text.Pieces
import Mathlib.Data.List.TakeDrop
import Mathlib.Data.List.TakeWhile
import Mathlib.Tactic.Lemma

/-!
# Reading what was put together

Characters that were put together around a separator are cut apart there, if the side on which the
cut is looked for holds no other one, and into all of their pieces if no piece holds one. Trimming
takes away the blanks at both ends and nothing else (`Text.trim_eq_iff`), so that what has no blank
at its ends is found again among the blanks put around it.

## Main definitions

* `Text.Begins`: characters that begin with a lead, whatever the case of its letters.
* `Text.Padded`: a text with blanks around it.
-/

namespace CallDispatch.Text

variable {sep : Char} {before behind cs : List Char}

/-! ## Leads -/

/-- The characters begin with a lead, in any letter case. -/
def Begins (lead : String) (cs : List Char) : Prop :=
  ∃ head rest, cs = head ++ rest ∧ sameLetters (String.ofList head) lead = true

/-- No lead is dropped from characters that do not begin with it. -/
lemma dropLead_eq_none {lead : String} (h : ¬Begins lead cs) : dropLead lead cs = none := by
  unfold dropLead
  exact if_neg fun hlead => h ⟨_, _, (List.take_append_drop lead.length cs).symm, hlead⟩

/-- Characters that begin with a lead begin with it in upper case. -/
lemma Begins.map_toUpper {lead : String} (h : Begins lead cs) :
    lead.toList.map Char.toUpper <+: cs.map Char.toUpper := by
  obtain ⟨head, rest, rfl, hhead⟩ := h
  have hupper := congrArg String.toList (sameLetters_iff.1 hhead)
  rw [toList_upper, toList_upper, String.toList_ofList] at hupper
  rw [List.map_append, hupper]
  exact List.prefix_append _ _

/-- A character stands in no text with the letters of a word in which it does not stand. -/
lemma notMem_of_sameLetters {word : String} {c : Char}
    (h : sameLetters (String.ofList cs) word = true) (hc : c.toUpper ∉ (upper word).toList) :
    c ∉ cs := by
  intro hmem
  have hupper := congrArg String.toList (sameLetters_iff.1 h)
  rw [toList_upper, String.toList_ofList] at hupper
  exact hc (hupper ▸ List.mem_map_of_mem hmem)

/-! ## Separators -/

/-- A list is split in front of the first separator. -/
lemma span_append_cons {α : Type} [BEq α] [LawfulBEq α] {sep : α} {before : List α}
    (h : sep ∉ before) (behind : List α) :
    (before ++ sep :: behind).span (· != sep) = (before, sep :: behind) := by
  have hpass : ∀ a ∈ before, (a != sep) = true :=
    fun _ ha => bne_iff_ne.2 fun heq => h (heq ▸ ha)
  rw [List.span_eq_takeWhile_dropWhile, List.takeWhile_append_of_pos hpass,
    List.dropWhile_append_of_pos hpass]
  simp

/-- A list without separators stays in one piece. -/
lemma span_of_notMem {α : Type} [BEq α] [LawfulBEq α] {sep : α} {items : List α}
    (h : sep ∉ items) : items.span (· != sep) = (items, []) := by
  have hpass : ∀ a ∈ items, (a != sep) = true :=
    fun _ ha => bne_iff_ne.2 fun heq => h (heq ▸ ha)
  rw [List.span_eq_takeWhile_dropWhile, List.takeWhile_eq_self_iff.2 hpass,
    List.dropWhile_eq_nil_iff.2 hpass]

/-- Characters are cut at the first separator. -/
lemma cutFirst_append (h : sep ∉ before) (behind : List Char) :
    cutFirst sep (before ++ sep :: behind) = some (before, behind) := by
  rw [cutFirst, span_append_cons h]

lemma cutFirst_eq_none (h : sep ∉ cs) : cutFirst sep cs = none := by
  rw [cutFirst, span_of_notMem h]

/-- What is cut apart was around a separator. -/
lemma eq_of_cutFirst (h : cutFirst sep cs = some (before, behind)) :
    cs = before ++ sep :: behind := by
  by_cases hmem : sep ∈ cs
  · obtain ⟨first, rest, rfl, hfirst⟩ := List.eq_append_cons_of_mem hmem
    rw [cutFirst_append hfirst] at h
    cases h
    rfl
  · rw [cutFirst_eq_none hmem] at h
    cases h

/-- Characters are cut at the last separator. -/
lemma cutLast_append (h : sep ∉ behind) (before : List Char) :
    cutLast sep (before ++ sep :: behind) = some (before, behind) := by
  have hreverse : (before ++ sep :: behind).reverse = behind.reverse ++ sep :: before.reverse := by
    simp
  rw [cutLast, hreverse, cutFirst_append (by simpa using h)]
  simp

lemma cutLast_eq_none (h : sep ∉ cs) : cutLast sep cs = none := by
  rw [cutLast, cutFirst_eq_none (by simpa using h), Option.map_none]

/-- What stands behind the last separator is everything where there is none. -/
lemma elim_cutLast (front : Option (List Char)) (h : sep ∉ behind) :
    (cutLast sep (front.elim [] (· ++ [sep]) ++ behind)).elim
      (front.elim [] (· ++ [sep]) ++ behind) Prod.snd = behind := by
  cases front with
  | none =>
    rw [Option.elim_none, List.nil_append, cutLast_eq_none h]
    rfl
  | some front =>
    rw [Option.elim_some, List.append_assoc, List.singleton_append, cutLast_append h]
    rfl

/-- What goes up to a stop goes no further. -/
lemma upTo_append {stops : List Char} (h : ∀ c ∈ before, c ∉ stops)
    (hbehind : ∀ c ∈ behind.head?, c ∈ stops) : upTo stops (before ++ behind) = before := by
  have hpass : ∀ c ∈ before, (!stops.contains c) = true := by simpa using h
  have hstop : behind.takeWhile (!stops.contains ·) = [] := by
    cases behind with
    | nil => rfl
    | cons c rest =>
      have hc : c ∈ stops := hbehind c rfl
      exact List.takeWhile_cons_of_neg (by simpa using hc)
  rw [upTo, List.takeWhile_append_of_pos hpass, hstop, List.append_nil]

/-! ## Pieces -/

lemma pieces_eq_splitOn (sep : Char) (cs : List Char) : pieces sep cs = cs.splitOn sep := by
  induction cs with
  | nil => rfl
  | cons c cs ih =>
    rw [pieces_cons, ih, List.splitOn_cons_eq_if_modifyHead]
    by_cases hsep : c = sep
    · rw [if_pos hsep, if_pos (beq_iff_eq.2 hsep)]
    · rw [if_neg hsep, if_neg (by simpa using hsep)]
      cases hrest : cs.splitOn sep with
      | nil => exact absurd hrest (List.splitOn_ne_nil sep cs)
      | cons piece rest => rfl

/-- Parts without separators are told apart by the separators between them. -/
lemma pieces_intercalate {parts : List (List Char)} (hne : parts ≠ [])
    (hfree : ∀ part ∈ parts, sep ∉ part) : pieces sep ([sep].intercalate parts) = parts := by
  rw [pieces_eq_splitOn, List.splitOn_intercalate sep hfree hne]

lemma pieces_of_notMem (h : sep ∉ cs) : pieces sep cs = [cs] := by
  have hpieces : pieces sep ([sep].intercalate [cs]) = [cs] :=
    pieces_intercalate (List.cons_ne_nil cs []) (by simpa using h)
  rwa [List.intercalate_singleton] at hpieces

lemma split_intercalate {sep : Char} {separator : String} (hseparator : separator.toList = [sep])
    {fields : List String} (hne : fields ≠ []) (hfree : ∀ field ∈ fields, sep ∉ field.toList) :
    split sep (separator.intercalate fields) = fields := by
  have hlists : ∀ cs ∈ fields.map String.toList, sep ∉ cs := by
    intro cs hcs
    obtain ⟨field, hfield, rfl⟩ := List.mem_map.1 hcs
    exact hfree field hfield
  rw [split, String.toList_intercalate, hseparator, pieces_intercalate (by simpa using hne) hlists,
    List.map_map]
  simp [Function.comp_def]

/-- The pieces on both sides of a separator are the pieces of what stands there. -/
lemma pieces_append_cons (sep : Char) (before behind : List Char) :
    pieces sep (before ++ sep :: behind) = pieces sep before ++ pieces sep behind := by
  simp only [pieces_eq_splitOn, List.splitOn_append_cons_self]

/-- A separator between two texts parts the pieces of the one from those of the other. -/
lemma split_append {sep : Char} {separator : String} (hseparator : separator.toList = [sep])
    (text other : String) :
    split sep (text ++ separator ++ other) = split sep text ++ split sep other := by
  have hchars : (text ++ separator ++ other).toList = text.toList ++ sep :: other.toList := by
    rw [String.toList_append, String.toList_append, hseparator, List.append_assoc,
      List.singleton_append]
  rw [split, hchars, pieces_append_cons, List.map_append]
  rfl

/-- There is no separator in a piece. -/
lemma not_mem_of_mem_pieces {piece : List Char} (h : piece ∈ pieces sep cs) :
    sep ∉ piece := by
  induction cs generalizing piece with
  | nil =>
    obtain rfl : piece = [] := List.mem_singleton.1 h
    exact List.not_mem_nil
  | cons c cs ih =>
    rw [pieces_cons] at h
    by_cases hsep : c = sep
    · rw [if_pos hsep] at h
      rcases List.mem_cons.1 h with rfl | hrest
      · exact List.not_mem_nil
      · exact ih hrest
    · rw [if_neg hsep] at h
      cases hpieces : pieces sep cs with
      | nil => exact absurd hpieces (pieces_ne_nil sep cs)
      | cons first rest =>
        rw [hpieces, extendFirst] at h
        rcases List.mem_cons.1 h with rfl | hrest
        · have hfirst : sep ∉ first := ih (hpieces ▸ List.mem_cons_self)
          exact List.not_mem_cons_of_ne_of_not_mem (Ne.symm hsep) hfirst
        · exact ih (hpieces ▸ List.mem_cons_of_mem first hrest)

/-- The separators between the texts put them together again. -/
lemma intercalate_split {sep : Char} {separator : String} (hseparator : separator.toList = [sep])
    (text : String) : separator.intercalate (split sep text) = text := by
  rw [← String.toList_inj, String.toList_intercalate, split, List.map_map, pieces_eq_splitOn,
    hseparator]
  have hchars : String.toList ∘ String.ofList = id := funext fun _ => String.toList_ofList
  rw [hchars, List.map_id]
  exact List.intercalate_splitOn sep

/-- Each text stands in one piece between the separators. -/
lemma isInfix_intercalate {separator field : String} {fields : List String}
    (h : field ∈ fields) : field.toList <:+: (separator.intercalate fields).toList := by
  induction fields with
  | nil => cases h
  | cons first rest ih =>
    cases rest with
    | nil =>
      have hfield : field = first := List.mem_singleton.1 h
      simp [hfield]
    | cons other more =>
      rw [String.intercalate_cons_cons, String.toList_append]
      rcases List.mem_cons.1 h with rfl | hrest
      · rw [String.toList_append, List.append_assoc]
        exact (List.prefix_append _ _).isInfix
      · exact (ih hrest).trans (List.suffix_append _ _).isInfix

/-- What holds of the characters of a separator and of all parts holds of all characters. -/
lemma of_mem_intercalate {p : Char → Prop} {sep : List Char} {parts : List (List Char)}
    (hsep : ∀ c ∈ sep, p c) (h : ∀ part ∈ parts, ∀ c ∈ part, p c) :
    ∀ c ∈ sep.intercalate parts, p c := by
  induction parts with
  | nil => exact nofun
  | cons part parts ih =>
    have hpart := h part List.mem_cons_self
    have hrest := ih fun other hother => h other (List.mem_cons_of_mem part hother)
    cases parts with
    | nil =>
      rw [List.intercalate_singleton]
      exact hpart
    | cons other rest =>
      rw [List.intercalate_cons_cons, List.forall_mem_append, List.forall_mem_append]
      exact ⟨⟨hpart, hsep⟩, hrest⟩

/-! ## Blanks -/

lemma withoutLead_append (h : ∀ c ∈ before, isBlank c = true) (cs : List Char) :
    withoutLead (before ++ cs) = withoutLead cs :=
  List.dropWhile_append_of_pos h

/-- No end is blank where nothing is. -/
lemma tight_of_forall (h : ∀ c ∈ cs, isBlank c = false) : Tight cs :=
  ⟨fun c hc => h c (List.mem_of_mem_head? hc), fun c hc => h c (List.mem_of_getLast? hc)⟩

/-- Blanks around characters without blanks at their ends are trimmed. -/
lemma trimmed_append (hbefore : ∀ c ∈ before, isBlank c = true) (hcs : Tight cs)
    (hbehind : ∀ c ∈ behind, isBlank c = true) : trimmed (before ++ cs ++ behind) = cs := by
  have hback : withoutLead cs.reverse = cs.reverse :=
    withoutLead_eq_self fun c hc => hcs.2 c (by rwa [List.head?_reverse] at hc)
  rw [trimmed, List.append_assoc, withoutLead_append hbefore]
  cases cs with
  | nil =>
    have hall := withoutLead_append hbehind []
    rw [List.append_nil] at hall
    rw [List.nil_append, hall]
    rfl
  | cons c rest =>
    have hfront : withoutLead (c :: rest ++ behind) = c :: rest ++ behind :=
      withoutLead_eq_self hcs.1
    rw [hfront, List.reverse_append, withoutLead_append (by simpa using hbehind), hback,
      List.reverse_reverse]

/-- Leading blanks are all that is removed from the front. -/
lemma exists_blanks_withoutLead (cs : List Char) :
    ∃ before, cs = before ++ withoutLead cs ∧ ∀ c ∈ before, isBlank c = true :=
  ⟨cs.takeWhile isBlank, List.takeWhile_append_dropWhile.symm,
    fun _ hc => List.mem_takeWhile_imp hc⟩

/-- Blanks at the ends are all that is trimmed. -/
lemma exists_blanks_trimmed (cs : List Char) :
    ∃ before behind, cs = before ++ trimmed cs ++ behind ∧
      (∀ c ∈ before, isBlank c = true) ∧ ∀ c ∈ behind, isBlank c = true := by
  obtain ⟨before, hfront, hbefore⟩ := exists_blanks_withoutLead cs
  obtain ⟨behind, hback, hbehind⟩ := exists_blanks_withoutLead (withoutLead cs).reverse
  have hrest : withoutLead cs = trimmed cs ++ behind.reverse := by
    rw [trimmed, ← List.reverse_append, ← hback, List.reverse_reverse]
  refine ⟨before, behind.reverse, ?_, hbefore, by simpa using hbehind⟩
  rw [List.append_assoc, ← hrest]
  exact hfront

/-- The text is `core` with blanks around it, if any. -/
def Padded (core text : String) : Prop :=
  ∃ before behind, text.toList = before ++ core.toList ++ behind ∧
    (∀ c ∈ before, isBlank c = true) ∧ ∀ c ∈ behind, isBlank c = true

/-- Trimming leaves just what has blanks around it and none at its own ends. -/
lemma trim_eq_iff {core text : String} :
    trim text = core ↔ Tight core.toList ∧ Padded core text := by
  constructor
  · rintro rfl
    rw [Padded, trim, String.toList_ofList]
    exact ⟨tight_trimmed text.toList, exists_blanks_trimmed text.toList⟩
  · rintro ⟨htight, before, behind, htext, hbefore, hbehind⟩
    rw [trim, htext, trimmed_append hbefore htight hbehind, String.ofList_toList]

end CallDispatch.Text
