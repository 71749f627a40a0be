import Mathlib.Data.List.Basic
import Mathlib.Tactic.Lemma

/-!
# Looking up in lists of pairs

What is found under a key when entries were put in front, changed or dropped.
-/

namespace CallDispatch

variable {α β : Type} [BEq α] [LawfulBEq α]

/-- Looking up what is kept under another key. -/
lemma lookup_cons_of_ne {a b : α} {c : β} {entries : List (α × β)} (h : a ≠ b) :
    ((b, c) :: entries).lookup a = entries.lookup a := by
  rw [List.lookup_cons, beq_eq_false_iff_ne.2 h]

/-- Looking up where each value was changed. -/
lemma lookup_map_values (change : α → β → β) (entries : List (α × β)) (a : α) :
    (entries.map fun (b, c) => (b, change b c)).lookup a = (entries.lookup a).map (change a) := by
  induction entries with
  | nil => rfl
  | cons entry rest ih =>
    obtain ⟨b, c⟩ := entry
    by_cases hkey : a = b
    · subst hkey
      simp
    · rw [List.map_cons, lookup_cons_of_ne hkey, lookup_cons_of_ne hkey]
      exact ih

/-- Looking up where one key was dropped. -/
lemma lookup_filter_ne [DecidableEq α] (entries : List (α × β)) (a b : α) :
    (entries.filter (·.1 ≠ b)).lookup a = if a = b then none else entries.lookup a := by
  induction entries with
  | nil => simp
  | cons entry rest ih =>
    obtain ⟨key, c⟩ := entry
    by_cases hdropped : key = b
    · rw [List.filter_cons_of_neg (by simpa using hdropped), ih]
      split
      · rfl
      · next hne =>
        rw [lookup_cons_of_ne (hdropped ▸ hne)]
    · rw [List.filter_cons_of_pos (by simpa using hdropped)]
      by_cases hkey : a = key
      · subst hkey
        simp [hdropped]
      · rw [lookup_cons_of_ne hkey, lookup_cons_of_ne hkey, ih]

/-- What is looked up under two keys stands at two places. -/
lemma two_le_countP {entries : List (α × β)} {a b : α} {c d : β} {p : α × β → Bool} (hne : a ≠ b)
    (ha : entries.lookup a = some c) (hb : entries.lookup b = some d) (hpa : p (a, c) = true)
    (hpb : p (b, d) = true) : 2 ≤ entries.countP p := by
  have hmem : ∀ {key : α} {value : β}, entries.lookup key = some value →
      (key, value) ∈ entries := by
    intro key value hlookup
    obtain ⟨before, behind, rfl, -⟩ := List.lookup_eq_some_iff.1 hlookup
    simp
  obtain ⟨before, behind, rfl⟩ := List.append_of_mem (hmem ha)
  have hother : (b, d) ∈ before ++ behind := by
    have hb' := hmem hb
    simp only [List.mem_append, List.mem_cons, Prod.mk.injEq] at hb' ⊢
    rcases hb' with hb' | ⟨hsame, -⟩ | hb'
    · exact Or.inl hb'
    · exact absurd hsame.symm hne
    · exact Or.inr hb'
  have hpos : 0 < (before ++ behind).countP p := List.countP_pos_iff.2 ⟨(b, d), hother, hpb⟩
  rw [List.countP_append] at hpos
  rw [List.countP_append, List.countP_cons, if_pos hpa]
  omega

end CallDispatch
