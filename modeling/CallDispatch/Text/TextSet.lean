/-!
# Sets of texts

A finite set of texts, kept as its members in ascending order of code points, so that two sets with
the same members are equal (`TextSet.ext_mem`) and listing a set is reading off its members.
-/

namespace CallDispatch

namespace Text

/-- Puts a text at its place in an ascending list, unless it is there already. -/
def insertAscending (t : String) : List String → List String
  | [] => [t]
  | u :: rest =>
    if t < u then t :: u :: rest
    else if t = u then u :: rest
    else u :: insertAscending t rest

/-- Insertion adds the text and nothing else. -/
theorem mem_insertAscending {t u : String} {ts : List String} :
    u ∈ insertAscending t ts ↔ u = t ∨ u ∈ ts := by
  induction ts with
  | nil => simp [insertAscending]
  | cons a rest ih =>
    rw [insertAscending]
    split
    · simp
    · split
      · rename_i h
        subst h
        simp
      · simp only [List.mem_cons, ih]
        exact ⟨fun h => by rcases h with h | h | h <;> simp [h],
          fun h => by rcases h with h | h | h <;> simp [h]⟩

/-- Insertion keeps the order. -/
theorem pairwise_insertAscending {t : String} {ts : List String} (h : ts.Pairwise (· < ·)) :
    (insertAscending t ts).Pairwise (· < ·) := by
  induction ts with
  | nil => simp [insertAscending]
  | cons a rest ih =>
    obtain ⟨ha, hrest⟩ := List.pairwise_cons.1 h
    rw [insertAscending]
    split
    · rename_i hlt
      refine List.pairwise_cons.2 ⟨fun b hb => ?_, h⟩
      rcases List.mem_cons.1 hb with rfl | hb
      · exact hlt
      · exact String.lt_trans hlt (ha b hb)
    · split
      · exact h
      · rename_i hnlt hne
        refine List.pairwise_cons.2 ⟨fun b hb => ?_, ih hrest⟩
        rcases mem_insertAscending.1 hb with rfl | hb
        · rcases String.le_total a b with hab | hba
          · rcases Decidable.em (a < b) with hlt | hlt
            · exact hlt
            · exact absurd (String.le_antisymm hab (String.not_lt.1 hlt)).symm hne
          · exact absurd (String.le_antisymm (String.not_lt.1 hnlt) hba).symm hne
        · exact ha b hb

/-- Ascending lists with the same members are equal. -/
theorem eq_of_ascending {ts us : List String} (ht : ts.Pairwise (· < ·)) (hu : us.Pairwise (· < ·))
    (h : ∀ t, t ∈ ts ↔ t ∈ us) : ts = us := by
  induction ts generalizing us with
  | nil =>
    cases us with
    | nil => rfl
    | cons u more => exact absurd ((h u).2 (by simp)) (by simp)
  | cons a rest ih =>
    obtain ⟨ha, hrest⟩ := List.pairwise_cons.1 ht
    cases us with
    | nil => exact absurd ((h a).1 (by simp)) (by simp)
    | cons u more =>
      obtain ⟨hu', hmore⟩ := List.pairwise_cons.1 hu
      have hau : a = u := by
        rcases List.mem_cons.1 ((h a).1 (by simp)) with hau | hamore
        · exact hau
        · rcases List.mem_cons.1 ((h u).2 (by simp)) with hua | hurest
          · exact hua.symm
          · exact absurd (String.lt_trans (hu' a hamore) (ha u hurest)) (String.lt_irrefl u)
      subst hau
      congr 1
      refine ih hrest hmore fun t => ⟨fun hmem => ?_, fun hmem => ?_⟩
      · rcases List.mem_cons.1 ((h t).1 (List.mem_cons_of_mem _ hmem)) with rfl | hm
        · exact absurd (ha t hmem) (String.lt_irrefl t)
        · exact hm
      · rcases List.mem_cons.1 ((h t).2 (List.mem_cons_of_mem _ hmem)) with rfl | hm
        · exact absurd (hu' t hmem) (String.lt_irrefl t)
        · exact hm

end Text

/-- A set of texts, listed in ascending order. -/
structure TextSet where
  toList : List String
  ascending : toList.Pairwise (· < ·)
deriving DecidableEq

namespace TextSet

/-- The set without members. -/
def empty : TextSet := ⟨[], .nil⟩

instance : Inhabited TextSet := ⟨empty⟩

instance : Membership String TextSet := ⟨fun set t => t ∈ set.toList⟩

instance (t : String) (set : TextSet) : Decidable (t ∈ set) :=
  inferInstanceAs (Decidable (t ∈ set.toList))

/-- The set with `t` added. -/
def insert (set : TextSet) (t : String) : TextSet :=
  ⟨Text.insertAscending t set.toList, Text.pairwise_insertAscending set.ascending⟩

/-- The members of a list, each once. -/
def ofList (ts : List String) : TextSet :=
  ts.foldl insert empty

/-- How many members the set has. -/
def size (set : TextSet) : Nat :=
  set.toList.length

/-- Whether the set has no members. -/
def isEmpty (set : TextSet) : Bool :=
  set.toList.isEmpty

/-- Sets with the same members are equal. -/
theorem ext_mem {a b : TextSet} (h : ∀ t, t ∈ a ↔ t ∈ b) : a = b := by
  obtain ⟨as, ha⟩ := a
  obtain ⟨bs, hb⟩ := b
  have : as = bs := Text.eq_of_ascending ha hb h
  subst this
  rfl

@[simp] theorem not_mem_empty (t : String) : ¬ t ∈ empty :=
  List.not_mem_nil

@[simp] theorem mem_insert {t u : String} {set : TextSet} : u ∈ set.insert t ↔ u = t ∨ u ∈ set :=
  Text.mem_insertAscending

/-- A set without members contains no text. -/
theorem isEmpty_iff {set : TextSet} : set.isEmpty = true ↔ ∀ t, ¬ t ∈ set :=
  List.isEmpty_iff.trans List.eq_nil_iff_forall_not_mem

/-- Inserting a list of texts adds its members. -/
theorem mem_foldl_insert {t : String} {ts : List String} {set : TextSet} :
    t ∈ ts.foldl insert set ↔ t ∈ set ∨ t ∈ ts := by
  induction ts generalizing set with
  | nil => simp
  | cons a rest ih => rw [List.foldl_cons, ih]; simp [or_assoc, or_left_comm]

@[simp] theorem mem_ofList {t : String} {ts : List String} : t ∈ ofList ts ↔ t ∈ ts := by
  simp [ofList, mem_foldl_insert]

end TextSet

end CallDispatch
