/-!
# Sorted sets

A finite set is kept as the strictly increasing list of its members, so two sets with the same
members are equal as lists (`SortedSet.ofList_eq_ofList_iff`). `SortedSet.insert` and
`SortedSet.ofList` are the only ways in which the library builds one.
-/

namespace Shipshape.SortedSet

variable {α : Type}

/-- Puts `a` at its place; a member that is already there is kept once. -/
def insert [Ord α] (a : α) : List α → List α
  | [] => [a]
  | b :: l =>
    match compare a b with
    | .lt => a :: b :: l
    | .eq => b :: l
    | .gt => b :: insert a l

/-- The members of a list, each once, in increasing order. -/
def ofList [Ord α] (l : List α) : List α :=
  l.foldr insert []

@[simp] theorem ofList_nil [Ord α] : ofList ([] : List α) = [] := rfl

@[simp] theorem ofList_cons [Ord α] (a : α) (l : List α) : ofList (a :: l) = insert a (ofList l) :=
  rfl

section Order

variable [Ord α] [Std.TransOrd α]

theorem eq_of_pairwise {l r : List α} (hl : l.Pairwise (compare · · = .lt))
    (hr : r.Pairwise (compare · · = .lt)) (h : ∀ a, a ∈ l ↔ a ∈ r) : l = r := by
  have asymm : ∀ {a b : α}, compare a b = .lt → compare b a ≠ .lt := fun hab hba => by
    simp [Std.OrientedCmp.gt_of_lt hab] at hba
  induction l generalizing r with
  | nil => exact (List.eq_nil_iff_forall_not_mem.2 fun a ha => by simpa using (h a).2 ha).symm
  | cons a l ih =>
    obtain ⟨ha, hl⟩ := List.pairwise_cons.1 hl
    cases r with
    | nil => simpa using (h a).1 (List.mem_cons_self ..)
    | cons b r =>
      obtain ⟨hb, hr'⟩ := List.pairwise_cons.1 hr
      have hab : a = b := by
        rcases List.mem_cons.1 ((h a).1 (List.mem_cons_self ..)) with rfl | har
        · rfl
        · rcases List.mem_cons.1 ((h b).2 (List.mem_cons_self ..)) with rfl | hbl
          · rfl
          · exact absurd (ha b hbl) (asymm (hb a har))
      subst hab
      refine congrArg (a :: ·) (ih hl hr' fun c => ⟨fun hc => ?_, fun hc => ?_⟩)
      · rcases List.mem_cons.1 ((h c).1 (List.mem_cons_of_mem _ hc)) with rfl | hc'
        · exact absurd (ha c hc) (asymm (ha c hc))
        · exact hc'
      · rcases List.mem_cons.1 ((h c).2 (List.mem_cons_of_mem _ hc)) with rfl | hc'
        · exact absurd (hb c hc) (asymm (hb c hc))
        · exact hc'

end Order

variable [Ord α] [Std.LawfulEqOrd α]

@[simp] theorem mem_insert {a b : α} {l : List α} : b ∈ insert a l ↔ b = a ∨ b ∈ l := by
  induction l with
  | nil => simp [insert]
  | cons c l ih =>
    rw [insert]
    split
    · simp
    · next h => simp [Std.LawfulEqOrd.eq_of_compare h]
    · simp [ih, or_left_comm]

@[simp] theorem mem_ofList {b : α} {l : List α} : b ∈ ofList l ↔ b ∈ l := by
  induction l with
  | nil => simp
  | cons a l ih => simp [ih]

variable [Std.TransOrd α]

theorem pairwise_insert (a : α) {l : List α} (h : l.Pairwise (compare · · = .lt)) :
    (insert a l).Pairwise (compare · · = .lt) := by
  induction l with
  | nil => simp [insert]
  | cons c l ih =>
    obtain ⟨hc, hl⟩ := List.pairwise_cons.1 h
    rw [insert]
    split
    · next hac =>
      refine List.pairwise_cons.2 ⟨fun b hb => ?_, h⟩
      rcases List.mem_cons.1 hb with rfl | hb
      · exact hac
      · exact Std.TransCmp.lt_trans hac (hc b hb)
    · exact h
    · next hac =>
      refine List.pairwise_cons.2 ⟨fun b hb => ?_, ih hl⟩
      rcases mem_insert.1 hb with rfl | hb
      · exact Std.OrientedCmp.lt_of_gt hac
      · exact hc b hb

theorem pairwise_ofList (l : List α) : (ofList l).Pairwise (compare · · = .lt) := by
  induction l with
  | nil => exact .nil
  | cons a l ih => exact pairwise_insert a ih

/-- Two sets are equal iff they were built from the same members. -/
theorem ofList_eq_ofList_iff {l r : List α} :
    ofList l = ofList r ↔ ∀ a, a ∈ l ↔ a ∈ r :=
  ⟨fun h a => by rw [← mem_ofList, h, mem_ofList],
    fun h => eq_of_pairwise (pairwise_ofList l) (pairwise_ofList r) (by simpa using h)⟩

end Shipshape.SortedSet
