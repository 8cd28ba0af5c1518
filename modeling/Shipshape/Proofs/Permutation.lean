import Mathlib.Algebra.Order.BigOperators.Group.List
import Mathlib.Algebra.Order.Ring.Nat
import Shipshape.Drift.Comparison

/-!
# Rearrangements

Sorting forgets the order of texts and nothing else. A function that shortens whatever it changes, and only
rearranges a list, changes nothing in it. Where entries may be repeated, or some do not count at all, a list can
be rearranged further (`Rearranged`); what counts of it stays.
-/

namespace Shipshape

theorem compare_isLE_total (a b : String) : (compare a b).isLE = true ∨ (compare b a).isLE = true := by
  have hswap : compare b a = (compare a b).swap := Std.OrientedCmp.eq_swap
  rw [hswap]
  cases compare a b with
  | lt => exact .inl rfl
  | eq => exact .inl rfl
  | gt => exact .inr rfl

theorem pairwise_sortedTexts (l : List String) :
    (sortedTexts l).Pairwise fun a b => (compare a b).isLE = true := by
  refine List.pairwise_mergeSort (fun a b c => Std.TransCmp.isLE_trans) (fun a b => ?_) l
  rw [Bool.or_eq_true]
  exact compare_isLE_total a b

theorem sortedTexts_perm (l : List String) : (sortedTexts l).Perm l := List.mergeSort_perm l _

theorem sortedTexts_eq_iff {l l' : List String} : sortedTexts l = sortedTexts l' ↔ l.Perm l' := by
  constructor
  · intro h
    have hl := (sortedTexts_perm l).symm
    rw [h] at hl
    exact hl.trans (sortedTexts_perm l')
  · intro h
    have hperm := (sortedTexts_perm l).trans (h.trans (sortedTexts_perm l').symm)
    refine hperm.eq_of_pairwise (fun a b _ _ hab hba => ?_) (pairwise_sortedTexts l) (pairwise_sortedTexts l')
    exact Std.LawfulEqOrd.eq_of_compare (Std.OrientedCmp.isLE_antisymm hab hba)

/-! ### Shortening -/

section shortening

variable {α : Type} {size : α → Nat} {f : α → α}

theorem sum_map_le {l : List α} (h : ∀ a ∈ l, size (f a) ≤ size a) :
    ((l.map f).map size).sum ≤ (l.map size).sum := by
  induction l with
  | nil => exact Nat.le_refl 0
  | cons b l ih =>
    rw [List.forall_mem_cons] at h
    have hrest := ih h.2
    have hb := h.1
    simp only [List.map_cons, List.sum_cons]
    omega

theorem size_eq_of_sum_eq {l : List α} (hle : ∀ a ∈ l, size (f a) ≤ size a)
    (hsum : ((l.map f).map size).sum = (l.map size).sum) : ∀ a ∈ l, size (f a) = size a := by
  induction l with
  | nil => nofun
  | cons b l ih =>
    rw [List.forall_mem_cons] at hle
    have hrest := sum_map_le hle.2
    simp only [List.map_cons, List.sum_cons] at hsum
    have hb := hle.1
    rw [List.forall_mem_cons]
    exact ⟨by omega, ih hle.2 (by omega)⟩

theorem eq_of_perm_map {l : List α} (hle : ∀ a ∈ l, size (f a) ≤ size a)
    (heq : ∀ a ∈ l, size (f a) = size a → f a = a) (h : (l.map f).Perm l) : ∀ a ∈ l, f a = a := by
  intro a ha
  have hsum : ((l.map f).map size).sum = (l.map size).sum := (h.map size).sum_eq
  exact heq a ha (size_eq_of_sum_eq hle hsum a ha)

/-- What shortens the elements of a list that it changes, and reaches all of them, changes none: the longest one
that it changed would have to be reached from a longer one. -/
theorem eq_of_onto {reads : α → α → Prop} {l : List α} (hunique : ∀ a b b', reads a b → reads a b' → b = b')
    (hshort : ∀ a b, reads a b → size b < size a ∨ b = a) (honto : ∀ b ∈ l, ∃ a ∈ l, reads a b) :
    ∀ a ∈ l, reads a a := by
  have hbound : ∀ a ∈ l, size a ≤ (l.map size).sum := fun a ha =>
    List.single_le_sum (fun _ _ => Nat.zero_le _) _ (List.mem_map_of_mem ha)
  -- the longer an element is, the less is left of the bound
  have hall : ∀ left, ∀ a ∈ l, (l.map size).sum - size a < left → reads a a := by
    intro left
    induction left with
    | zero => exact fun _ _ h => absurd h (Nat.not_lt_zero _)
    | succ left ih =>
      intro b hb hleft
      obtain ⟨a, ha, hreads⟩ := honto b hb
      rcases hshort a b hreads with hlt | rfl
      · have hlonger := hbound a ha
        have heq := hunique a b a hreads (ih a ha (by omega))
        rw [heq] at hlt
        exact absurd hlt (Nat.lt_irrefl _)
      · exact hreads
  exact fun a ha => hall _ a ha (Nat.lt_succ_self _)

end shortening

/-! ### Entries that are repeated or do not count -/

/-- A list is put in another order, entries are repeated if they may be, and entries that do not count come or
go. -/
inductive Rearranged {α : Type} (repeats : Prop) (suppressed : α → Prop) : List α → List α → Prop
  | reorder {l l' : List α} (h : l.Perm l') : Rearranged repeats suppressed l l'
  | again {l : List α} {a : α} (h : repeats) (ha : a ∈ l) : Rearranged repeats suppressed l (a :: l)
  | add {l : List α} {a : α} (ha : suppressed a) : Rearranged repeats suppressed l (a :: l)
  | symm {l l' : List α} (h : Rearranged repeats suppressed l l') : Rearranged repeats suppressed l' l
  | trans {l l' l'' : List α} (h : Rearranged repeats suppressed l l')
      (h' : Rearranged repeats suppressed l' l'') : Rearranged repeats suppressed l l''

namespace Rearranged

variable {α β : Type} {repeats : Prop} {suppressed : α → Prop} {l l' : List α}

theorem refl (l : List α) : Rearranged repeats suppressed l l := reorder (.refl l)

theorem exists_iff (h : Rearranged repeats suppressed l l') {p : α → Prop} (hp : ∀ a, suppressed a → ¬ p a) :
    (∃ a ∈ l, p a) ↔ ∃ a ∈ l', p a := by
  induction h with
  | reorder h => simp only [h.mem_iff]
  | again _ ha =>
    rw [List.exists_mem_cons_iff]
    exact ⟨.inr, fun h => h.elim (fun h => ⟨_, ha, h⟩) id⟩
  | add ha =>
    rw [List.exists_mem_cons_iff]
    exact ⟨.inr, fun h => h.elim (fun h => absurd h (hp _ ha)) id⟩
  | symm _ ih => exact ih.symm
  | trans _ _ ih ih' => exact ih.trans ih'

theorem forall_iff (h : Rearranged repeats suppressed l l') {p : α → Prop} (hp : ∀ a, suppressed a → p a) :
    (∀ a ∈ l, p a) ↔ ∀ a ∈ l', p a := by
  have hnone := not_congr (h.exists_iff (p := fun a => ¬ p a) fun a ha => not_not.2 (hp a ha))
  simpa only [not_exists, not_and, not_not] using hnone

theorem filter_perm (h : Rearranged False suppressed l l') {p : α → Bool} (hp : ∀ a, suppressed a → p a = false) :
    (l.filter p).Perm (l'.filter p) := by
  induction h with
  | reorder h => exact h.filter p
  | again h => exact h.elim
  | add ha =>
    rw [List.filter_cons_of_neg (by rw [hp _ ha]; exact Bool.false_ne_true)]
  | symm _ ih => exact ih.symm
  | trans _ _ ih ih' => exact ih.trans ih'

theorem perm (h : Rearranged False (fun _ => False) l l') : l.Perm l' := by
  have hall := h.filter_perm (p := fun _ => true) fun _ ha => ha.elim
  rwa [List.filter_true, List.filter_true] at hall

theorem map {f : α → β} {suppressed : β → Prop} (h : Rearranged repeats (fun a => suppressed (f a)) l l') :
    Rearranged repeats suppressed (l.map f) (l'.map f) := by
  induction h with
  | reorder h => exact reorder (h.map f)
  | again h ha => exact again h (List.mem_map_of_mem ha)
  | add ha => exact add ha
  | symm _ ih => exact ih.symm
  | trans _ _ ih ih' => exact ih.trans ih'

end Rearranged

end Shipshape
