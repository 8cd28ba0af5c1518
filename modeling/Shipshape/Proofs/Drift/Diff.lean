import Mathlib.Data.List.Forall2
import Mathlib.Data.List.Infix
import Mathlib.Order.Bounds.Defs
import Shipshape.Drift.Report

/-!
# Shortest diffs

Every line of a diff starts with a mark of two characters. Without the lines that are added, and without marks, it
is the current text; without those that are dropped it is the desired one. The lines that both have are a longest
common subsequence of the two, so no other diff has fewer changes (`unified_shortest`).

Proof outline. `Script.Longest` says this of one script. A row holds one script for every end of the desired text;
the next row, for a current text with one line more, is made from it by one comparison of two lines for each
script (`Script.longest_best`), so the invariant goes along a row (`longestRow_nextRow`) and from row to row.
-/

namespace Shipshape.Diff

/-! ### Marked lines -/

def mark (line : String) : String := .ofList (line.toList.take 2)

def unmarked (line : String) : String := .ofList (line.toList.drop 2)

/-- The lines with other marks than this one, without their marks. -/
def without (m : String) (lines : List String) : List String :=
  (lines.filter (mark · != m)).map unmarked

/-- The lines that both texts have, without their marks. -/
def commonIn (lines : List String) : List String :=
  (lines.filter (mark · == "  ")).map unmarked

/-- The number of lines that only one text has. -/
def changes (lines : List String) : Nat := lines.countP (mark · != "  ")

/-- Marked lines that lead from one text to another. -/
structure Leads (current desired lines : List String) : Prop where
  marks : ∀ line ∈ lines, mark line = "  " ∨ mark line = "- " ∨ mark line = "+ "
  current : without "+ " lines = current
  desired : without "- " lines = desired

/-- The lengths of the common subsequences of two texts. -/
def commonLengths (current desired : List String) : Set Nat :=
  {n | ∃ common : List String, common.Sublist current ∧ common.Sublist desired ∧ common.length = n}

theorem mark_append {m : String} (hm : m.toList.length = 2) (line : String) : mark (m ++ line) = m := by
  rw [mark, String.toList_append, List.take_append_of_le_length (by omega), ← hm, List.take_length,
    String.ofList_toList]

theorem unmarked_append {m : String} (hm : m.toList.length = 2) (line : String) : unmarked (m ++ line) = line := by
  rw [unmarked, String.toList_append, ← hm, List.drop_left, String.ofList_toList]

@[simp] theorem mark_text : (e : Edit) → mark e.text =
    match e with
    | .keep _ => "  "
    | .drop _ => "- "
    | .add _ => "+ "
  | .keep _ | .drop _ | .add _ => mark_append (by decide) _

@[simp] theorem unmarked_text : (e : Edit) → unmarked e.text =
    match e with
    | .keep line | .drop line | .add line => line
  | .keep _ | .drop _ | .add _ => unmarked_append (by decide) _

section leads

variable {current desired lines : List String}

theorem leads_nil : Leads [] [] [] := ⟨by simp, rfl, rfl⟩

theorem Leads.keep (h : Leads current desired lines) (line : String) :
    Leads (line :: current) (line :: desired) ((Edit.keep line).text :: lines) := by
  refine ⟨?_, ?_, ?_⟩
  · simpa using h.marks
  · simp [without, ← h.current]
  · simp [without, ← h.desired]

theorem Leads.drop (h : Leads current desired lines) (line : String) :
    Leads (line :: current) desired ((Edit.drop line).text :: lines) := by
  refine ⟨?_, ?_, ?_⟩
  · simpa using h.marks
  · simp [without, ← h.current]
  · simp [without, ← h.desired]

theorem Leads.add (h : Leads current desired lines) (line : String) :
    Leads current (line :: desired) ((Edit.add line).text :: lines) := by
  refine ⟨?_, ?_, ?_⟩
  · simpa using h.marks
  · simp [without, ← h.current]
  · simp [without, ← h.desired]

theorem commonIn_sublist_without {m : String} (hm : m ≠ "  ") (lines : List String) :
    (commonIn lines).Sublist (without m lines) := by
  refine (List.monotone_filter_right lines fun line hline => ?_).map unmarked
  rw [beq_iff_eq] at hline
  rw [hline, bne_iff_ne]
  exact hm.symm

theorem Leads.length_commonIn_mem (h : Leads current desired lines) :
    (commonIn lines).length ∈ commonLengths current desired := by
  refine ⟨commonIn lines, ?_, ?_, rfl⟩
  · rw [← h.current]
    exact commonIn_sublist_without (by decide) lines
  · rw [← h.desired]
    exact commonIn_sublist_without (by decide) lines

theorem Leads.length_add_length (h : Leads current desired lines) :
    current.length + desired.length = changes lines + 2 * (commonIn lines).length := by
  rw [← h.current, ← h.desired]
  have hmarks := h.marks
  clear h
  induction lines with
  | nil => rfl
  | cons line lines ih =>
    have ih := ih fun l hl => hmarks l (List.mem_cons_of_mem _ hl)
    simp only [without, commonIn, changes, List.length_map, ← List.countP_eq_length_filter,
      List.countP_cons] at ih ⊢
    rcases hmarks line (List.mem_cons_self ..) with hmark | hmark | hmark
    · simp [hmark]
      omega
    · simp [hmark]
      omega
    · simp [hmark]
      omega

end leads

/-! ### Longest scripts -/

/-- A script that leads from one text to another and keeps as many lines as any can. -/
structure Script.Longest (current desired : List String) (s : Script) : Prop where
  leads : Leads current desired (s.edits.map Edit.text)
  kept : (commonIn (s.edits.map Edit.text)).length = s.kept
  longest : ∀ n ∈ commonLengths current desired, n ≤ s.kept

theorem pred_mem_commonLengths {x y : String} {xs ys : List String} {n : Nat}
    (h : n ∈ commonLengths (x :: xs) (y :: ys)) : n - 1 ∈ commonLengths xs ys := by
  obtain ⟨common, hcurrent, hdesired, rfl⟩ := h
  exact ⟨common.tail, hcurrent.tail, hdesired.tail, List.length_tail⟩

theorem mem_commonLengths_of_ne {x y : String} {xs ys : List String} {n : Nat} (hne : x ≠ y)
    (h : n ∈ commonLengths (x :: xs) (y :: ys)) :
    n ∈ commonLengths xs (y :: ys) ∨ n ∈ commonLengths (x :: xs) ys := by
  obtain ⟨common, hcurrent, hdesired, rfl⟩ := h
  rcases List.sublist_cons_iff.1 hcurrent with hcurrent' | ⟨rest, rfl, -⟩
  · exact .inl ⟨common, hcurrent', hdesired, rfl⟩
  · rcases List.sublist_cons_iff.1 hdesired with hdesired' | ⟨rest', hrest, -⟩
    · exact .inr ⟨x :: rest, hcurrent, hdesired', rfl⟩
    · exact absurd (List.cons.inj hrest).1 hne

theorem eq_zero_of_mem_commonLengths {current : List String} {n : Nat} (h : n ∈ commonLengths current []) :
    n = 0 := by
  obtain ⟨common, -, hdesired, rfl⟩ := h
  rw [List.sublist_nil.1 hdesired, List.length_nil]

namespace Script

variable {x y : String} {xs ys : List String} {withoutX withoutBoth withoutY : Script}

theorem longest_add_all : (ys : List String) → Longest [] ys ⟨0, ys.map .add⟩
  | [] => ⟨leads_nil, rfl, fun _ hn => (eq_zero_of_mem_commonLengths hn).le⟩
  | y :: ys => by
    have ih := longest_add_all ys
    refine ⟨ih.leads.add y, ?_, ?_⟩
    · simp [commonIn]
    · rintro n ⟨common, hcurrent, -, rfl⟩
      rw [List.sublist_nil.1 hcurrent]
      exact Nat.le_refl 0

theorem Longest.drop {s : Script} (h : Longest xs ys s)
    (hlongest : ∀ n ∈ commonLengths (x :: xs) ys, n ≤ s.kept) :
    Longest (x :: xs) ys ⟨s.kept, .drop x :: s.edits⟩ := by
  refine ⟨h.leads.drop x, ?_, hlongest⟩
  rw [← h.kept]
  simp [commonIn]

theorem Longest.add {s : Script} (h : Longest xs ys s)
    (hlongest : ∀ n ∈ commonLengths xs (y :: ys), n ≤ s.kept) :
    Longest xs (y :: ys) ⟨s.kept, .add y :: s.edits⟩ := by
  refine ⟨h.leads.add y, ?_, hlongest⟩
  rw [← h.kept]
  simp [commonIn]

theorem Longest.keep {s : Script} (h : Longest xs ys s) :
    Longest (x :: xs) (x :: ys) ⟨s.kept + 1, .keep x :: s.edits⟩ := by
  refine ⟨h.leads.keep x, ?_, fun n hn => ?_⟩
  · rw [← h.kept]
    simp [commonIn]
  · have hpred := h.longest _ (pred_mem_commonLengths hn)
    show n ≤ s.kept + 1
    omega

theorem longest_best (hx : Longest xs (y :: ys) withoutX) (hboth : Longest xs ys withoutBoth)
    (hy : Longest (x :: xs) ys withoutY) : Longest (x :: xs) (y :: ys) (best x y withoutX withoutBoth withoutY) := by
  unfold best
  split
  · next heq =>
    subst heq
    exact hboth.keep
  · next hne =>
    have hbound : ∀ n ∈ commonLengths (x :: xs) (y :: ys), n ≤ withoutX.kept ∨ n ≤ withoutY.kept :=
      fun n hn => (mem_commonLengths_of_ne hne hn).imp (hx.longest n) (hy.longest n)
    split
    · next hle =>
      refine hx.drop fun n hn => ?_
      have := hbound n hn
      omega
    · next hlt =>
      refine hy.add fun n hn => ?_
      have := hbound n hn
      omega

end Script

/-! ### Rows of scripts -/

/-- The scripts of one text with every end of another. -/
def LongestRow (current desired : List String) (row : List Script) : Prop :=
  List.Forall₂ (Script.Longest current) desired.tails row

theorem longestRow_emptyRow : (desired : List String) → LongestRow [] desired (emptyRow desired)
  | [] => .cons (Script.longest_add_all []) .nil
  | y :: ys => .cons (Script.longest_add_all (y :: ys)) (longestRow_emptyRow ys)

variable {x : String} {xs ys current desired : List String} {row : List Script}

theorem LongestRow.exists_cons (h : LongestRow current desired row) :
    ∃ s rest, row = s :: rest ∧ s.Longest current desired := by
  have htails : ∃ ends, desired.tails = desired :: ends := by
    cases desired with
    | nil => exact ⟨[], rfl⟩
    | cons y ys => exact ⟨ys.tails, rfl⟩
  obtain ⟨ends, htails⟩ := htails
  rw [LongestRow, htails] at h
  obtain ⟨s, rest, hs, -, rfl⟩ := List.forall₂_cons_left_iff.1 h
  exact ⟨s, rest, rfl, hs⟩

theorem longestRow_nextRow (h : LongestRow xs ys row) : LongestRow (x :: xs) ys (nextRow x ys row) := by
  -- From the end of the row: the script behind in the same row is one of the three that are compared.
  induction ys generalizing row with
  | nil =>
    obtain ⟨s, rest, hs, hrest, rfl⟩ := List.forall₂_cons_left_iff.1 h
    rw [List.forall₂_nil_left_iff.1 hrest]
    refine .cons (hs.drop fun n hn => ?_) .nil
    rw [eq_zero_of_mem_commonLengths hn]
    exact Nat.zero_le _
  | cons y ys ih =>
    obtain ⟨withoutX, below, hx, hbelow, rfl⟩ := List.forall₂_cons_left_iff.1 h
    have hnext : LongestRow (x :: xs) ys (nextRow x ys below) := ih hbelow
    obtain ⟨withoutBoth, belowRest, rfl, hboth⟩ := LongestRow.exists_cons hbelow
    obtain ⟨withoutY, nextRest, hrow, hy⟩ := hnext.exists_cons
    have hstep : nextRow x (y :: ys) (withoutX :: withoutBoth :: belowRest) =
        .best x y withoutX withoutBoth withoutY :: withoutY :: nextRest := by
      simp only [nextRow, hrow]
    rw [hrow] at hnext
    rw [hstep]
    exact .cons (Script.longest_best hx hboth hy) hnext

theorem longestRow_foldr (desired : List String) : (current : List String) →
    LongestRow current desired (current.foldr (fun x below => nextRow x desired below) (emptyRow desired))
  | [] => longestRow_emptyRow desired
  | _ :: xs => longestRow_nextRow (longestRow_foldr desired xs)

theorem longest_script (current desired : List String) : (script current desired).Longest current desired := by
  obtain ⟨s, rest, hrow, hs⟩ := (longestRow_foldr desired current).exists_cons
  rw [script, hrow]
  exact hs

/-! ### The diff -/

/-- The lines of a diff below its header. -/
def body (current desired : List String) : List String := (script current desired).edits.map Edit.text

/-- The lines below the header lead from one text to the other, keep a longest common subsequence of them, and
have no more changes than any others that lead there. -/
theorem unified_shortest (current desired : List String) :
    unified current desired = "\n".intercalate (header current desired ++ body current desired) ++ "\n" ∧
      Leads current desired (body current desired) ∧
      IsGreatest (commonLengths current desired) (commonIn (body current desired)).length ∧
      ∀ lines, Leads current desired lines → changes (body current desired) ≤ changes lines := by
  have h := longest_script current desired
  have hgreatest : IsGreatest (commonLengths current desired) (commonIn (body current desired)).length := by
    refine ⟨h.leads.length_commonIn_mem, fun n hn => ?_⟩
    rw [body, h.kept]
    exact h.longest n hn
  refine ⟨rfl, h.leads, hgreatest, fun lines hlines => ?_⟩
  have hcommon := hgreatest.2 hlines.length_commonIn_mem
  have hlength := hlines.length_add_length
  have hshortest : current.length + desired.length =
      changes (body current desired) + 2 * (commonIn (body current desired)).length := h.leads.length_add_length
  omega

example : body ["a", "b", "b"] ["b", "c"] = ["- a", "  b", "- b", "+ c"] := by decide +kernel

end Shipshape.Diff
