import Mathlib.Data.Set.Insert
import Shipshape.Name
import Shipshape.Proofs.Name

/-!
# Sets of capabilities

A list stands for the set of the capabilities that it names (`named`), whatever their order and spelling. Live
capabilities are the desired ones exactly if no desired one is missing and everything besides is the engine's own
(`equivalent_iff`). The canonical set is a normal form of the list, and one of itself unless a name has more than one
`cap_` in front of it, or blanks behind that (`canonicalSet_normal_iff`).
-/

namespace Shipshape.Capability

variable {names names' : List String} {n : String}

/-- The capabilities that are named in a list, by their canonical names. A blank name is none. -/
def named (names : List String) : Set String := {n | n ≠ "" ∧ ∃ name ∈ names, canonicalName name = n}

theorem mem_canonicalSet : n ∈ canonicalSet names ↔ n ∈ named names := by
  rw [canonicalSet, SortedSet.mem_ofList, List.mem_filter, List.mem_map, bne_iff_ne, and_comm]
  rfl

theorem named_append (names names' : List String) : named (names ++ names') = named names ∪ named names' := by
  ext n
  rw [Set.mem_union, ← mem_canonicalSet, ← mem_canonicalSet, ← mem_canonicalSet]
  simp only [canonicalSet, SortedSet.mem_ofList, List.map_append, List.filter_append, List.mem_append]

theorem named_mono (h : names ⊆ names') : named names ⊆ named names' := by
  rintro n ⟨hne, name, hname, hcanonical⟩
  exact ⟨hne, name, h hname, hcanonical⟩

theorem named_of_canonicalSet (h : canonicalSet names = [n]) : named names = {n} := by
  ext n'
  rw [← mem_canonicalSet, h, List.mem_singleton, Set.mem_singleton_iff]

theorem canonicalSet_eq_iff : canonicalSet names = canonicalSet names' ↔ named names = named names' := by
  rw [Set.ext_iff]
  constructor
  · intro h n
    rw [← mem_canonicalSet, h, mem_canonicalSet]
  · intro h
    refine SortedSet.eq_of_pairwise (SortedSet.pairwise_ofList _) (SortedSet.pairwise_ofList _) fun n => ?_
    exact mem_canonicalSet.trans ((h n).trans mem_canonicalSet.symm)

/-! ### The canonical set of a canonical set -/

theorem canonicalSet_eq_of_mem_iff (h : ∀ name, name ∈ names ↔ name ∈ names') :
    canonicalSet names = canonicalSet names' := by
  rw [canonicalSet_eq_iff, named, named]
  simp only [h]

theorem canonicalName_of_mem_canonicalSet (hnames : ∀ name ∈ names, ¬ Name.Doubled "cap_".toList name)
    (hn : n ∈ canonicalSet names) : canonicalName n = n := by
  obtain ⟨-, name, hname, rfl⟩ := mem_canonicalSet.1 hn
  exact (Name.canonical_canonical_iff (by decide)).2 (hnames name hname)

theorem canonicalSet_canonicalSet_iff : canonicalSet (canonicalSet names) = canonicalSet names ↔
    ∀ name ∈ names, ¬ Name.Doubled "cap_".toList name := by
  constructor
  · intro hsame name hname
    have honto : canonicalSet names ⊆ (canonicalSet names).map canonicalName := by
      intro n hn
      rw [← hsame] at hn
      exact List.mem_map.2 (mem_canonicalSet.1 hn).2
    have hlower : ∀ n ∈ canonicalSet names, Name.IsLower n := by
      intro n hn
      obtain ⟨-, name, -, rfl⟩ := mem_canonicalSet.1 hn
      exact Name.isLower_canonical _ name
    have hfixed := @Name.canonical_eq_of_onto "cap_".toList _ hlower honto
    rw [← Name.canonical_canonical_iff (by decide)]
    by_cases hblank : canonicalName name = ""
    · -- a blank name is in no set, but its canonical form is canonical
      show canonicalName (canonicalName name) = canonicalName name
      rw [hblank]
      rfl
    · exact hfixed _ (mem_canonicalSet.2 ⟨hblank, name, hname, rfl⟩)
  · intro hnames
    rw [canonicalSet_eq_iff]
    refine Set.ext fun n => Iff.trans ?_ mem_canonicalSet
    constructor
    · rintro ⟨-, m, hm, rfl⟩
      rwa [canonicalName_of_mem_canonicalSet hnames hm]
    · intro hn
      exact ⟨(mem_canonicalSet.1 hn).1, n, hn, canonicalName_of_mem_canonicalSet hnames hn⟩

/-- The canonical set of a list is strictly increasing and depends on nothing but the members of the list. It is its
own canonical set exactly if no name in the list is doubled. -/
theorem canonicalSet_normal_iff (names : List String) :
    (canonicalSet names).Pairwise (compare · · = .lt) ∧
    (∀ names', (∀ name, name ∈ names' ↔ name ∈ names) → canonicalSet names' = canonicalSet names) ∧
    (canonicalSet (canonicalSet names) = canonicalSet names ↔
      ∀ name ∈ names, ¬ Name.Doubled "cap_".toList name) :=
  ⟨SortedSet.pairwise_ofList _, fun _ h => canonicalSet_eq_of_mem_iff h, canonicalSet_canonicalSet_iff⟩

/-- Two spellings of one capability, a beginning with nothing behind it, and the same names backwards and again. -/
theorem canonicalSet_normal_iff_spellings :
    let names := ["SYS_ADMIN", " cap_net_raw", "CAP_", "CAP_SYS_ADMIN"]
    (canonicalSet names).Pairwise (compare · · = .lt) ∧
    canonicalSet (names.reverse ++ names) = canonicalSet names ∧
    canonicalSet names = ["net_raw", "sys_admin"] ∧ ∀ name ∈ names, ¬ Name.Doubled "cap_".toList name := by
  intro names
  obtain ⟨hincreasing, hmembers, hagain⟩ := canonicalSet_normal_iff names
  have hset : canonicalSet names = ["net_raw", "sys_admin"] := by decide +kernel
  have hsame : canonicalSet (canonicalSet names) = canonicalSet names := by decide +kernel
  refine ⟨hincreasing, hmembers _ fun name => ?_, hset, hagain.1 hsame⟩
  rw [List.mem_append, List.mem_reverse, or_self]

/-- Of two beginnings one is taken off, so the set that is left names another capability than its own canonical set. -/
theorem doubled_capability_changes : canonicalSet ["CAP_CAP_X"] = ["cap_x"] ∧
    canonicalSet (canonicalSet ["CAP_CAP_X"]) = ["x"] := by
  decide +kernel

/-! ### Live capabilities -/

/-- No desired capability is missing, and what there is besides is the engine's own. -/
theorem equivalent_iff {desired live implicit : List String} : equivalent desired live implicit = true ↔
    named desired ⊆ named live ∧ named live \ named desired ⊆ named implicit := by
  have hkept : ∀ n, n ∈ (canonicalSet live).filter (fun c =>
      !(canonicalSet implicit).contains c || (canonicalSet desired).contains c) ↔
        n ∈ named live ∧ (n ∈ named implicit → n ∈ named desired) := by
    intro n
    rw [List.mem_filter, mem_canonicalSet, Bool.or_eq_true, Bool.not_eq_true', Bool.eq_false_iff, Ne,
      List.contains_iff_mem, List.contains_iff_mem, mem_canonicalSet, mem_canonicalSet, ← imp_iff_not_or]
  rw [equivalent, beq_iff_eq]
  constructor
  · intro hsame
    have hmem : ∀ n, n ∈ named desired ↔ n ∈ named live ∧ (n ∈ named implicit → n ∈ named desired) := by
      intro n
      rw [← hkept, ← hsame, mem_canonicalSet]
    refine ⟨fun n hn => ((hmem n).1 hn).1, fun n hn => ?_⟩
    by_contra hown
    exact hn.2 ((hmem n).2 ⟨hn.1, fun himplicit => absurd himplicit hown⟩)
  · rintro ⟨hsubset, hrest⟩
    refine SortedSet.eq_of_pairwise (SortedSet.pairwise_ofList _) ((SortedSet.pairwise_ofList _).filter _) fun n => ?_
    rw [hkept, mem_canonicalSet]
    constructor
    · intro hn
      exact ⟨hsubset hn, fun _ => hn⟩
    · rintro ⟨hlive, himplicit⟩
      by_contra hn
      exact hn (himplicit (hrest ⟨hlive, hn⟩))

end Shipshape.Capability
