import Mathlib.Data.List.Nodup
import Mathlib.Data.List.Perm.Subperm
import Shipshape.Dict

/-!
# Looking up names

What a dictionary holds that was filled with a list of entries, and when a list holds the entries of a
dictionary already.
-/

namespace Shipshape.Dict

variable {α β : Type} {d : Dict α} {l : List (String × α)} {k : String} {v : α}

/-! ### Lists of entries -/

theorem lookup_eq_none_iff : l.lookup k = none ↔ k ∉ l.map Prod.fst := by
  rw [List.lookup_eq_none_iff, List.mem_map]
  constructor
  · rintro h ⟨e, he, rfl⟩
    simpa using h e he
  · intro h e he
    have hne : k ≠ e.1 := fun hk => h ⟨e, he, hk.symm⟩
    simpa using hne

theorem mem_of_lookup (h : l.lookup k = some v) : (k, v) ∈ l := by
  obtain ⟨before, behind, rfl, -⟩ := List.lookup_eq_some_iff.1 h
  exact List.mem_append_right _ (List.mem_cons_self ..)

theorem lookup_of_mem (hl : (l.map Prod.fst).Nodup) (h : (k, v) ∈ l) : l.lookup k = some v := by
  induction l with
  | nil => cases h
  | cons e l ih =>
    obtain ⟨hne, hl⟩ := List.nodup_cons.1 hl
    rw [lookup_cons]
    rcases List.mem_cons.1 h with rfl | h
    · exact if_pos rfl
    · have hk : k ≠ e.1 := by
        rintro rfl
        exact hne (List.mem_map.2 ⟨_, h, rfl⟩)
      rw [if_neg hk, ih hl h]

theorem lookup_map (f : String → α → β) (l : List (String × α)) (k : String) :
    (l.map fun e => (e.1, f e.1 e.2)).lookup k = (l.lookup k).map (f k) := by
  induction l with
  | nil => rfl
  | cons e l ih =>
    rw [List.map_cons, lookup_cons, lookup_cons, ih]
    by_cases hk : k = e.1
    · rw [if_pos hk, if_pos hk, hk, Option.map_some]
    · rw [if_neg hk, if_neg hk]

theorem lookup_reverse (hl : (l.map Prod.fst).Nodup) (k : String) : l.reverse.lookup k = l.lookup k := by
  have hreverse : (l.reverse.map Prod.fst).Nodup := by
    rw [List.map_reverse, List.nodup_reverse]
    exact hl
  refine Option.ext fun v => ?_
  constructor
  · intro h
    exact lookup_of_mem hl (List.mem_reverse.1 (mem_of_lookup h))
  · intro h
    exact lookup_of_mem hreverse (List.mem_reverse.2 (mem_of_lookup h))

/-! ### What a dictionary holds -/

theorem nodup_keys (d : Dict α) : d.keys.Nodup := by
  refine d.ordered.imp fun {a b} hab => ?_
  rintro rfl
  rw [Std.ReflOrd.compare_self] at hab
  cases hab

theorem get?_eq_none_iff : d.get? k = none ↔ k ∉ d.keys := lookup_eq_none_iff

theorem get?_eq_some_iff : d.get? k = some v ↔ (k, v) ∈ d.entries :=
  ⟨mem_of_lookup, lookup_of_mem d.nodup_keys⟩

theorem mem_keys_iff : k ∈ d.keys ↔ (d.get? k).isSome = true := by
  rw [Option.isSome_iff_ne_none, ne_eq, get?_eq_none_iff, not_not]

/-- Two dictionaries are equal if they give every name the same value. -/
@[ext] theorem ext {d' : Dict α} (h : ∀ k, d.get? k = d'.get? k) : d = d' := by
  have hmem : ∀ e, e ∈ d.entries ↔ e ∈ d'.entries := fun e => by
    rw [← get?_eq_some_iff (k := e.1), h, get?_eq_some_iff]
  have hperm : d.entries.Perm d'.entries :=
    (List.perm_ext_iff_of_nodup (.of_map _ d.nodup_keys) (.of_map _ d'.nodup_keys)).2 hmem
  have hentries : d.entries = d'.entries := by
    refine hperm.eq_of_pairwise (fun a b _ _ hab hba => ?_) (List.pairwise_map.1 d.ordered)
      (List.pairwise_map.1 d'.ordered)
    rw [Std.OrientedCmp.gt_of_lt hab] at hba
    cases hba
  cases d
  cases d'
  cases hentries
  rfl

theorem isEmpty_iff : d.isEmpty = true ↔ d = ∅ := by
  rw [isEmpty, List.isEmpty_iff]
  constructor
  · intro h
    ext k : 1
    rw [get?, h]
    rfl
  · rintro rfl
    rfl

theorem isEmpty_eq_false_iff : d.isEmpty = false ↔ d ≠ ∅ := by
  rw [← Bool.not_eq_true, isEmpty_iff]

theorem contains_iff : d.contains k = true ↔ k ∈ d.keys := mem_keys_iff.symm

theorem mem_keys_insert {k' : String} : k' ∈ (d.insert k v).keys ↔ k' = k ∨ k' ∈ d.keys := by
  rw [keys_insert, SortedSet.mem_insert]

theorem mem_of_mem_insert {e : String × α} (h : e ∈ (d.insert k v).entries) : e = (k, v) ∨ e ∈ d.entries := by
  have hget : (d.insert k v).get? e.1 = some e.2 := get?_eq_some_iff.2 h
  rw [get?_insert] at hget
  split at hget
  · next hk => exact .inl (Prod.ext hk (Option.some.inj hget).symm)
  · exact .inr (get?_eq_some_iff.1 hget)

theorem get?_filter (d : Dict α) (p : String × α → Bool) (k : String) :
    (d.filter p).get? k = (d.get? k).filter fun v => p (k, v) := by
  refine Option.ext fun v => ?_
  rw [get?_eq_some_iff, Option.filter_eq_some_iff, get?_eq_some_iff]
  exact List.mem_filter

theorem filter_eq_self {p : String × α → Bool} (h : ∀ e ∈ d.entries, p e = true) : d.filter p = d := by
  ext k : 1
  rw [get?_filter]
  cases hk : d.get? k with
  | none => rfl
  | some v => exact Option.filter_some_pos (h _ (get?_eq_some_iff.1 hk))

theorem get?_erase (d : Dict α) (k k' : String) : (d.erase k).get? k' = if k' = k then none else d.get? k' := by
  rw [erase, get?_filter]
  by_cases hk : k' = k
  · simp [hk]
  · cases d.get? k' <;> simp [hk]

theorem get?_mapEntries (f : String → α → β) (d : Dict α) (k : String) :
    (d.mapEntries f).get? k = (d.get? k).map (f k) := lookup_map f d.entries k

theorem get?_mapValues (f : α → β) (d : Dict α) (k : String) : (d.mapValues f).get? k = (d.get? k).map f :=
  get?_mapEntries (fun _ => f) d k

@[simp] theorem keys_mapEntries (f : String → α → β) (d : Dict α) : (d.mapEntries f).keys = d.keys :=
  List.map_map ..

@[simp] theorem keys_mapValues (f : α → β) (d : Dict α) : (d.mapValues f).keys = d.keys :=
  keys_mapEntries (fun _ => f) d

/-! ### Filling a dictionary -/

theorem get?_insertAll (d : Dict α) (l : List (String × α)) (k : String) :
    (d.insertAll l).get? k = (l.reverse.lookup k).or (d.get? k) := by
  induction l generalizing d with
  | nil => rfl
  | cons e l ih =>
    have hstep : d.insertAll (e :: l) = (d.insert e.1 e.2).insertAll l := rfl
    rw [hstep, ih, get?_insert, List.reverse_cons, List.lookup_append, Option.or_assoc, lookup_cons]
    split <;> rfl

theorem get?_insertAll_entries (d d' : Dict α) (k : String) :
    (d.insertAll d'.entries).get? k = (d'.get? k).or (d.get? k) := by
  rw [get?_insertAll, lookup_reverse d'.nodup_keys, ← get?]

theorem get?_ofList (l : List (String × α)) (k : String) : (ofList l).get? k = l.reverse.lookup k := by
  rw [ofList, get?_insertAll]
  exact Option.or_none

theorem get?_ofList_of_nodup (hl : (l.map Prod.fst).Nodup) (k : String) : (ofList l).get? k = l.lookup k := by
  rw [get?_ofList, lookup_reverse hl]

@[simp] theorem ofList_entries (d : Dict α) : ofList d.entries = d :=
  ext fun k => get?_ofList_of_nodup d.nodup_keys k

theorem mem_of_mem_ofList {e : String × α} (h : e ∈ (ofList l).entries) : e ∈ l := by
  have hget := get?_eq_some_iff.2 h
  rw [get?_ofList] at hget
  exact List.mem_reverse.1 (mem_of_lookup hget)

theorem mem_keys_ofList : k ∈ (ofList l).keys ↔ k ∈ l.map Prod.fst := by
  have hnone : k ∉ (ofList l).keys ↔ k ∉ l.map Prod.fst := by
    rw [← get?_eq_none_iff, get?_ofList, lookup_eq_none_iff, List.map_reverse, List.mem_reverse]
  exact not_iff_not.1 hnone

/-! ### How many entries stay -/

theorem keys_ofList_subperm (l : List (String × α)) : (ofList l).keys.Subperm (l.map Prod.fst) :=
  List.subperm_of_subset (ofList l).nodup_keys fun _ => mem_keys_ofList.1

theorem nodup_of_length_ofList (h : l.length ≤ (ofList l).entries.length) : (l.map Prod.fst).Nodup := by
  have hlength : (l.map Prod.fst).length ≤ (ofList l).keys.length := by
    rwa [keys, List.length_map, List.length_map]
  exact ((keys_ofList_subperm l).perm_of_length_le hlength).nodup (ofList l).nodup_keys

theorem ofList_perm (hl : (l.map Prod.fst).Nodup) : (ofList l).entries.Perm l := by
  refine (List.perm_ext_iff_of_nodup (.of_map _ (ofList l).nodup_keys) (.of_map _ hl)).2 fun e => ?_
  have hget : (ofList l).get? e.1 = l.lookup e.1 := get?_ofList_of_nodup hl e.1
  constructor
  · intro he
    exact mem_of_lookup (hget.symm.trans (get?_eq_some_iff.2 he))
  · intro he
    exact get?_eq_some_iff.1 (hget.trans (lookup_of_mem hl he))

theorem ofList_eq_of_perm {l' : List (String × α)} (h : l.Perm l') (hl' : (l'.map Prod.fst).Nodup) :
    ofList l = ofList l' := by
  have hl : (l.map Prod.fst).Nodup := (h.map Prod.fst).nodup_iff.2 hl'
  refine ext fun k => Option.ext fun v => ?_
  rw [get?_eq_some_iff, get?_eq_some_iff, (ofList_perm hl).mem_iff, (ofList_perm hl').mem_iff, h.mem_iff]

theorem ofList_eq_of_perm_entries (h : l.Perm d.entries) : ofList l = d :=
  (ofList_eq_of_perm h d.nodup_keys).trans d.ofList_entries

/-! ### All entries under a name -/

/-- The values of all entries under a name, in their order. -/
def valuesAt (l : List (String × α)) (k : String) : List α := (l.filter fun e => e.1 == k).map Prod.snd

theorem lookup_eq_head?_valuesAt (l : List (String × α)) (k : String) : l.lookup k = (valuesAt l k).head? := by
  induction l with
  | nil => rfl
  | cons e l ih =>
    rw [lookup_cons, valuesAt]
    by_cases hk : k = e.1
    · rw [if_pos hk, List.filter_cons_of_pos (by simp [hk])]
      rfl
    · rw [if_neg hk, List.filter_cons_of_neg (by simpa using Ne.symm hk)]
      exact ih

theorem get?_ofList_eq_getLast?_valuesAt (l : List (String × α)) (k : String) :
    (ofList l).get? k = (valuesAt l k).getLast? := by
  rw [get?_ofList, lookup_eq_head?_valuesAt, valuesAt, List.filter_reverse, List.map_reverse, List.head?_reverse]
  rfl

theorem valuesAt_filter {p : String → Bool} (hk : p k = true) (l : List (String × α)) :
    valuesAt (l.filter fun e => p e.1) k = valuesAt l k := by
  rw [valuesAt, valuesAt, List.filter_filter]
  refine congrArg (List.map Prod.snd) (List.filter_congr fun e _ => ?_)
  by_cases he : e.1 = k
  · rw [he, hk, Bool.and_true]
  · rw [beq_false_of_ne he, Bool.false_and]

theorem get?_ofList_filter {p : String → Bool} (hk : p k = true) (l : List (String × α)) :
    (ofList (l.filter fun e => p e.1)).get? k = (ofList l).get? k := by
  rw [get?_ofList_eq_getLast?_valuesAt, valuesAt_filter hk, get?_ofList_eq_getLast?_valuesAt]

end Shipshape.Dict
