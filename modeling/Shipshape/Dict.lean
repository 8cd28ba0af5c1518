import Shipshape.SortedSet

/-!
# Dictionaries

A dictionary gives values to names. Its entries are in increasing order of the names, one entry for each name,
so two dictionaries that give every name the same value are equal (`Dict.ext`).
-/

namespace Shipshape

/-- Values by their names: the entries, in increasing order of their names (by code point). -/
structure Dict (α : Type) where
  entries : List (String × α)
  ordered : (entries.map Prod.fst).Pairwise (compare · · = .lt)
  deriving DecidableEq, Repr

namespace Dict

variable {α β : Type}

instance : EmptyCollection (Dict α) := ⟨⟨[], .nil⟩⟩

instance : Inhabited (Dict α) := ⟨∅⟩

/-- Gives `k` the value `v` in a list of entries in order. -/
def insertEntry (k : String) (v : α) : List (String × α) → List (String × α)
  | [] => [(k, v)]
  | (k', v') :: l =>
    match compare k k' with
    | .lt => (k, v) :: (k', v') :: l
    | .eq => (k, v) :: l
    | .gt => (k', v') :: insertEntry k v l

theorem map_fst_insertEntry (k : String) (v : α) (l : List (String × α)) :
    (insertEntry k v l).map Prod.fst = SortedSet.insert k (l.map Prod.fst) := by
  induction l with
  | nil => rfl
  | cons e l ih =>
    obtain ⟨k', v'⟩ := e
    rw [insertEntry]
    cases h : compare k k' with
    | lt => simp [SortedSet.insert, h]
    | eq => simp [SortedSet.insert, Std.LawfulEqOrd.eq_of_compare h]
    | gt => simpa [SortedSet.insert, h] using ih

theorem lookup_cons (e : String × α) (l : List (String × α)) (k : String) :
    (e :: l).lookup k = if k = e.1 then some e.2 else l.lookup k := by
  rw [List.lookup_cons]
  by_cases hk : k = e.1
  · rw [if_pos hk, hk, beq_self_eq_true]
  · rw [if_neg hk, beq_false_of_ne hk]

theorem lookup_insertEntry (k : String) (v : α) (l : List (String × α)) (k' : String) :
    (insertEntry k v l).lookup k' = if k' = k then some v else l.lookup k' := by
  induction l with
  | nil => exact lookup_cons (k, v) [] k'
  | cons e l ih =>
    obtain ⟨j, w⟩ := e
    rw [insertEntry]
    cases h : compare k j with
    | lt => exact lookup_cons (k, v) _ k'
    | eq =>
      obtain rfl : k = j := Std.LawfulEqOrd.eq_of_compare h
      simp only [lookup_cons]
      split <;> rfl
    | gt =>
      have hne : j ≠ k := by
        rintro rfl
        rw [Std.ReflOrd.compare_self] at h
        cases h
      simp only [lookup_cons, ih]
      by_cases hk : k' = j
      · rw [if_pos hk, if_pos hk, if_neg (hk ▸ hne)]
      · rw [if_neg hk, if_neg hk]

/-- Gives `k` the value `v`. -/
def insert (k : String) (v : α) (d : Dict α) : Dict α where
  entries := insertEntry k v d.entries
  ordered := by
    rw [map_fst_insertEntry]
    exact SortedSet.pairwise_insert k d.ordered

/-- The value of `k`. -/
def get? (d : Dict α) (k : String) : Option α :=
  d.entries.lookup k

def isEmpty (d : Dict α) : Bool :=
  d.entries.isEmpty

/-- Whether `k` has a value. -/
def contains (d : Dict α) (k : String) : Bool :=
  (d.get? k).isSome

/-- The entries that satisfy a condition. -/
def filter (p : String × α → Bool) (d : Dict α) : Dict α where
  entries := d.entries.filter p
  ordered := d.ordered.sublist (List.filter_sublist.map Prod.fst)

/-- The dictionary without `k`. -/
def erase (d : Dict α) (k : String) : Dict α :=
  d.filter fun e => e.1 != k

/-- The names, in increasing order. -/
def keys (d : Dict α) : List String :=
  d.entries.map Prod.fst

/-- The values, in the order of their names. -/
def values (d : Dict α) : List α :=
  d.entries.map Prod.snd

/-- Adds entries one after the other: of two values for one name the later one stays. -/
def insertAll (d : Dict α) (l : List (String × α)) : Dict α :=
  l.foldl (fun d e => d.insert e.1 e.2) d

/-- The dictionary of a list of entries; of two values for one name the later one stays. -/
def ofList (l : List (String × α)) : Dict α :=
  insertAll ∅ l

/-- The dictionary with a function applied to every entry. -/
def mapEntries (f : String → α → β) (d : Dict α) : Dict β where
  entries := d.entries.map fun e => (e.1, f e.1 e.2)
  ordered := by
    rw [List.map_map]
    exact d.ordered

/-- The dictionary with a function applied to every value. -/
def mapValues (f : α → β) (d : Dict α) : Dict β :=
  d.mapEntries fun _ => f

@[simp] theorem entries_empty : (∅ : Dict α).entries = [] := rfl

theorem get?_insert (d : Dict α) (k k' : String) (v : α) :
    (d.insert k v).get? k' = if k' = k then some v else d.get? k' :=
  lookup_insertEntry k v d.entries k'

@[simp] theorem get?_insert_self (d : Dict α) (k : String) (v : α) : (d.insert k v).get? k = some v := by
  rw [get?_insert, if_pos rfl]

theorem get?_insert_of_ne (d : Dict α) {k k' : String} (v : α) (h : k' ≠ k) :
    (d.insert k v).get? k' = d.get? k' := by
  rw [get?_insert, if_neg h]

@[simp] theorem keys_insert (d : Dict α) (k : String) (v : α) :
    (d.insert k v).keys = SortedSet.insert k d.keys :=
  map_fst_insertEntry k v d.entries

end Dict

end Shipshape
