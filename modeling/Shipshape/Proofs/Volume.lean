import Mathlib.Data.List.ReduceOption
import Shipshape.Proofs.Result
import Shipshape.Proofs.Text
import Shipshape.Volume.Canonical

/-!
# Sets of volumes

The order of volumes is total, so that a set of volumes is known by its members. Of declared and of live volumes,
blank entries and the mount of terminals have no canonical form (`Volume.Suppressed`), and take no part in such
a set.
-/

namespace Shipshape

/-! ### The order of volumes -/

instance : Std.LawfulEqOrd Access where
  compare_self {a} := by
    cases a with
    | readWrite => rfl
    | readOnly => rfl
  eq_of_compare {a b} h := by
    cases a with
    | readWrite =>
      cases b with
      | readWrite => rfl
      | readOnly => cases h
    | readOnly =>
      cases b with
      | readWrite => cases h
      | readOnly => rfl

instance : Std.TransOrd Access where
  eq_swap {a b} := by
    have hswap : ∀ a b : Access, compare a b = (compare b a).swap := by
      rintro (_ | _) (_ | _)
      all_goals rfl
    exact hswap a b
  isLE_trans {a b d} := by
    have htrans : ∀ a b d : Access, (compare a b).isLE → (compare b d).isLE → (compare a d).isLE := by
      rintro (_ | _) (_ | _) (_ | _)
      all_goals decide
    exact htrans a b d

theorem Volume.compare_eq (v w : Volume) : compare v w =
    ((compare v.source w.source).then (compare v.destination w.destination)).then
      ((compare v.access w.access).then (compare v.propagation w.propagation)) := rfl

instance : Std.LawfulEqOrd Volume where
  compare_self {v} := by
    simp only [Volume.compare_eq, Std.ReflOrd.compare_self, Ordering.then_eq]
  eq_of_compare {v w} h := by
    simp only [Volume.compare_eq, Ordering.then_eq_eq] at h
    obtain ⟨⟨hsource, hdestination⟩, haccess, hpropagation⟩ := h
    have hends := And.intro (Std.LawfulEqOrd.eq_of_compare hsource)
      (Std.LawfulEqOrd.eq_of_compare hdestination)
    cases v
    cases w
    rw [Volume.mk.injEq]
    exact ⟨hends.1, hends.2, Std.LawfulEqOrd.eq_of_compare haccess,
      Std.LawfulEqOrd.eq_of_compare hpropagation⟩

instance : Std.TransOrd Volume :=
  inferInstanceAs (Std.TransCmp (compareLex
    (compareLex (compareOn Volume.source) (compareOn Volume.destination))
    (compareLex (compareOn Volume.access) (compareOn Volume.propagation))))

namespace Volume

/-! ### Volumes that do not count -/

/-- The ends of the mount of terminals, with any number of slashes behind them. -/
structure TerminalEnds (source destination : List Char) : Prop where
  source : source = [] ∨ ∃ n, source = "devpts".toList ++ List.replicate n '/'
  destination : ∃ n, destination = "/dev/pts".toList ++ List.replicate n '/'

/-- Entries that do not count: blank ones, and the mount of terminals with or without options. -/
inductive SuppressedBind (entry : String) : Prop
  | blank (h : Text.trim entry = "")
  | terminals {source destination : List Char} (ends : TerminalEnds source destination)
      (h : Text.trimChars entry.toList = source ++ ':' :: destination)
  | terminalsWith {source destination : List Char} (options : List Char)
      (ends : TerminalEnds source destination)
      (h : Text.trimChars entry.toList = source ++ ':' :: (destination ++ ':' :: options))

/-- Records that do not count: those of terminals, and those without ends. -/
inductive SuppressedMount (m : Mount) : Prop
  | kind (h : m.kind = some "devpts")
  | terminals (ends : TerminalEnds (mountSource m).toList m.destination.toList)
  | blank (hsource : m.source = "") (hdestination : m.destination = "")

/-- Declarations that do not count. -/
inductive Suppressed : VolumeDeclaration → Prop
  | bind {entry : String} (h : SuppressedBind entry) : Suppressed (.bind entry)
  | mount {m : Mount} (h : SuppressedMount m) : Suppressed (.mount m)

/-- Reports that do not count. -/
inductive SuppressedLive : Json → Prop
  | null : SuppressedLive .null
  | bind {entry : String} (h : SuppressedBind entry) : SuppressedLive (.str entry)
  | mount {fields : List (String × Json)} {m : Mount} (hread : Mount.ofJson? (.obj fields) = some m)
      (h : SuppressedMount m) : SuppressedLive (.obj fields)

theorem dropTrailingSlashes_append {path : List Char} (last : Char) (hlast : path.getLast? = some last)
    (hslash : (last == '/') = false) (n : Nat) :
    dropTrailingSlashes (path ++ List.replicate n '/') = path := by
  have hkept : Text.dropEndWhile (· == '/') (path ++ List.replicate n '/') = path := by
    rw [Text.dropEndWhile_eq_rdropWhile]
    induction n with
    | zero =>
      rw [List.replicate_zero, List.append_nil, Text.rdropWhile_eq_self_iff]
      intro c hc
      rw [hlast] at hc
      rwa [← Option.some.inj hc]
    | succ n ih =>
      rw [List.replicate_succ', ← List.append_assoc, List.rdropWhile_concat_pos _ _ _ rfl, ih]
  have hne : path.isEmpty = false := by
    rw [List.isEmpty_eq_false_iff]
    rintro rfl
    cases hlast
  rw [dropTrailingSlashes, hkept, hne]
  rfl

variable {source destination : List Char} {entry : String} {m : Mount}

theorem TerminalEnds.normal?_eq_none (h : TerminalEnds source destination) (access : Access)
    (propagation : List Char) : normal? source destination access propagation = none := by
  obtain ⟨n, hdestination⟩ := h.destination
  have hdropped : dropTrailingSlashes destination = "/dev/pts".toList := by
    rw [hdestination]
    exact dropTrailingSlashes_append 's' rfl rfl n
  rw [normal?, hdropped]
  rcases h.source with hsource | ⟨k, hsource⟩
  · rw [hsource]
    rfl
  · have hsource : dropTrailingSlashes source = "devpts".toList := by
      rw [hsource]
      exact dropTrailingSlashes_append 's' rfl rfl k
    rw [hsource]
    rfl

theorem TerminalEnds.notMem_source (h : TerminalEnds source destination) : ':' ∉ source := by
  rcases h.source with rfl | ⟨n, rfl⟩
  · simp
  · simp [List.mem_replicate]

theorem TerminalEnds.notMem_destination (h : TerminalEnds source destination) : ':' ∉ destination := by
  obtain ⟨n, rfl⟩ := h.destination
  simp [List.mem_replicate]

theorem TerminalEnds.ofBind_eq_none (h : TerminalEnds source destination) {rest : List Char} (options : List Char)
    (hentry : Text.trimChars entry.toList = source ++ ':' :: rest)
    (hrest : (Text.splitFirst? ':' rest).getD (rest, []) = (destination, options)) : ofBind entry = .ok none := by
  have hcolon : (source ++ ':' :: rest).isEmpty = false := by simp
  have hdestination : destination.isEmpty = false := by
    obtain ⟨n, rfl⟩ := h.destination
    rfl
  simp only [ofBind, hentry, hcolon, Text.splitFirst?_append h.notMem_source, hrest, hdestination,
    h.normal?_eq_none, Bool.false_eq_true, if_false]

theorem ofBind_of_suppressed (h : SuppressedBind entry) : ofBind entry = .ok none := by
  cases h with
  | blank h =>
    have hchars : Text.trimChars entry.toList = [] := by
      simpa [Text.trim] using congrArg String.toList h
    rw [ofBind, hchars]
    rfl
  | terminals ends h =>
    refine ends.ofBind_eq_none [] h ?_
    rw [Text.splitFirst?_eq_none_iff.2 ends.notMem_destination]
    rfl
  | terminalsWith options ends h =>
    refine ends.ofBind_eq_none options h ?_
    rw [Text.splitFirst?_append ends.notMem_destination]
    rfl

theorem ofMount?_of_suppressed (h : SuppressedMount m) : ofMount? m = none := by
  unfold ofMount?
  cases h with
  | kind h => rw [if_pos h]
  | terminals ends =>
    rw [ends.normal?_eq_none]
    simp
  | blank hsource hdestination =>
    rw [hsource, hdestination]
    simp

theorem ofDeclared_of_suppressed {v : VolumeDeclaration} (h : Suppressed v) : ofDeclared v = .ok none := by
  cases h with
  | bind h => exact ofBind_of_suppressed h
  | mount h => exact congrArg Except.ok (ofMount?_of_suppressed h)

theorem ofLive_of_suppressed {v : Json} (h : SuppressedLive v) : ofLive v = .ok none := by
  cases h with
  | null => rfl
  | bind h => exact ofBind_of_suppressed h
  | mount hread h =>
    rw [ofLive, hread]
    exact congrArg Except.ok (ofMount?_of_suppressed h)

/-! ### Sets -/

def setOfLive (reports : List Json) : Except Error (List Volume) := do
  let volumes ← reports.mapM ofLive
  return SortedSet.ofList volumes.reduceOption

section sets

variable {α : Type} {read : α → Except Error (Option Volume)} {l l' : List α}

theorem mem_of_mapM {volumes : List (Option Volume)} (h : l.mapM read = .ok volumes) (v : Volume) :
    v ∈ SortedSet.ofList volumes.reduceOption ↔ ∃ a ∈ l, read a = .ok (some v) := by
  rw [SortedSet.mem_ofList, List.reduceOption_mem_iff]
  constructor
  · exact Result.exists_of_mem_mapM h
  · rintro ⟨a, ha, hv⟩
    obtain ⟨v', hmem, hv'⟩ := Result.exists_of_mapM h ha
    rw [hv] at hv'
    rwa [Except.ok.inj hv']

theorem mem_setOfDeclared {declared : List VolumeDeclaration} {volumes : List Volume}
    (h : setOfDeclared declared = .ok volumes) (v : Volume) :
    v ∈ volumes ↔ ∃ d ∈ declared, ofDeclared d = .ok (some v) := by
  obtain ⟨read, hread, hset⟩ := Result.bind_eq_ok.1 h
  injection hset with hset
  rw [← hset]
  exact mem_of_mapM hread v

theorem mem_setOfLive {reports : List Json} {volumes : List Volume} (h : setOfLive reports = .ok volumes)
    (v : Volume) : v ∈ volumes ↔ ∃ report ∈ reports, ofLive report = .ok (some v) := by
  obtain ⟨read, hread, hset⟩ := Result.bind_eq_ok.1 h
  injection hset with hset
  rw [← hset]
  exact mem_of_mapM hread v

theorem setOfLive_map {report : Volume → Json} {volumes : List Volume}
    (h : ∀ v ∈ volumes, ofLive (report v) = .ok (some v)) :
    setOfLive (volumes.map report) = .ok (SortedSet.ofList volumes) := by
  have hread : (volumes.map report).mapM ofLive = .ok (volumes.map some) := by
    rw [Result.mapM_eq_ok, List.forall₂_map_left_iff, List.forall₂_map_right_iff, List.forall₂_same]
    exact h
  have hkept : (volumes.map some).reduceOption = volumes := by simp [List.reduceOption]
  rw [setOfLive, hread]
  show Except.ok (SortedSet.ofList (volumes.map some).reduceOption) = _
  rw [hkept]

theorem toOption_setOf_congr (hread : (∀ a ∈ l, ∃ v, read a = .ok v) ↔ ∀ a ∈ l', ∃ v, read a = .ok v)
    (hsome : ∀ v, (∃ a ∈ l, read a = .ok (some v)) ↔ ∃ a ∈ l', read a = .ok (some v)) :
    (do return SortedSet.ofList (← l.mapM read).reduceOption : Except Error (List Volume)).toOption =
      (do return SortedSet.ofList (← l'.mapM read).reduceOption : Except Error (List Volume)).toOption := by
  rw [← Result.exists_mapM_iff, ← Result.exists_mapM_iff] at hread
  rcases hl : l.mapM read with e | volumes
  · rcases hl' : l'.mapM read with e' | volumes'
    · rfl
    · obtain ⟨volumes, h⟩ := hread.2 ⟨volumes', hl'⟩
      rw [hl] at h
      cases h
  · obtain ⟨volumes', hl'⟩ := hread.1 ⟨volumes, hl⟩
    rw [hl']
    refine congrArg some (SortedSet.eq_of_pairwise (SortedSet.pairwise_ofList _) (SortedSet.pairwise_ofList _) ?_)
    intro v
    rw [mem_of_mapM hl, mem_of_mapM hl', hsome]

end sets

end Volume

end Shipshape
