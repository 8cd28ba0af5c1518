import Shipshape.Proofs.Volume

/-!
# Volumes in canonical form

Putting a volume into canonical form a second time changes nothing. A volume is the canonical form of some mount
exactly if its parts are as they are left by that: no slashes at the ends of its paths, no path into the storage
of named volumes, no private propagation, and not the mount of terminals (`canonical_iff`).
-/

namespace Shipshape.Volume

def plainSource (source : List Char) : List Char :=
  (storedName? (dropTrailingSlashes source)).getD (dropTrailingSlashes source)

/-- The parts of a volume are in canonical form. -/
structure Canonical (v : Volume) : Prop where
  source : plainSource v.source.toList = v.source.toList
  destination : dropTrailingSlashes v.destination.toList = v.destination.toList
  propagation : v.propagation ≠ "private"
  shown : v.isTerminalMount = false
  ends : v.source ≠ "" ∨ v.destination ≠ ""

/-- A mount of which a volume in canonical form is the canonical form. -/
def toMount (v : Volume) : Mount :=
  { source := v.source
    destination := v.destination
    writable := v.access == .readWrite
    propagation := some ("r" ++ v.propagation) }

variable {source destination mode path name : List Char} {access : Access} {v : Volume}

/-! ### The parts -/

theorem dropTrailingSlashes_eq (path : List Char) : dropTrailingSlashes path =
    if (path.rdropWhile (· == '/')).isEmpty && path.head? = some '/' then ['/']
    else path.rdropWhile (· == '/') := rfl

theorem dropTrailingSlashes_cases (path : List Char) :
    dropTrailingSlashes path = path.rdropWhile (· == '/') ∨
      dropTrailingSlashes path = ['/'] ∧ path.head? = some '/' ∧ path.rdropWhile (· == '/') = [] := by
  rw [dropTrailingSlashes_eq]
  by_cases h : (path.rdropWhile (· == '/')).isEmpty && path.head? = some '/'
  · rw [if_pos h]
    rw [Bool.and_eq_true, List.isEmpty_iff, decide_eq_true_eq] at h
    exact .inr ⟨rfl, h.2, h.1⟩
  · rw [if_neg h]
    exact .inl rfl

theorem dropTrailingSlashes_isPrefix (path : List Char) : dropTrailingSlashes path <+: path := by
  rcases dropTrailingSlashes_cases path with h | ⟨h, hhead, -⟩
  · rw [h]
    exact List.rdropWhile_prefix ..
  · rw [h]
    cases path with
    | nil => cases hhead
    | cons c path =>
      injection hhead with hc
      subst hc
      exact ⟨path, rfl⟩

theorem dropTrailingSlashes_eq_self (h : ∀ c, path.getLast? = some c → (c == '/') = false) :
    dropTrailingSlashes path = path := by
  rcases dropTrailingSlashes_cases path with hdrop | ⟨-, hhead, hdrop⟩
  · rw [hdrop]
    exact Text.rdropWhile_eq_self_iff.2 h
  · -- all of it is slashes, the last character too
    have hslashes := List.rdropWhile_eq_nil_iff.1 hdrop
    cases hlast : path.getLast? with
    | none =>
      rw [List.getLast?_eq_none_iff.1 hlast] at hhead
      cases hhead
    | some c =>
      have hc := hslashes c (List.mem_of_getLast? hlast)
      rw [h c hlast] at hc
      cases hc

theorem dropTrailingSlashes_dropTrailingSlashes (path : List Char) :
    dropTrailingSlashes (dropTrailingSlashes path) = dropTrailingSlashes path := by
  rcases dropTrailingSlashes_cases path with h | ⟨h, -, -⟩
  · rw [h]
    exact dropTrailingSlashes_eq_self
      (Text.rdropWhile_eq_self_iff.1 (List.rdropWhile_idempotent (· == '/') path))
  · rw [h]
    rfl

theorem dropTrailingSlashes_eq_nil_iff : dropTrailingSlashes path = [] ↔ path = [] := by
  constructor
  · intro h
    rcases dropTrailingSlashes_cases path with hdrop | ⟨hdrop, -, -⟩
    · rw [hdrop] at h
      -- a path of slashes alone is the root
      cases path with
      | nil => rfl
      | cons c path =>
        have hc : c = '/' := by simpa using List.rdropWhile_eq_nil_iff.1 h c (List.mem_cons_self ..)
        rw [hc] at h hdrop
        rw [dropTrailingSlashes_eq, h] at hdrop
        cases hdrop
    · rw [hdrop] at h
      cases h
  · rintro rfl
    rfl

theorem head?_dropTrailingSlashes (path : List Char) : (dropTrailingSlashes path).head? = path.head? := by
  cases path with
  | nil => rfl
  | cons c path =>
    obtain ⟨rest, hrest⟩ := dropTrailingSlashes_isPrefix (c :: path)
    cases hdrop : dropTrailingSlashes (c :: path) with
    | nil => cases dropTrailingSlashes_eq_nil_iff.1 hdrop
    | cons c' path' =>
      rw [hdrop] at hrest
      injection hrest with hc
      rw [hc]
      rfl

theorem slash_mem_dropTrailingSlashes (h : storageStart <:+: path) : '/' ∈ dropTrailingSlashes path := by
  obtain ⟨before, behind, rfl⟩ := h
  have hpath : before ++ storageStart ++ behind =
      (before ++ ['/']) ++ 'v' :: ("ar/lib/containers/storage/volumes/".toList ++ behind) := by
    rw [List.append_assoc, List.append_assoc]
    rfl
  rcases dropTrailingSlashes_cases (before ++ storageStart ++ behind) with hdrop | ⟨hdrop, -, -⟩
  · rw [hdrop, hpath, ← Text.dropEndWhile_eq_rdropWhile, Text.dropEndWhile_append_cons (by decide)]
    simp
  · rw [hdrop]
    exact .head _

theorem storedName?_eq_some (h : storedName? path = some name) :
    path = storageStart ++ (name ++ storageEnd) ∧ name ≠ [] ∧ '/' ∉ name := by
  obtain ⟨rest, hrest, h⟩ := Option.bind_eq_some_iff.1 h
  obtain ⟨name', hname, h⟩ := Option.bind_eq_some_iff.1 h
  split at h
  · cases h
  · next hplain =>
    injection h with h
    subst h
    rw [Bool.or_eq_true, not_or, List.isEmpty_iff, List.contains_iff_mem] at hplain
    rw [Text.dropStart?_eq_some_iff.1 hrest, Text.dropEnd?_eq_some_iff.1 hname]
    exact ⟨rfl, hplain⟩

theorem plainSource_cases (source : List Char) :
    plainSource source = dropTrailingSlashes source ∧ storedName? (dropTrailingSlashes source) = none ∨
      storedName? (dropTrailingSlashes source) = some (plainSource source) := by
  unfold plainSource
  cases h : storedName? (dropTrailingSlashes source) with
  | none => exact .inl ⟨rfl, rfl⟩
  | some name => exact .inr rfl

theorem plainSource_isInfix (source : List Char) : plainSource source <:+: source := by
  rcases plainSource_cases source with ⟨h, -⟩ | h
  · rw [h]
    exact (dropTrailingSlashes_isPrefix source).isInfix
  · have hname : plainSource source <:+: dropTrailingSlashes source := by
      refine ⟨storageStart, storageEnd, ?_⟩
      rw [List.append_assoc]
      exact (storedName?_eq_some h).1.symm
    exact hname.trans (dropTrailingSlashes_isPrefix source).isInfix

theorem storedName?_eq_none_of_notMem (h : '/' ∉ path) : storedName? path = none := by
  refine Option.eq_none_iff_forall_ne_some.2 fun name hname => h ?_
  rw [(storedName?_eq_some hname).1]
  exact List.mem_append_left _ (by decide)

theorem plainSource_plainSource (source : List Char) : plainSource (plainSource source) = plainSource source := by
  rcases plainSource_cases source with ⟨h, hnone⟩ | h
  · have hdrop := dropTrailingSlashes_dropTrailingSlashes source
    rw [h, plainSource, hdrop, hnone]
    rfl
  · obtain ⟨-, -, hslash⟩ := storedName?_eq_some h
    have hdrop : dropTrailingSlashes (plainSource source) = plainSource source := by
      refine dropTrailingSlashes_eq_self fun c hc => beq_false_of_ne ?_
      rintro rfl
      exact hslash (List.mem_of_getLast? hc)
    rw [plainSource, hdrop, storedName?_eq_none_of_notMem hslash]
    rfl

theorem plainSource_eq_nil_iff : plainSource source = [] ↔ source = [] := by
  rcases plainSource_cases source with ⟨h, -⟩ | h
  · rw [h, dropTrailingSlashes_eq_nil_iff]
  · refine iff_of_false (storedName?_eq_some h).2.1 ?_
    rintro rfl
    cases h

theorem plainPropagation_cases (mode : List Char) :
    plainPropagation mode = [] ∨ plainPropagation mode ≠ "private".toList ∧
      (plainPropagation mode = mode ∨ mode = 'r' :: plainPropagation mode) := by
  have heq : plainPropagation mode = if (Text.dropStart? ['r'] mode).getD mode = "private".toList then []
      else (Text.dropStart? ['r'] mode).getD mode := rfl
  by_cases h : (Text.dropStart? ['r'] mode).getD mode = "private".toList
  · rw [heq, if_pos h]
    exact .inl rfl
  · rw [heq, if_neg h]
    refine .inr ⟨h, ?_⟩
    cases hdrop : Text.dropStart? ['r'] mode with
    | none => exact .inl rfl
    | some rest => exact .inr (Text.dropStart?_eq_some_iff.1 hdrop)

theorem plainPropagation_isInfix (mode : List Char) : plainPropagation mode <:+: mode := by
  rcases plainPropagation_cases mode with h | ⟨-, h | h⟩
  · rw [h]
    exact List.nil_infix
  · exact h.symm ▸ List.infix_rfl
  · exact ⟨['r'], [], (List.append_nil _).trans h.symm⟩

theorem plainPropagation_ne_private (mode : List Char) : plainPropagation mode ≠ "private".toList := by
  rcases plainPropagation_cases mode with h | ⟨h, -⟩
  · rw [h]
    decide
  · exact h

theorem plainPropagation_cons (h : mode ≠ "private".toList) : plainPropagation ('r' :: mode) = mode := by
  have hdrop : Text.dropStart? ['r'] ('r' :: mode) = some mode := Text.dropStart?_eq_some_iff.2 rfl
  rw [plainPropagation, hdrop]
  exact if_neg h

/-! ### The whole -/

/-- The volume with these parts in canonical form. -/
def plain (source destination : List Char) (access : Access) (mode : List Char) : Volume :=
  { source := .ofList (plainSource source)
    destination := .ofList (dropTrailingSlashes destination)
    access
    propagation := .ofList (plainPropagation mode) }

theorem isTerminalMount_plain_iff : (plain source destination access mode).isTerminalMount = true ↔
    dropTrailingSlashes destination = "/dev/pts".toList ∧
      (plainSource source = [] ∨ plainSource source = "devpts".toList) := by
  have hofList : ∀ (cs : List Char) (s : String), String.ofList cs = s ↔ cs = s.toList := fun cs s => by
    rw [← String.toList_inj, String.toList_ofList]
  rw [isTerminalMount, Bool.and_eq_true, Bool.or_eq_true, beq_iff_eq, beq_iff_eq, beq_iff_eq, plain, hofList,
    hofList, hofList]
  rfl

theorem normal?_eq (source destination : List Char) (access : Access) (mode : List Char) :
    normal? source destination access mode =
      if (plain source destination access mode).isTerminalMount then none
      else some (plain source destination access mode) := rfl

theorem normal?_eq_some (h : normal? source destination access mode = some v) :
    v.source.toList = plainSource source ∧ v.destination.toList = dropTrailingSlashes destination ∧
      v.access = access ∧ v.propagation.toList = plainPropagation mode ∧ v.isTerminalMount = false := by
  rw [normal?_eq] at h
  by_cases hshown : (plain source destination access mode).isTerminalMount
  · rw [if_pos hshown] at h
    cases h
  · rw [if_neg hshown] at h
    injection h with h
    rw [← h]
    exact ⟨String.toList_ofList .., String.toList_ofList .., rfl, String.toList_ofList .., Bool.eq_false_iff.2 hshown⟩

theorem canonical_of_normal? (h : normal? source destination access mode = some v)
    (hends : source ≠ [] ∨ destination ≠ []) : v.Canonical := by
  obtain ⟨hsource, hdestination, -, hmode, hshown⟩ := normal?_eq_some h
  refine ⟨?_, ?_, ?_, hshown, ?_⟩
  · rw [hsource, plainSource_plainSource]
  · rw [hdestination, dropTrailingSlashes_dropTrailingSlashes]
  · intro hprivate
    rw [hprivate] at hmode
    exact plainPropagation_ne_private mode hmode.symm
  · refine hends.imp (fun hne hempty => hne ?_) fun hne hempty => hne ?_
    · rw [hempty] at hsource
      exact plainSource_eq_nil_iff.1 hsource.symm
    · rw [hempty] at hdestination
      exact dropTrailingSlashes_eq_nil_iff.1 hdestination.symm

theorem Canonical.normal? (h : v.Canonical) (hmode : plainPropagation mode = v.propagation.toList) :
    Volume.normal? v.source.toList v.destination.toList v.access mode = some v := by
  have hplain : plain v.source.toList v.destination.toList v.access mode = v := by
    rw [plain, h.source, h.destination, hmode, String.ofList_toList, String.ofList_toList, String.ofList_toList]
  rw [normal?_eq, hplain, if_neg (Bool.eq_false_iff.1 h.shown)]

theorem source_eq_of_mountSource {m : Mount} (h : mountSource m = "") : m.source = "" := by
  unfold mountSource at h
  split at h
  · next name _ _ =>
    split at h
    · exact h
    · next hname =>
      rw [h] at hname
      exact absurd rfl hname
  · exact h

theorem canonical_of_ofMount? {m : Mount} (h : ofMount? m = some v) : v.Canonical := by
  unfold ofMount? at h
  split at h
  · cases h
  · split at h
    · cases h
    · next hempty =>
      rw [Bool.and_eq_true, beq_iff_eq, beq_iff_eq] at hempty
      refine canonical_of_normal? h ?_
      by_contra hends
      rw [not_or, not_not, not_not, String.toList_eq_nil_iff, String.toList_eq_nil_iff] at hends
      exact hempty ⟨source_eq_of_mountSource hends.1, hends.2⟩

theorem Canonical.ofMount?_toMount (h : v.Canonical) : ofMount? v.toMount = some v := by
  have hempty : ¬ (v.source == "" && v.destination == "") := by
    rw [Bool.and_eq_true, beq_iff_eq, beq_iff_eq, not_and_or]
    exact h.ends
  have hmode : plainPropagation ("r" ++ v.propagation).toList = v.propagation.toList := by
    rw [String.toList_append]
    refine plainPropagation_cons fun hprivate => h.propagation ?_
    exact String.toList_inj.1 hprivate
  have haccess : Access.ofWritable (v.access == .readWrite) = v.access := by
    cases v.access with
    | readWrite => rfl
    | readOnly => rfl
  have hread : ofMount? v.toMount = if v.source == "" && v.destination == "" then none
      else Volume.normal? v.source.toList v.destination.toList (.ofWritable (v.access == .readWrite))
        ("r" ++ v.propagation).toList := rfl
  rw [hread, if_neg hempty, haccess, h.normal? hmode]

/-- What is in canonical form is the canonical form of a mount. -/
theorem canonical_iff : v.Canonical ↔ ∃ m, ofMount? m = some v :=
  ⟨fun h => ⟨v.toMount, h.ofMount?_toMount⟩, fun ⟨_, h⟩ => canonical_of_ofMount? h⟩

end Shipshape.Volume
