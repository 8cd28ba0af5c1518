import Shipshape.Proofs.Create.Request
import Shipshape.Proofs.Permutation
import Shipshape.Proofs.Volume.Canonical

/-!
# Volumes written as entries

A volume in canonical form is written as an entry `source:destination:options`. Reading the entry gives the
volume back if its parts can stand in an entry (`FitsEntry`): colons divide the parts, blanks at the start are
trimmed, an entry has to have a destination, and only known modes of propagation are read. What was read from an
entry fits, but for blanks at the start of its source, which may be the name of a stored volume. Records may hold
anything.

Proof outline. Where the parts have no colon, the entry splits into them (`entryParts?_append`); where they have,
some of the text behind the second colon is lost to the volume (`entryParts?_extra`). So what is read is no
longer than what was written, and as long only if it is the same (`length_lt_or_eq_of_ofBind_toBind`). If a
whole set reads back, each member is then read from itself: the longest one that is not would have to be
read from a longer one (`eq_of_onto`).
-/

namespace Shipshape

namespace Volume

/-! ### The parts of an entry -/

/-- What stands before the first colon of an entry, before the second one, and behind it. -/
structure EntryParts where
  source : List Char
  destination : List Char
  options : List Char

def entryParts? (cs : List Char) : Option EntryParts :=
  (Text.splitFirst? ':' cs).map fun p =>
    let rest := (Text.splitFirst? ':' p.2).getD (p.2, [])
    ⟨p.1, rest.1, rest.2⟩

def EntryParts.volume? (parts : EntryParts) : Option Volume :=
  normal? parts.source parts.destination (optionsAccess (Volume.options parts.options))
    (optionsPropagation (Volume.options parts.options)).toList

variable {x y opts : List Char} {parts : EntryParts} {entry : String} {v w : Volume}

theorem ofBind_eq_of_ne (h : Text.trimChars entry.toList ≠ []) : ofBind entry =
    match entryParts? (Text.trimChars entry.toList) with
    | none => .error (.malformedVolume (Text.trim entry))
    | some parts =>
      if parts.destination.isEmpty then .error (.malformedVolume (Text.trim entry))
      else .ok parts.volume? := by
  have hempty : (Text.trimChars entry.toList).isEmpty = false := List.isEmpty_eq_false_iff.2 h
  rw [ofBind, entryParts?]
  simp only [hempty, Bool.false_eq_true, if_false]
  cases Text.splitFirst? ':' (Text.trimChars entry.toList) with
  | none => rfl
  | some p => rfl

theorem ofBind_eq_ok_of_parts (hparts : entryParts? (Text.trimChars entry.toList) = some parts)
    (hne : parts.destination ≠ []) : ofBind entry = .ok parts.volume? := by
  have htext : Text.trimChars entry.toList ≠ [] := by
    intro hempty
    rw [hempty] at hparts
    cases hparts
  rw [ofBind_eq_of_ne htext, hparts]
  exact if_neg (List.isEmpty_iff.not.2 hne)

theorem cases_of_ofBind {volume : Option Volume} (h : ofBind entry = .ok volume) :
    Text.trimChars entry.toList = [] ∧ volume = none ∨
      ∃ parts, entryParts? (Text.trimChars entry.toList) = some parts ∧ parts.destination ≠ [] ∧
        parts.volume? = volume := by
  by_cases hempty : Text.trimChars entry.toList = []
  · rw [ofBind, hempty] at h
    exact .inl ⟨hempty, (Except.ok.inj h).symm⟩
  · cases hparts : entryParts? (Text.trimChars entry.toList) with
    | none =>
      rw [ofBind_eq_of_ne hempty, hparts] at h
      cases h
    | some parts =>
      by_cases hne : parts.destination = []
      · rw [ofBind_eq_of_ne hempty, hparts] at h
        simp [hne] at h
      · rw [ofBind_eq_ok_of_parts hparts hne] at h
        exact .inr ⟨parts, rfl, hne, Except.ok.inj h⟩

theorem ofBind_eq_some_iff : ofBind entry = .ok (some v) ↔ ∃ parts,
    entryParts? (Text.trimChars entry.toList) = some parts ∧ parts.destination ≠ [] ∧
      parts.volume? = some v := by
  constructor
  · intro h
    exact (cases_of_ofBind h).resolve_left fun hblank => nomatch hblank.2
  · rintro ⟨parts, hparts, hne, h⟩
    rw [ofBind_eq_ok_of_parts hparts hne, h]

theorem entryParts?_append (hx : ':' ∉ x) (hy : ':' ∉ y) (opts : List Char) :
    entryParts? (x ++ ':' :: (y ++ ':' :: opts)) = some ⟨x, y, opts⟩ := by
  rw [entryParts?, Text.splitFirst?_append hx, Option.map_some, Text.splitFirst?_append hy]
  rfl

/-- A colon too many moves text behind the second colon. -/
theorem entryParts?_extra (h : ':' ∈ x ∨ ':' ∈ y) (opts : List Char) : ∃ source destination extra,
    entryParts? (x ++ ':' :: (y ++ ':' :: opts)) = some ⟨source, destination, extra ++ ':' :: opts⟩ ∧
      source.length + destination.length + extra.length < x.length + y.length := by
  cases hx : Text.splitFirst? ':' x with
  | none =>
    have hx := Text.splitFirst?_eq_none_iff.1 hx
    obtain ⟨y₁, y₂, rfl, hy₁⟩ : ∃ y₁ y₂, y = y₁ ++ ':' :: y₂ ∧ ':' ∉ y₁ := by
      cases hy : Text.splitFirst? ':' y with
      | none => exact absurd h (not_or.2 ⟨hx, Text.splitFirst?_eq_none_iff.1 hy⟩)
      | some p => exact ⟨_, _, Text.splitFirst?_eq_some hy⟩
    refine ⟨x, y₁, y₂, ?_, ?_⟩
    · rw [List.append_assoc]
      exact entryParts?_append hx hy₁ _
    · simp only [List.length_append, List.length_cons]
      omega
  | some p =>
    obtain ⟨x₁, x₂⟩ := p
    obtain ⟨rfl, hx₁⟩ := Text.splitFirst?_eq_some hx
    cases hx₂ : Text.splitFirst? ':' x₂ with
    | none =>
      refine ⟨x₁, x₂, y, ?_, ?_⟩
      · rw [List.append_assoc]
        exact entryParts?_append hx₁ (Text.splitFirst?_eq_none_iff.1 hx₂) _
      · simp only [List.length_append, List.length_cons]
        omega
    | some p =>
      obtain ⟨x₃, x₄⟩ := p
      obtain ⟨rfl, hx₃⟩ := Text.splitFirst?_eq_some hx₂
      refine ⟨x₁, x₃, x₄ ++ ':' :: y, ?_, ?_⟩
      · have hsplit := entryParts?_append hx₁ hx₃ (x₄ ++ ':' :: (y ++ ':' :: opts))
        simpa only [List.append_assoc, List.cons_append] using hsplit
      · simp only [List.length_append, List.length_cons]
        omega

theorem notMem_of_entryParts? {cs : List Char} (h : entryParts? cs = some parts) :
    ':' ∉ parts.source ∧ ':' ∉ parts.destination ∧ ∃ rest, cs = parts.source ++ ':' :: rest := by
  obtain ⟨⟨first, rest⟩, hsplit, rfl⟩ := Option.map_eq_some_iff.1 h
  obtain ⟨hcs, hsource⟩ := Text.splitFirst?_eq_some hsplit
  refine ⟨hsource, ?_, rest, hcs⟩
  cases hsecond : Text.splitFirst? ':' rest with
  | none => exact Text.splitFirst?_eq_none_iff.1 hsecond
  | some p => exact (Text.splitFirst?_eq_some hsecond).2

/-! ### Options -/

theorem infix_of_mem_options {option : String} (h : option ∈ options opts) :
    option.toList <:+: opts ∧ ',' ∉ option.toList := by
  obtain ⟨piece, hpiece, rfl⟩ := List.mem_map.1 h
  rw [String.toList_ofList]
  exact Text.infix_of_mem_splitOnP (List.mem_filter.1 hpiece).1

theorem optionsPropagation_cases (texts : List String) : optionsPropagation texts = "" ∨
    optionsPropagation texts ∈ texts ∧ optionsPropagation texts ∈ propagationModes := by
  unfold optionsPropagation
  cases h : texts.reverse.find? propagationModes.contains with
  | none => exact .inl rfl
  | some mode =>
    refine .inr ⟨List.mem_reverse.1 (List.mem_of_find?_eq_some h), ?_⟩
    exact List.contains_iff_mem.1 (List.find?_some h)

/-- The modes of propagation that a volume read from an entry may have. -/
def entryModes : List String := ["", "shared", "slave"]

theorem plainPropagation_mem_entryModes (texts : List String) :
    String.ofList (plainPropagation (optionsPropagation texts).toList) ∈ entryModes := by
  have hmodes : ∀ mode ∈ propagationModes, String.ofList (plainPropagation mode.toList) ∈ entryModes := by decide
  rcases optionsPropagation_cases texts with h | ⟨-, h⟩
  · rw [h]
    decide
  · exact hmodes _ h

/-! ### Volumes that fit into an entry -/

/-- The parts of a volume can stand in an entry. -/
structure FitsEntry (v : Volume) : Prop where
  source : ':' ∉ v.source.toList
  start : ∀ c, v.source.toList.head? = some c → Text.isBlank c = false
  destination : ':' ∉ v.destination.toList
  ne : v.destination ≠ ""
  propagation : v.propagation ∈ entryModes

theorem notMem_of_ofBind (h : ofBind entry = .ok (some v)) : ':' ∉ v.source.toList ∧
    ':' ∉ v.destination.toList ∧ v.destination ≠ "" ∧ v.propagation ∈ entryModes := by
  obtain ⟨parts, hparts, hne, hread⟩ := ofBind_eq_some_iff.1 h
  obtain ⟨hsource, hdestination, -⟩ := notMem_of_entryParts? hparts
  obtain ⟨hs, hd, -, hp, -⟩ := normal?_eq_some hread
  refine ⟨?_, ?_, ?_, ?_⟩
  · rw [hs]
    exact fun hmem => hsource ((plainSource_isInfix _).subset hmem)
  · rw [hd]
    exact fun hmem => hdestination ((dropTrailingSlashes_isPrefix _).subset hmem)
  · intro hempty
    rw [hempty] at hd
    exact hne (dropTrailingSlashes_eq_nil_iff.1 hd.symm)
  · rw [← String.ofList_toList (s := v.propagation), hp]
    exact plainPropagation_mem_entryModes _

theorem fitsEntry_iff_of_ofBind (h : ofBind entry = .ok (some v)) :
    v.FitsEntry ↔ ∀ c, v.source.toList.head? = some c → Text.isBlank c = false := by
  obtain ⟨hsource, hdestination, hne, hpropagation⟩ := notMem_of_ofBind h
  exact ⟨fun hfits => hfits.start, fun hstart => ⟨hsource, hstart, hdestination, hne, hpropagation⟩⟩

theorem canonical_of_ofBind (h : ofBind entry = .ok (some v)) : v.Canonical := by
  obtain ⟨parts, -, hne, hread⟩ := ofBind_eq_some_iff.1 h
  exact canonical_of_normal? hread (.inr hne)

theorem canonical_of_ofDeclared {d : VolumeDeclaration} (h : ofDeclared d = .ok (some v)) : v.Canonical := by
  cases d with
  | bind entry => exact canonical_of_ofBind h
  | mount m => exact canonical_of_ofMount? (Except.ok.inj h)

/-! ### Writing an entry -/

def entryOptions (v : Volume) : List Char :=
  v.access.name.toList ++ if v.propagation = "" then [] else ',' :: v.propagation.toList

theorem toList_toBind (v : Volume) :
    v.toBind.toList = v.source.toList ++ ':' :: (v.destination.toList ++ ':' :: v.entryOptions) := by
  have htext : v.toBind = v.source ++ ":" ++ v.destination ++ ":" ++ v.access.name ++
      if v.propagation = "" then "" else "," ++ v.propagation := by
    rw [toBind]
    simp only [beq_iff_eq]
  rw [htext, entryOptions]
  split
  · simp [String.toList_append]
  · simp [String.toList_append]

theorem trimChars_toBind (v : Volume) : Text.trimChars v.toBind.toList =
    v.source.toList.dropWhile Text.isBlank ++
      ':' :: (v.destination.toList ++ ':' :: Text.dropEndWhile Text.isBlank v.entryOptions) := by
  rw [toList_toBind, Text.trimChars_append_cons (by decide), Text.dropEndWhile_append_cons (by decide)]

theorem length_accessName (a : Access) : a.name.toList.length = 2 := by
  cases a with
  | readWrite => rfl
  | readOnly => rfl

theorem infix_propagation {mode : String} (hmode : mode ∈ propagationModes) (hcomma : ',' ∉ mode.toList)
    (h : mode.toList <:+: Text.dropEndWhile Text.isBlank v.entryOptions) :
    mode.toList <:+: v.propagation.toList := by
  have hshort : ¬ mode.toList <:+: v.access.name.toList := by
    have hmodes : ∀ mode ∈ propagationModes, 2 < mode.toList.length := by decide
    have hname := length_accessName v.access
    intro hpart
    have hlength := hpart.length_le
    have hmode := hmodes mode hmode
    omega
  have hprefix : Text.dropEndWhile Text.isBlank v.entryOptions <+: v.entryOptions :=
    List.rdropWhile_prefix ..
  have h := h.trans hprefix.isInfix
  rw [entryOptions] at h
  split at h
  · rw [List.append_nil] at h
    exact absurd h hshort
  · exact (Text.infix_append_cons h hcomma).resolve_left hshort

theorem optionsAccess_entryOptions (h : v.propagation ∈ entryModes) :
    optionsAccess (options (Text.dropEndWhile Text.isBlank v.entryOptions)) = v.access ∧
      plainPropagation (optionsPropagation (options (Text.dropEndWhile Text.isBlank v.entryOptions))).toList =
        v.propagation.toList := by
  have hall : ∀ mode ∈ entryModes, ∀ access ∈ [Access.readWrite, .readOnly],
      let opts := Text.dropEndWhile Text.isBlank (entryOptions ⟨"", "", access, mode⟩)
      optionsAccess (options opts) = access ∧
        plainPropagation (optionsPropagation (options opts)).toList = mode.toList := by decide
  refine hall _ h v.access ?_
  cases v.access with
  | readWrite => exact .head _
  | readOnly => exact .tail _ (.head _)

theorem EntryParts.volume?_eq_some (h : parts.volume? = some w) :
    w.source.toList <:+: parts.source ∧ w.destination.toList <:+: parts.destination ∧
      w.access = optionsAccess (Volume.options parts.options) ∧
      (w.propagation = "" ∨ ∃ mode ∈ propagationModes, ',' ∉ mode.toList ∧
        mode.toList <:+: parts.options ∧ w.propagation.toList <:+: mode.toList) := by
  obtain ⟨hsource, hdestination, haccess, hpropagation, -⟩ := normal?_eq_some h
  rw [hsource, hdestination]
  refine ⟨plainSource_isInfix _, (dropTrailingSlashes_isPrefix _).isInfix, haccess, ?_⟩
  rcases optionsPropagation_cases (Volume.options parts.options) with hnone | ⟨hmem, hmode⟩
  · rw [hnone] at hpropagation
    exact .inl (String.toList_eq_nil_iff.1 hpropagation)
  · obtain ⟨hpart, hcomma⟩ := infix_of_mem_options hmem
    rw [hpropagation]
    exact .inr ⟨_, hmode, hcomma, hpart, plainPropagation_isInfix _⟩

/-! ### Reading back -/

/-- How much text a volume holds. -/
def textLength (v : Volume) : Nat :=
  v.source.toList.length + v.destination.toList.length + v.propagation.toList.length

theorem entryParts?_toBind (hsource : ':' ∉ v.source.toList.dropWhile Text.isBlank)
    (hdestination : ':' ∉ v.destination.toList) : entryParts? (Text.trimChars v.toBind.toList) =
      some ⟨v.source.toList.dropWhile Text.isBlank, v.destination.toList,
        Text.dropEndWhile Text.isBlank v.entryOptions⟩ := by
  rw [trimChars_toBind]
  exact entryParts?_append hsource hdestination _

theorem textLength_lt_of_colon (h : ofBind v.toBind = .ok (some w))
    (hcolon : ':' ∈ v.source.toList.dropWhile Text.isBlank ∨ ':' ∈ v.destination.toList) :
    w.textLength < v.textLength := by
  obtain ⟨parts, hparts, -, hread⟩ := ofBind_eq_some_iff.1 h
  obtain ⟨hsource, hdestination, -, hpropagation⟩ := EntryParts.volume?_eq_some hread
  obtain ⟨source', destination', extra, hextra, hlt⟩ :=
    entryParts?_extra hcolon (Text.dropEndWhile Text.isBlank v.entryOptions)
  rw [trimChars_toBind, hextra, Option.some.injEq] at hparts
  subst hparts
  have hmode : w.propagation.toList.length ≤ extra.length + v.propagation.toList.length := by
    rcases hpropagation with hnone | ⟨mode, hmode, hcomma, hpart, hw⟩
    · rw [hnone]
      exact Nat.zero_le _
    · have hmodes : ∀ mode ∈ propagationModes, ':' ∉ mode.toList := by decide
      have hw := hw.length_le
      rcases Text.infix_append_cons hpart (hmodes mode hmode) with hextra | hopts
      · have hextra := hextra.length_le
        omega
      · have hopts := (infix_propagation hmode hcomma hopts).length_le
        omega
  have hs : w.source.toList.length ≤ source'.length := hsource.length_le
  have hd : w.destination.toList.length ≤ destination'.length := hdestination.length_le
  have hlength := (List.dropWhile_suffix Text.isBlank (l := v.source.toList)).length_le
  unfold textLength
  omega

theorem infix_of_ofBind_toBind (h : ofBind v.toBind = .ok (some w))
    (hsource : ':' ∉ v.source.toList.dropWhile Text.isBlank) (hdestination : ':' ∉ v.destination.toList) :
    w.source.toList <:+: v.source.toList ∧ w.destination.toList <:+: v.destination.toList ∧
      w.propagation.toList <:+: v.propagation.toList ∧
        w.access = optionsAccess (options (Text.dropEndWhile Text.isBlank v.entryOptions)) := by
  obtain ⟨parts, hparts, -, hread⟩ := ofBind_eq_some_iff.1 h
  obtain ⟨hs, hd, haccess, hpropagation⟩ := EntryParts.volume?_eq_some hread
  rw [entryParts?_toBind hsource hdestination, Option.some.injEq] at hparts
  subst hparts
  refine ⟨hs.trans (List.dropWhile_suffix Text.isBlank).isInfix, hd, ?_, haccess⟩
  rcases hpropagation with hnone | ⟨mode, hmode, hcomma, hpart, hw⟩
  · rw [hnone]
    exact List.nil_infix
  · exact hw.trans (infix_propagation hmode hcomma hpart)

/-- A volume that is read from the entry of another one holds less text. -/
theorem length_lt_or_eq_of_ofBind_toBind (h : ofBind v.toBind = .ok (some w)) :
    w.textLength < v.textLength ∨ w = v := by
  by_cases hcolon : ':' ∈ v.source.toList.dropWhile Text.isBlank ∨ ':' ∈ v.destination.toList
  · exact .inl (textLength_lt_of_colon h hcolon)
  · rw [not_or] at hcolon
    obtain ⟨hs, hd, hp, haccess⟩ := infix_of_ofBind_toBind h hcolon.1 hcolon.2
    have hslength := hs.length_le
    have hdlength := hd.length_le
    have hplength := hp.length_le
    by_cases hlt : w.textLength < v.textLength
    · exact .inl hlt
    · unfold textLength at hlt
      refine .inr ?_
      have hsource := String.toList_inj.1 (hs.eq_of_length (by omega))
      have hdestination := String.toList_inj.1 (hd.eq_of_length (by omega))
      have hpropagation := String.toList_inj.1 (hp.eq_of_length (by omega))
      have hmode : v.propagation ∈ entryModes := by
        rw [← hpropagation]
        exact (notMem_of_ofBind h).2.2.2
      rw [(optionsAccess_entryOptions hmode).1] at haccess
      cases v
      cases w
      rw [Volume.mk.injEq]
      exact ⟨hsource, hdestination, haccess, hpropagation⟩

theorem Canonical.ofBind_toBind_iff (hv : v.Canonical) :
    ofBind v.toBind = .ok (some v) ↔ v.FitsEntry := by
  have hdrop := List.dropWhile_suffix Text.isBlank (l := v.source.toList)
  constructor
  · intro h
    refine (fitsEntry_iff_of_ofBind h).2 (Text.dropWhile_eq_self_iff.1 (hdrop.eq_of_length_le ?_))
    obtain ⟨hsource, hdestination, -, -⟩ := notMem_of_ofBind h
    obtain ⟨parts, hparts, -, hread⟩ := ofBind_eq_some_iff.1 h
    rw [entryParts?_toBind (fun hmem => hsource (hdrop.subset hmem)) hdestination, Option.some.injEq] at hparts
    subst hparts
    exact (EntryParts.volume?_eq_some hread).1.length_le
  · intro h
    have hkept : v.source.toList.dropWhile Text.isBlank = v.source.toList :=
      Text.dropWhile_eq_self_iff.2 h.start
    have hsource : ':' ∉ v.source.toList.dropWhile Text.isBlank := by
      rw [hkept]
      exact h.source
    refine ofBind_eq_some_iff.2 ⟨_, entryParts?_toBind hsource h.destination, ?_, ?_⟩
    · rw [ne_eq, String.toList_eq_nil_iff]
      exact h.ne
    · obtain ⟨haccess, hmode⟩ := optionsAccess_entryOptions h.propagation
      rw [EntryParts.volume?, hkept, haccess]
      exact hv.normal? hmode

theorem setOfLive_toBind_iff {volumes : List Volume} (hcanonical : ∀ v ∈ volumes, v.Canonical) :
    setOfLive ((volumes.map toBind).map .str) = .ok (SortedSet.ofList volumes) ↔
      ∀ v ∈ volumes, v.FitsEntry := by
  have hentries : (volumes.map toBind).map Json.str = volumes.map fun v => .str v.toBind := List.map_map
  rw [hentries]
  constructor
  · intro h
    have honto : ∀ v ∈ volumes, ∃ u ∈ volumes, ofBind u.toBind = .ok (some v) := by
      intro v hv
      obtain ⟨report, hreport, hv⟩ := (mem_setOfLive h v).1 (SortedSet.mem_ofList.2 hv)
      obtain ⟨u, hu, rfl⟩ := List.mem_map.1 hreport
      exact ⟨u, hu, hv⟩
    -- reading loses text or nothing, so of finitely many volumes all are read from their own entries
    have hall : ∀ v ∈ volumes, ofBind v.toBind = .ok (some v) := by
      refine @eq_of_onto Volume textLength (fun u v => ofBind u.toBind = .ok (some v)) volumes ?_ ?_ honto
      · intro u v v' hv hv'
        rw [hv] at hv'
        exact Option.some.inj (Except.ok.inj hv')
      · exact fun u v => length_lt_or_eq_of_ofBind_toBind
    exact fun v hv => (hcanonical v hv).ofBind_toBind_iff.1 (hall v hv)
  · exact fun hfits => setOfLive_map fun v hv => (hcanonical v hv).ofBind_toBind_iff.2 (hfits v hv)

end Volume

/-! ### Requests -/

namespace Create.Docker

/-- A declared volume is read back from the entry that is written for it exactly if it fits into one, and so it is
with the volumes of a request. -/
theorem entries_read_back_iff (d : VolumeDeclaration) (s : Spec) :
    (∀ v, Volume.ofDeclared d = .ok (some v) →
      (Volume.ofBind v.toBind = .ok (some v) ↔ v.FitsEntry)) ∧
    ∀ r, request s = .ok r →
      (Volume.setOfLive (r.binds.map .str) = Volume.setOfDeclared s.volumes ↔
        ∀ d ∈ s.volumes, ∀ v, Volume.ofDeclared d = .ok (some v) → v.FitsEntry) := by
  refine ⟨fun v h => (Volume.canonical_of_ofDeclared h).ofBind_toBind_iff, fun r h => ?_⟩
  obtain ⟨volumes, hdeclared, hbinds⟩ := (request_requested h).2.binds
  have hset : Volume.setOfDeclared s.volumes = .ok (SortedSet.ofList volumes.reduceOption) :=
    Result.bind_eq_ok.2 ⟨volumes, hdeclared, rfl⟩
  have hmem : ∀ v, v ∈ volumes.reduceOption ↔ ∃ d ∈ s.volumes, Volume.ofDeclared d = .ok (some v) := by
    intro v
    rw [← Volume.mem_setOfDeclared hset, SortedSet.mem_ofList]
  have hcanonical : ∀ v ∈ volumes.reduceOption, v.Canonical := by
    intro v hv
    obtain ⟨d, -, hd⟩ := (hmem v).1 hv
    exact Volume.canonical_of_ofDeclared hd
  rw [hset, hbinds, Volume.setOfLive_toBind_iff hcanonical]
  constructor
  · exact fun hall d hd v hv => hall v ((hmem v).2 ⟨d, hd, hv⟩)
  · intro hall v hv
    obtain ⟨d, hd, hv⟩ := (hmem v).1 hv
    exact hall d hd v hv

/-- Of an entry for a configuration file and a record for a device, whose address has colons, the device is lost. -/
theorem entries_read_back_iff_device :
    let file := VolumeDeclaration.bind "/etc/web/:/etc/web:ro,rshared"
    let device := VolumeDeclaration.mount { source := "/sys/devices/0000:00:1f.2", destination := "/dev/disk" }
    let s : Spec := { name := some "web", image := some "nginx", volumes := [file, device] }
    (∃ v, Volume.ofDeclared file = .ok (some v) ∧ Volume.ofBind v.toBind = .ok (some v)) ∧
      ∃ r, request s = .ok r ∧ Volume.setOfLive (r.binds.map .str) ≠ Volume.setOfDeclared s.volumes := by
  intro file device s
  have hfile : Volume.ofDeclared file = .ok (some ⟨"/etc/web", "/etc/web", .readOnly, "shared"⟩) := by
    decide +kernel
  have hdevice : Volume.ofDeclared device =
      .ok (some ⟨"/sys/devices/0000:00:1f.2", "/dev/disk", .readWrite, ""⟩) := by
    decide +kernel
  have hstart : ∀ c, "/etc/web".toList.head? = some c → Text.isBlank c = false := by
    intro c hc
    have hslash : '/' = c := Option.some.inj hc
    rw [← hslash]
    decide
  have hfits : Volume.FitsEntry ⟨"/etc/web", "/etc/web", .readOnly, "shared"⟩ :=
    ⟨by decide, hstart, by decide, by decide, by decide⟩
  have hmade : (request s).map (fun _ => ()) = .ok () := by decide +kernel
  obtain ⟨r, hr, -⟩ := Result.map_eq_ok.1 hmade
  refine ⟨⟨_, hfile, ((entries_read_back_iff file s).1 _ hfile).2 hfits⟩, r, hr, fun h => ?_⟩
  have hfits := ((entries_read_back_iff file s).2 r hr).1 h device (.tail _ (.head _)) _ hdevice
  exact hfits.source (by decide)

/-- The entry that is written for a device mounts another path elsewhere. -/
theorem device_read_elsewhere :
    let device := VolumeDeclaration.mount { source := "/sys/devices/0000:00:1f.2", destination := "/dev/disk" }
    ∃ v w, Volume.ofDeclared device = .ok (some v) ∧ Volume.ofBind v.toBind = .ok (some w) ∧ w ≠ v := by
  refine ⟨⟨"/sys/devices/0000:00:1f.2", "/dev/disk", .readWrite, ""⟩, ⟨"/sys/devices/0000", "00", .readWrite, ""⟩,
    ?_, ?_, ?_⟩
  · decide +kernel
  · decide +kernel
  · decide

end Create.Docker

end Shipshape
