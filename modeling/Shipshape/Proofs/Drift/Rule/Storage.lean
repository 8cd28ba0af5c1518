import Shipshape.Proofs.Drift.Rule.Privilege
import Shipshape.Proofs.Permutation
import Shipshape.Proofs.Text

/-!
# File systems in memory of a new container

Engines report them by their paths. What was asked for reads back unless two of them have one path, or one
has options that are empty.

Proof outline. Reading an entry back never makes it longer (`length_tmpfsReported_le`), so if the live
entries are the desired ones in some order, every entry reads back as itself (`eq_of_perm_map`). Of two
entries with one path only one is reported, so there would be too few.
-/

namespace Shipshape

def tmpfsPath (entry : String) : String := (Memory.tmpfsField entry).1

/-- Different paths, and no options that are empty. -/
def Spec.KeepsTmpfs (s : Spec) : Prop :=
  ((s.tmpfs.filter (· != "")).map tmpfsPath).Nodup ∧
    ∀ entry ∈ s.tmpfs, entry ≠ "" → ∀ path, Text.splitFirst? ':' entry.toList ≠ some (path, [])

def tmpfsReported (entry : String) : String :=
  Comparison.tmpfsEntry (tmpfsPath entry) (Memory.tmpfsField entry).2.plainText

theorem tmpfsReported_of_split {entry : String} {path options : List Char}
    (h : Text.splitFirst? ':' entry.toList = some (path, options)) :
    tmpfsReported entry = if options = [] then .ofList path else entry := by
  have hfield : Memory.tmpfsField entry = (.ofList path, .str (.ofList options)) := by
    rw [Memory.tmpfsField, h]
  rw [tmpfsReported, tmpfsPath, hfield]
  obtain ⟨hentry, -⟩ := Text.splitFirst?_eq_some h
  show (if String.ofList options == "" then _ else _) = _
  by_cases ho : options = []
  · rw [ho]
    rfl
  · have hne : (String.ofList options == "") = false := by
      rw [beq_eq_false_iff_ne]
      intro hempty
      exact ho (by simpa using congrArg String.toList hempty)
    rw [if_neg ho, ← String.toList_inj]
    show (if String.ofList options == "" then _
      else String.ofList path ++ ":" ++ String.ofList options).toList = _
    rw [hne]
    simpa using hentry.symm

theorem tmpfsReported_of_notMem {entry : String} (h : Text.splitFirst? ':' entry.toList = none) :
    tmpfsReported entry = entry := by
  have hfield : Memory.tmpfsField entry = (entry, .str "") := by
    rw [Memory.tmpfsField, h]
  rw [tmpfsReported, tmpfsPath, hfield]
  rfl

theorem length_tmpfsReported_le (entry : String) :
    (tmpfsReported entry).length ≤ entry.length ∧
      ((tmpfsReported entry).length = entry.length → tmpfsReported entry = entry) := by
  cases h : Text.splitFirst? ':' entry.toList with
  | none =>
    rw [tmpfsReported_of_notMem h]
    exact ⟨Nat.le_refl _, fun _ => rfl⟩
  | some p =>
    obtain ⟨path, options⟩ := p
    rw [tmpfsReported_of_split h]
    split
    · have hlength : path.length < entry.length := by
        rw [← String.length_toList, (Text.splitFirst?_eq_some h).1]
        simp
      rw [String.length_ofList]
      exact ⟨by omega, fun heq => by omega⟩
    · exact ⟨Nat.le_refl _, fun _ => rfl⟩

theorem tmpfsReported_eq_self_iff {entry : String} :
    tmpfsReported entry = entry ↔ ∀ path, Text.splitFirst? ':' entry.toList ≠ some (path, []) := by
  cases h : Text.splitFirst? ':' entry.toList with
  | none => simp [tmpfsReported_of_notMem h]
  | some p =>
    obtain ⟨path, options⟩ := p
    rw [tmpfsReported_of_split h]
    by_cases ho : options = []
    · subst ho
      rw [if_pos rfl]
      refine ⟨fun heq => ?_, fun hne => absurd rfl (hne path)⟩
      have hentry := (Text.splitFirst?_eq_some h).1
      rw [← heq] at hentry
      have hlength := congrArg List.length hentry
      simp at hlength
    · simp [ho]

namespace Comparison

variable {s : Spec} {m : VolumeMatch} {r : ContainerRequest} {image : Option Image}

section

variable (h : Create.request s = .ok r)

include h

theorem volumesFromDiffer_ofRequest : (ofRequest s m r image).volumesFromDiffer = false := by
  have hr := Create.request_requested h
  have hlive : (ofRequest s m r image).live.hostTexts "VolumesFrom" = s.volumesFrom := by
    rw [← hr.volumesFrom]
    exact Memory.view_hostTexts hr.resources (by decide) rfl
  rw [volumesFromDiffer, liveVolumesFrom, hlive]
  simp [ofRequest, Comparator.beside]

theorem liveTmpfs_ofRequest : (ofRequest s m r image).liveTmpfs =
    sortedTexts (((Dict.ofList ((s.tmpfs.filter (· != "")).map Memory.tmpfsField)).entries.map
      fun e => tmpfsEntry e.1 e.2.plainText).filter (· != "")) := by
  have hr := Create.request_requested h
  have hlive : (ofRequest s m r image).live.hostValue? "Tmpfs" =
      some (.ofFields (r.tmpfs.map Memory.tmpfsField)) :=
    Memory.view_hostValue hr.resources (by decide)
  rw [liveTmpfs, hlive, hr.tmpfs]
  rfl

theorem tmpfsDiffers_ofRequest : (ofRequest s m r image).tmpfsDiffers = false ↔ s.KeepsTmpfs := by
  rw [tmpfsDiffers, liveTmpfs_ofRequest h, bne_eq_false_iff_eq]
  show sortedTexts (s.tmpfs.filter (· != "")) = _ ↔ _
  rw [sortedTexts_eq_iff]
  have hnonempty : ∀ entry ∈ s.tmpfs.filter (· != ""), (entry != "") = true := fun entry hentry =>
    (List.mem_filter.1 hentry).2
  have hkeeps : s.KeepsTmpfs ↔ (((s.tmpfs.filter (· != "")).map Memory.tmpfsField).map Prod.fst).Nodup ∧
      ∀ entry ∈ s.tmpfs.filter (· != ""), tmpfsReported entry = entry := by
    rw [Spec.KeepsTmpfs, List.map_map]
    refine and_congr Iff.rfl ?_
    simp only [tmpfsReported_eq_self_iff, List.mem_filter, and_imp, bne_iff_ne]
  rw [hkeeps]
  generalize s.tmpfs.filter (· != "") = entries at hnonempty ⊢
  have hmap : (entries.map Memory.tmpfsField).map (fun e => tmpfsEntry e.1 e.2.plainText) =
      entries.map tmpfsReported := by
    rw [List.map_map]
    rfl
  constructor
  · intro hperm
    have hlength := hperm.length_eq
    have hfilter := List.length_filter_le (· != "")
      ((Dict.ofList (entries.map Memory.tmpfsField)).entries.map fun e => tmpfsEntry e.1 e.2.plainText)
    rw [List.length_map] at hfilter
    have hpaths : ((entries.map Memory.tmpfsField).map Prod.fst).Nodup := by
      refine Dict.nodup_of_length_ofList ?_
      rw [List.length_map]
      omega
    have hall := ((Dict.ofList_perm hpaths).map fun e => tmpfsEntry e.1 e.2.plainText).filter (· != "")
    rw [hmap] at hall
    have hentries := hperm.trans hall
    have hkept : (entries.map tmpfsReported).filter (· != "") = entries.map tmpfsReported := by
      refine List.filter_sublist.eq_of_length_le ?_
      rw [← hentries.length_eq, List.length_map]
    rw [hkept] at hentries
    exact ⟨hpaths, eq_of_perm_map (fun entry _ => (length_tmpfsReported_le entry).1)
      (fun entry _ => (length_tmpfsReported_le entry).2) hentries.symm⟩
  · rintro ⟨hpaths, hsame⟩
    have hall := ((Dict.ofList_perm hpaths).map fun e => tmpfsEntry e.1 e.2.plainText).filter (· != "")
    rw [hmap, List.map_congr_left hsame, List.map_id', List.filter_eq_self.2 hnonempty] at hall
    exact hall.symm

end

end Comparison

end Shipshape
