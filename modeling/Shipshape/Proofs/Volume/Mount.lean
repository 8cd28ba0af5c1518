import Shipshape.Proofs.Volume.Entry

/-!
# Mounts written as entries

A mount that has neither a kind nor a name, and whose ends can stand in an entry, is declared as well by an entry
`source:destination:options`. Its options are the access mode and the propagation of the mount, in any order and
with any others in between that mean nothing (`ofBind_entry`).
-/

namespace Shipshape

def Mount.options (m : Mount) : List String := (Access.ofWritable m.writable).name :: m.propagation.toList

def Mount.entry (m : Mount) (options : List String) : String :=
  m.source ++ ":" ++ m.destination ++ ":" ++ ",".intercalate options

/-- A mount that an entry can declare. -/
structure Mount.FitsEntry (m : Mount) : Prop where
  kind : m.kind = none
  name : m.name = none
  source : ':' ∉ m.source.toList
  start : ∀ c, m.source.toList.head? = some c → Text.isBlank c = false
  destination : ':' ∉ m.destination.toList
  ne : m.destination ≠ ""
  propagation : ∀ mode ∈ m.propagation, mode ∈ Volume.propagationModes

namespace Volume

/-- The options that mean something. -/
def knownOptions : List String := "rw" :: "ro" :: propagationModes

/-- An option that means nothing. -/
structure Idle (option : String) : Prop where
  unknown : option ∉ knownOptions
  comma : ',' ∉ option.toList
  blank : ∀ c ∈ option.toList, Text.isBlank c = false

/-! ### Reading options -/

variable {texts : List String}

theorem options_intercalate (hne : texts ≠ []) (hcomma : ∀ text ∈ texts, ',' ∉ text.toList) :
    options (",".intercalate texts).toList = texts.filter (· != "") := by
  have hsplit : ([','].intercalate (texts.map String.toList)).splitOnP (· == ',') = texts.map String.toList :=
    List.splitOn_intercalate ',' (by simpa using hcomma) (by simpa using hne)
  have hseparator : ",".toList = [','] := rfl
  rw [options, String.toList_intercalate, hseparator, hsplit, List.filter_map, List.map_map]
  have hkept : ((fun cs : List Char => !cs.isEmpty) ∘ String.toList) = (· != "") := by
    funext text
    rw [Bool.eq_iff_iff]
    simp [String.toList_eq_nil_iff]
  have hread : (String.ofList ∘ String.toList) = id := funext fun _ => String.ofList_toList
  rw [hkept, hread, List.map_id]

theorem optionsPropagation_eq {mode : Option String} (hmode : ∀ text ∈ mode, text ∈ texts ∧ text ∈ propagationModes)
    (honly : ∀ text ∈ texts, text ∈ propagationModes → text ∈ mode) :
    optionsPropagation texts = mode.getD "" := by
  unfold optionsPropagation
  cases hfind : texts.reverse.find? propagationModes.contains with
  | none =>
    have hnone : mode = none := by
      refine Option.eq_none_iff_forall_not_mem.2 fun text htext => ?_
      obtain ⟨hmem, hknown⟩ := hmode text htext
      have hunknown := List.find?_eq_none.1 hfind text (List.mem_reverse.2 hmem)
      exact hunknown (List.contains_iff_mem.2 hknown)
    rw [hnone]
  | some text =>
    have hmem := List.mem_reverse.1 (List.mem_of_find?_eq_some hfind)
    have hknown := List.contains_iff_mem.1 (List.find?_some hfind)
    rw [honly text hmem hknown]

/-! ### The options of a mount -/

/-- Options that say what a mount is like, and can stand in an entry. -/
structure Describes (texts : List String) (m : Mount) : Prop where
  known : ∀ option ∈ knownOptions, option ∈ texts ↔ option ∈ m.options
  comma : ∀ option ∈ texts, ',' ∉ option.toList
  blank : ∀ option ∈ texts, ∀ c ∈ option.toList, Text.isBlank c = false

variable {m : Mount}

theorem mem_knownOptions_of_mode {mode : String} (h : mode ∈ propagationModes) : mode ∈ knownOptions :=
  List.mem_cons_of_mem _ (List.mem_cons_of_mem _ h)

theorem ne_empty_of_known {option : String} (h : option ∈ knownOptions) : option ≠ "" := by
  have hall : ∀ option ∈ knownOptions, option ≠ "" := by decide
  exact hall option h

theorem forall_notBlank {option : String} (h : option.toList.any Text.isBlank = false) :
    ∀ c ∈ option.toList, Text.isBlank c = false := by
  simpa using h

theorem describes_of_perm {unknown : List String} (h : m.FitsEntry) (hunknown : ∀ option ∈ unknown, Idle option)
    (hoptions : texts.Perm (m.options ++ unknown)) : Describes texts m := by
  have hplain : ∀ option ∈ knownOptions, ',' ∉ option.toList ∧ option.toList.any Text.isBlank = false := by decide
  have hknown : ∀ option ∈ m.options, option ∈ knownOptions := by
    intro option hoption
    rcases List.mem_cons.1 hoption with rfl | hmode
    · cases m.writable with
      | true => decide
      | false => decide
    · exact mem_knownOptions_of_mode (h.propagation _ (Option.mem_toList.1 hmode))
  have hmem : ∀ option, option ∈ texts ↔ option ∈ m.options ∨ option ∈ unknown := by
    intro option
    rw [hoptions.mem_iff, List.mem_append]
  refine ⟨fun option hoption => ?_, fun option hoption => ?_, fun option hoption => ?_⟩
  · rw [hmem]
    exact or_iff_left fun hidle => (hunknown option hidle).unknown hoption
  · rcases (hmem option).1 hoption with hoption | hoption
    · exact (hplain option (hknown option hoption)).1
    · exact (hunknown option hoption).comma
  · rcases (hmem option).1 hoption with hoption | hoption
    · exact forall_notBlank (hplain option (hknown option hoption)).2
    · exact (hunknown option hoption).blank

namespace Describes

variable (h : Describes texts m) (hm : m.FitsEntry)
include h

theorem ne_nil : texts ≠ [] := by
  -- The access mode is always among the options.
  have haccess : (Access.ofWritable m.writable).name ∈ knownOptions := by
    cases m.writable with
    | true => decide
    | false => decide
  exact List.ne_nil_of_mem ((h.known _ haccess).2 (List.mem_cons_self ..))

include hm

theorem optionsAccess_eq : optionsAccess (texts.filter (· != "")) = .ofWritable m.writable := by
  have hmode : "ro" ∉ m.propagation.toList := fun hmem =>
    absurd (hm.propagation _ (Option.mem_toList.1 hmem)) (by decide)
  have hread : (texts.filter (· != "")).contains "ro" = !m.writable := by
    rw [Bool.eq_iff_iff, List.contains_iff_mem, List.mem_filter, h.known "ro" (by decide), Mount.options,
      List.mem_cons, or_iff_left hmode]
    cases m.writable with
    | true => decide
    | false => decide
  rw [optionsAccess, hread, Bool.not_not]

theorem optionsPropagation_eq : optionsPropagation (texts.filter (· != "")) = m.propagation.getD "" := by
  refine Volume.optionsPropagation_eq (fun mode hmode => ?_) fun option hoption hmode => ?_
  · have hknown := mem_knownOptions_of_mode (hm.propagation mode hmode)
    refine ⟨List.mem_filter.2 ⟨?_, bne_iff_ne.2 (ne_empty_of_known hknown)⟩, hm.propagation mode hmode⟩
    rw [h.known mode hknown]
    exact List.mem_cons_of_mem _ (Option.mem_toList.2 hmode)
  · have haccess : ∀ access : Access, access.name ∉ propagationModes := by
      rintro (_ | _)
      · decide
      · decide
    have hoption := (h.known option (mem_knownOptions_of_mode hmode)).1 (List.mem_filter.1 hoption).1
    rcases List.mem_cons.1 hoption with rfl | hoption
    · exact absurd hmode (haccess _)
    · exact Option.mem_toList.1 hoption

end Describes

theorem ofMount?_eq_of_fitsEntry (hm : m.FitsEntry) : ofMount? m =
    normal? m.source.toList m.destination.toList (.ofWritable m.writable) (m.propagation.getD "").toList := by
  have hsource : mountSource m = m.source := by
    rw [mountSource, hm.kind]
  rw [ofMount?, hm.kind, if_neg nofun, if_neg, hsource]
  rw [Bool.and_eq_true, beq_iff_eq, beq_iff_eq]
  exact fun hempty => hm.ne hempty.2

/-- A mount that fits into an entry is what is read from the entry, in whatever order its options stand and whatever
idle ones stand among them. -/
theorem ofBind_entry {unknown : List String} (hm : m.FitsEntry) (hunknown : ∀ option ∈ unknown, Idle option)
    (hoptions : texts.Perm (m.options ++ unknown)) : ofBind (m.entry texts) = .ok (ofMount? m) := by
  have h := describes_of_perm hm hunknown hoptions
  have hentry : (m.entry texts).toList =
      m.source.toList ++ ':' :: (m.destination.toList ++ ':' :: (",".intercalate texts).toList) := by
    simp [Mount.entry, String.toList_append]
  -- No blank is an option's, so trimming an entry takes nothing from its end.
  have hend : Text.dropEndWhile Text.isBlank (",".intercalate texts).toList = (",".intercalate texts).toList := by
    rw [Text.dropEndWhile_eq_rdropWhile, Text.rdropWhile_eq_self_iff, String.toList_intercalate]
    intro c hc
    rcases Text.mem_of_mem_intercalate (List.mem_of_getLast? hc) with hcomma | ⟨cs, hcs, hc⟩
    · rw [List.mem_singleton.1 hcomma]
      decide
    · obtain ⟨option, hoption, rfl⟩ := List.mem_map.1 hcs
      exact h.blank option hoption c hc
  have htrim : Text.trimChars (m.entry texts).toList = (m.entry texts).toList := by
    rw [hentry, Text.trimChars_append_cons (by decide), Text.dropEndWhile_append_cons (by decide), hend,
      Text.dropWhile_eq_self_iff.2 hm.start]
  have hparts := entryParts?_append hm.source hm.destination (",".intercalate texts).toList
  rw [← hentry, ← htrim] at hparts
  rw [ofBind_eq_ok_of_parts hparts fun hempty => hm.ne (String.toList_eq_nil_iff.1 hempty), EntryParts.volume?,
    options_intercalate h.ne_nil h.comma, h.optionsAccess_eq hm, h.optionsPropagation_eq hm,
    ofMount?_eq_of_fitsEntry hm]

theorem ofBind_entry_data :
    let m : Mount := { source := "/srv/data/", destination := "/data", writable := false, propagation := some "rslave" }
    m.FitsEntry ∧ ["noexec", "rslave", "z", "ro"].Perm (m.options ++ ["z", "noexec"]) ∧
      ofBind "/srv/data/:/data:noexec,rslave,z,ro" = .ok (ofMount? m) := by
  intro m
  have hm : m.FitsEntry := by
    refine ⟨rfl, rfl, by decide, fun c hc => ?_, by decide, by decide, fun mode hmode => ?_⟩
    · have hhead : m.source.toList.head? = some '/' := by decide
      rw [hhead] at hc
      rw [← Option.some.inj hc]
      decide
    · obtain rfl : "rslave" = mode := Option.some.inj hmode
      decide
  have hunknown : ∀ option ∈ ["z", "noexec"], Idle option := by
    intro option hoption
    rcases List.mem_pair.1 hoption with rfl | rfl
    · exact ⟨by decide, by decide, forall_notBlank (by decide)⟩
    · exact ⟨by decide, by decide, forall_notBlank (by decide)⟩
  have hoptions : ["noexec", "rslave", "z", "ro"].Perm (m.options ++ ["z", "noexec"]) := by decide
  have hentry : m.entry ["noexec", "rslave", "z", "ro"] = "/srv/data/:/data:noexec,rslave,z,ro" := by
    decide +kernel
  refine ⟨hm, hoptions, ?_⟩
  rw [← hentry]
  exact ofBind_entry hm hunknown hoptions

end Volume

end Shipshape
