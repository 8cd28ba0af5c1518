import Shipshape.Proofs.Create.Podman.Storage
import Shipshape.Proofs.Volume.Entry

/-!
# Entries that Podman reads

Podman has a reader of its own for entries. It does not trim blanks around an entry, reads terminals by their source
alone, and reads options in its own way: it trims those of host paths and takes the first propagation, and it
hands over those of named volumes as they are. Everything else it reads as it is compared (`keeps_entry_iff`).

Proof outline. Blanks around an entry stay at the ends of its source and of its last part (`exists_surrounds`),
and make a volume with other ends (`Surrounds.map_mounted_ne`). Without them what is left are the access and
the propagation.
-/

namespace Shipshape.Create.Podman

open Volume (EntryParts entryParts? normal? plain plainSource plainPropagation dropTrailingSlashes)

/-! ### Blanks around an entry -/

variable {parts raw : EntryParts} {entry : String} {access access' : Access} {opts opts' : List Char}

/-- The parts of an entry before blanks were trimmed off around it. -/
structure Surrounds (raw parts : EntryParts) : Prop where
  start : ∀ c, parts.source.head? = some c → Text.isBlank c = false
  source : raw.source = parts.source ∨
    (∃ c, raw.source.head? = some c ∧ Text.isBlank c = true) ∧ parts.source <:+ raw.source
  destination : raw.destination = parts.destination ∨
    (∃ c, raw.destination.getLast? = some c ∧ Text.isBlank c = true) ∧
      parts.destination.length < raw.destination.length

theorem notMem_blanks {cs : List Char} (h : ∀ c ∈ cs, Text.isBlank c = true) : ':' ∉ cs := by
  intro hmem
  exact absurd (h _ hmem) (by decide)

theorem firstPart_append_blanks (rest : List Char) {trail : List Char} (htrail : ∀ c ∈ trail, Text.isBlank c = true) :
    let part (cs : List Char) := ((Text.splitFirst? ':' cs).getD (cs, [])).1
    part (rest ++ trail) = part rest ∨
      (∃ c, (part (rest ++ trail)).getLast? = some c ∧ Text.isBlank c = true) ∧
        (part rest).length < (part (rest ++ trail)).length := by
  dsimp only
  cases hrest : Text.splitFirst? ':' rest with
  | some p =>
    obtain ⟨first, others⟩ := p
    obtain ⟨rfl, hfirst⟩ := Text.splitFirst?_eq_some hrest
    rw [List.append_assoc, List.cons_append, Text.splitFirst?_append hfirst]
    exact .inl rfl
  | none =>
    have hnone : Text.splitFirst? ':' (rest ++ trail) = none := by
      rw [Text.splitFirst?_eq_none_iff, List.mem_append, not_or]
      exact ⟨Text.splitFirst?_eq_none_iff.1 hrest, notMem_blanks htrail⟩
    rw [hnone]
    dsimp only [Option.getD_none]
    cases hlast : trail.getLast? with
    | none =>
      rw [List.getLast?_eq_none_iff.1 hlast, List.append_nil]
      exact .inl rfl
    | some c =>
      have hmem := List.mem_of_getLast? hlast
      have hlength := List.length_pos_of_mem hmem
      refine .inr ⟨⟨c, ?_, htrail c hmem⟩, ?_⟩
      · rw [List.getLast?_append, hlast]
        rfl
      · rw [List.length_append]
        omega

theorem exists_surrounds (h : entryParts? (Text.trimChars entry.toList) = some parts) :
    ∃ raw, entryParts? entry.toList = some raw ∧ Surrounds raw parts := by
  obtain ⟨lead, trail, hentry, hlead, htrail⟩ := Text.exists_blanks_trimChars entry.toList
  obtain ⟨⟨source, rest⟩, hsplit, rfl⟩ := Option.map_eq_some_iff.1 h
  obtain ⟨htrimmed, hsource⟩ := Text.splitFirst?_eq_some hsplit
  have hstart : ∀ c, source.head? = some c → Text.isBlank c = false := by
    intro c hc
    refine (Text.trimChars_eq_self_iff.1 (Text.trimChars_trimChars entry.toList)).1 c ?_
    rw [htrimmed, List.head?_append, hc]
    rfl
  have hlong : entry.toList = (lead ++ source) ++ ':' :: (rest ++ trail) := by
    rw [hentry, htrimmed]
    simp
  have hfirst : Text.splitFirst? ':' entry.toList = some (lead ++ source, rest ++ trail) := by
    rw [hlong]
    refine Text.splitFirst?_append ?_ _
    rw [List.mem_append, not_or]
    exact ⟨notMem_blanks hlead, hsource⟩
  have hleads : lead ++ source = source ∨
      (∃ c, (lead ++ source).head? = some c ∧ Text.isBlank c = true) ∧ source <:+ lead ++ source := by
    cases lead with
    | nil => exact .inl rfl
    | cons c lead => exact .inr ⟨⟨c, rfl, hlead c (.head _)⟩, List.suffix_append ..⟩
  refine ⟨⟨lead ++ source, ((Text.splitFirst? ':' (rest ++ trail)).getD (rest ++ trail, [])).1,
    ((Text.splitFirst? ':' (rest ++ trail)).getD (rest ++ trail, [])).2⟩, ?_, hstart, hleads,
    firstPart_append_blanks rest htrail⟩
  rw [entryParts?, hfirst]
  rfl

theorem Surrounds.source_eq_of_head (h : Surrounds raw parts) {c : Char} (hc : raw.source.head? = some c)
    (hblank : Text.isBlank c = false) : raw.source = parts.source := by
  rcases h.source with heq | ⟨⟨c', hc', hblank'⟩, -⟩
  · exact heq
  · rw [hc] at hc'
    injection hc' with hc'
    rw [hc', hblank'] at hblank
    cases hblank

theorem Surrounds.source_of_terminals (h : Surrounds raw parts) (hsource : raw.source = "devpts".toList) :
    raw.source = parts.source := by
  have hhead : raw.source.head? = some 'd' := by
    rw [hsource]
    rfl
  exact h.source_eq_of_head hhead (by decide)

theorem Surrounds.plainSource_ne (h : Surrounds raw parts) (hne : raw.source ≠ parts.source) :
    (∃ c, (plainSource raw.source).head? = some c ∧ Text.isBlank c = true) ∧
      plainSource raw.source ≠ plainSource parts.source := by
  obtain ⟨⟨c, hc, hblank⟩, hsuffix⟩ := h.source.resolve_left hne
  have hhead : (dropTrailingSlashes raw.source).head? = some c := by
    rw [Volume.head?_dropTrailingSlashes, hc]
  have hplain : plainSource raw.source = dropTrailingSlashes raw.source := by
    rcases Volume.plainSource_cases raw.source with ⟨hplain, -⟩ | hstored
    · exact hplain
    · rw [(Volume.storedName?_eq_some hstored).1] at hhead
      injection hhead with hslash
      rw [← hslash] at hblank
      exact absurd hblank (by decide)
  rw [hplain]
  refine ⟨⟨c, hhead, hblank⟩, fun heq => ?_⟩
  rcases Volume.plainSource_cases parts.source with ⟨hparts, -⟩ | hstored
  · rw [heq, hparts, Volume.head?_dropTrailingSlashes] at hhead
    rw [h.start c hhead] at hblank
    cases hblank
  · obtain ⟨hpath, -, hslash⟩ := Volume.storedName?_eq_some hstored
    have hstart : Volume.storageStart <:+: raw.source := by
      have hdrop : Volume.storageStart <+: dropTrailingSlashes parts.source := ⟨_, hpath.symm⟩
      exact (hdrop.trans (Volume.dropTrailingSlashes_isPrefix _)).isInfix.trans hsuffix.isInfix
    rw [← heq] at hslash
    exact hslash (Volume.slash_mem_dropTrailingSlashes hstart)

theorem Surrounds.destination_ne (h : Surrounds raw parts) (hne : raw.destination ≠ parts.destination) :
    (∃ c, (dropTrailingSlashes raw.destination).getLast? = some c ∧ Text.isBlank c = true) ∧
      dropTrailingSlashes raw.destination ≠ dropTrailingSlashes parts.destination := by
  obtain ⟨⟨c, hc, hblank⟩, hlength⟩ := h.destination.resolve_left hne
  have hkept : dropTrailingSlashes raw.destination = raw.destination := by
    refine Volume.dropTrailingSlashes_eq_self fun c' hc' => beq_false_of_ne ?_
    rw [hc] at hc'
    injection hc' with hc'
    rintro rfl
    rw [hc'] at hblank
    exact absurd hblank (by decide)
  rw [hkept]
  refine ⟨⟨c, hc, hblank⟩, fun heq => ?_⟩
  have hle := (Volume.dropTrailingSlashes_isPrefix parts.destination).length_le
  rw [← heq] at hle
  omega

/-- Other ends make another volume. -/
theorem Surrounds.map_mounted_ne (h : Surrounds raw parts)
    (hne : raw.source ≠ parts.source ∨ raw.destination ≠ parts.destination) :
    (normal? raw.source raw.destination access opts).map Volume.mounted ≠
      (normal? parts.source parts.destination access' opts').map Volume.mounted := by
  have hshown : (plain raw.source raw.destination access opts).isTerminalMount = false := by
    rw [Bool.eq_false_iff, ne_eq, Volume.isTerminalMount_plain_iff]
    rintro ⟨hdestination, hsource⟩
    rcases hne with hne | hne
    · obtain ⟨⟨c, hc, hblank⟩, -⟩ := h.plainSource_ne hne
      rcases hsource with hsource | hsource
      · rw [hsource] at hc
        cases hc
      · rw [hsource] at hc
        injection hc with hc
        rw [← hc] at hblank
        exact absurd hblank (by decide)
    · obtain ⟨⟨c, hc, hblank⟩, -⟩ := h.destination_ne hne
      rw [hdestination] at hc
      injection hc with hc
      rw [← hc] at hblank
      exact absurd hblank (by decide)
  exact Podman.map_mounted_ne hshown (hne.imp (fun hne => (h.plainSource_ne hne).2) fun hne =>
    (h.destination_ne hne).2)

/-! ### The parts of an entry -/

def requestedAccess (raw : EntryParts) : Access :=
  if raw.source.head? = some '/' then .ofWritable (!(options raw.options).contains "ro")
  else modeAccess (.ofList raw.options)

def requestedPropagation (raw : EntryParts) : String :=
  ((options raw.options).find? isPropagation).getD defaultPropagation

/-- The parts of an entry, as they are without the blanks around it and as Podman finds them, mean different
things. -/
inductive MisreadParts (parts raw : EntryParts) : Prop
  /-- The name of a volume cannot be empty. -/
  | unnamed (hsource : raw.source = [])
  /-- Terminals are known by their source alone. -/
  | terminals (hsource : raw.source = "devpts".toList)
      (h : dropTrailingSlashes parts.destination ≠ "/dev/pts".toList)
  | source (h : raw.source ≠ parts.source)
  | destination (hsource : raw.source ≠ "devpts".toList) (h : raw.destination ≠ parts.destination)
  | access {v : Volume} (hsource : raw.source ≠ "devpts".toList) (hread : parts.volume? = some v)
      (h : requestedAccess raw ≠ v.access)
  | propagation {v : Volume} (hsource : raw.source.head? = some '/') (hread : parts.volume? = some v)
      (h : plainPropagation (requestedPropagation raw).toList ≠ v.propagation.toList)

theorem ofParts_of_path (h : raw.source.head? = some '/') :
    ofParts raw.source raw.destination raw.options =
      bindMount (.ofList raw.source) (.ofList raw.destination) ((options raw.options).contains "ro")
        ((options raw.options).find? isPropagation) := if_pos h

theorem ofParts_of_terminals (h : raw.source = "devpts".toList) :
    ofParts raw.source raw.destination raw.options = terminalMount (.ofList raw.destination) := by
  rw [h]
  rfl

theorem ofParts_of_name (hpath : raw.source.head? ≠ some '/') (h : raw.source ≠ "devpts".toList) :
    ofParts raw.source raw.destination raw.options = .named ⟨.ofList raw.source, .ofList raw.destination,
      if raw.options.isEmpty then "rw" else .ofList raw.options⟩ := by
  rw [ofParts, if_neg hpath, if_neg h]

theorem modeAccess_of_options (opts : List Char) :
    modeAccess (if opts.isEmpty then "rw" else .ofList opts) = modeAccess (.ofList opts) := by
  cases opts with
  | nil => decide
  | cons c opts => rfl

theorem ne_terminals_of_path (h : raw.source.head? = some '/') : raw.source ≠ "devpts".toList := by
  intro hsource
  rw [hsource] at h
  exact absurd h (by decide)

theorem keeps_of_path (h : Surrounds raw parts) (hpath : raw.source.head? = some '/') :
    Keeps parts.volume? (some (ofParts raw.source raw.destination raw.options)) ↔
      raw.destination = parts.destination ∧ ∀ v, parts.volume? = some v → requestedAccess raw = v.access ∧
        plainPropagation (requestedPropagation raw).toList = v.propagation.toList := by
  have hsource := h.source_eq_of_head hpath (by decide)
  have hhead : (String.ofList raw.source).toList.head? = some '/' := by
    rw [String.toList_ofList, hpath]
  have haccess : requestedAccess raw = .ofWritable (!(options raw.options).contains "ro") := if_pos hpath
  rw [ofParts_of_path hpath, keeps_bindMount_iff hhead, String.toList_ofList, String.toList_ofList, ← haccess]
  by_cases hdestination : raw.destination = parts.destination
  · rw [EntryParts.volume?, hsource, hdestination, map_mounted_normal?_iff, map_propagation_normal?_iff]
    simp only [true_and, imp_and, forall_and]
    rfl
  · exact iff_of_false (fun hkeeps => h.map_mounted_ne (.inr hdestination) hkeeps.1) fun hends =>
      hdestination hends.1

theorem keeps_of_name (h : Surrounds raw parts) (hpath : raw.source.head? ≠ some '/')
    (hterminals : raw.source ≠ "devpts".toList) (hname : raw.source ≠ []) :
    Keeps parts.volume? (some (ofParts raw.source raw.destination raw.options)) ↔
      (raw.source = parts.source ∧ raw.destination = parts.destination) ∧
        ∀ v, parts.volume? = some v → requestedAccess raw = v.access := by
  have hne : String.ofList raw.source ≠ "" := by
    rw [ne_eq, ← String.toList_inj, String.toList_ofList]
    exact hname
  have haccess : requestedAccess raw = modeAccess (.ofList raw.options) := if_neg hpath
  rw [ofParts_of_name hpath hterminals, keeps_named_iff, reported?_named hne, String.toList_ofList,
    String.toList_ofList, modeAccess_of_options, ← haccess]
  by_cases hends : raw.source = parts.source ∧ raw.destination = parts.destination
  · rw [EntryParts.volume?, hends.1, hends.2, map_mounted_normal?_iff]
    exact (and_iff_right ⟨rfl, rfl⟩).symm
  · refine iff_of_false (fun hkeeps => h.map_mounted_ne ?_ hkeeps) fun hkeeps => hends hkeeps.1
    rwa [not_and_or] at hends

theorem keeps_of_terminals (h : Surrounds raw parts) (hsource : raw.source = "devpts".toList) :
    Keeps parts.volume? (some (ofParts raw.source raw.destination raw.options)) ↔
      dropTrailingSlashes parts.destination = "/dev/pts".toList := by
  have hparts := (h.source_of_terminals hsource).symm.trans hsource
  rw [ofParts_of_terminals hsource, keeps_terminalMount_iff, EntryParts.volume?, normal?_eq_none_iff (.inr hparts)]

theorem not_keeps_unnamed (h : Surrounds raw parts) (hsource : raw.source = []) :
    ¬ Keeps parts.volume? (some (ofParts raw.source raw.destination raw.options)) := by
  have hparts : parts.source = [] := by
    rcases h.source with heq | ⟨⟨c, hc, -⟩, -⟩
    · rw [← heq, hsource]
    · rw [hsource] at hc
      cases hc
  have hpath : raw.source.head? ≠ some '/' := by
    rw [hsource]
    nofun
  have hterminals : raw.source ≠ "devpts".toList := by
    rw [hsource]
    decide
  rw [ofParts_of_name hpath hterminals, keeps_named_iff, hsource]
  obtain ⟨w, hw, hstored⟩ := reported?_unnamed (.ofList raw.destination)
    (if raw.options.isEmpty then "rw" else .ofList raw.options)
  intro heq
  have hw : (Storage.named ⟨.ofList [], .ofList raw.destination,
      if raw.options.isEmpty then "rw" else .ofList raw.options⟩).reported? = some w := hw
  rw [hw] at heq
  obtain ⟨v, hv, hends⟩ := Option.map_eq_some_iff.1 heq.symm
  have hsame : v.source = w.source := congrArg (fun ends => ends.1) hends
  have hempty := (Volume.normal?_eq_some hv).1
  rw [hsame, hstored, hparts] at hempty
  exact absurd hempty (by decide)

theorem keeps_path_iff (h : Surrounds raw parts) (hpath : raw.source.head? = some '/') :
    Keeps parts.volume? (some (ofParts raw.source raw.destination raw.options)) ↔ ¬ MisreadParts parts raw := by
  have hterminals := ne_terminals_of_path hpath
  rw [keeps_of_path h hpath]
  constructor
  · rintro ⟨hdestination, hall⟩ hmisread
    cases hmisread with
    | unnamed hsource =>
      rw [hsource] at hpath
      cases hpath
    | terminals hsource => exact hterminals hsource
    | source hne => exact hne (h.source_eq_of_head hpath (by decide))
    | destination _ hne => exact hne hdestination
    | access _ hread hne => exact hne (hall _ hread).1
    | propagation _ hread hne => exact hne (hall _ hread).2
  · intro hread
    refine ⟨by_contra fun hne => hread (.destination hterminals hne), fun v hv => ⟨?_, ?_⟩⟩
    · exact by_contra fun hne => hread (.access hterminals hv hne)
    · exact by_contra fun hne => hread (.propagation hpath hv hne)

theorem keeps_terminals_iff (h : Surrounds raw parts) (hsource : raw.source = "devpts".toList) :
    Keeps parts.volume? (some (ofParts raw.source raw.destination raw.options)) ↔ ¬ MisreadParts parts raw := by
  rw [keeps_of_terminals h hsource]
  constructor
  · intro hdestination hmisread
    cases hmisread with
    | unnamed hempty =>
      rw [hempty] at hsource
      exact absurd hsource (by decide)
    | terminals _ hne => exact hne hdestination
    | source hne => exact hne (h.source_of_terminals hsource)
    | destination hne => exact hne hsource
    | access hne => exact hne hsource
    | propagation hpath => exact ne_terminals_of_path hpath hsource
  · exact fun hread => by_contra fun hne => hread (.terminals hsource hne)

theorem keeps_name_iff (h : Surrounds raw parts) (hpath : raw.source.head? ≠ some '/')
    (hterminals : raw.source ≠ "devpts".toList) :
    Keeps parts.volume? (some (ofParts raw.source raw.destination raw.options)) ↔ ¬ MisreadParts parts raw := by
  by_cases hname : raw.source = []
  · exact iff_of_false (not_keeps_unnamed h hname) fun hread => hread (.unnamed hname)
  · rw [keeps_of_name h hpath hterminals hname]
    constructor
    · rintro ⟨⟨hsource, hdestination⟩, hall⟩ hmisread
      cases hmisread with
      | unnamed hsource => exact hname hsource
      | terminals hsource => exact hterminals hsource
      | source hne => exact hne hsource
      | destination _ hne => exact hne hdestination
      | access _ hread hne => exact hne (hall _ hread)
      | propagation hsource => exact hpath hsource
    · intro hread
      refine ⟨⟨?_, ?_⟩, fun v hv => ?_⟩
      · exact by_contra fun hne => hread (.source hne)
      · exact by_contra fun hne => hread (.destination hterminals hne)
      · exact by_contra fun hne => hread (.access hterminals hv hne)

theorem keeps_parts_iff (h : Surrounds raw parts) :
    Keeps parts.volume? (some (ofParts raw.source raw.destination raw.options)) ↔ ¬ MisreadParts parts raw := by
  by_cases hpath : raw.source.head? = some '/'
  · exact keeps_path_iff h hpath
  · by_cases hterminals : raw.source = "devpts".toList
    · exact keeps_terminals_iff h hterminals
    · exact keeps_name_iff h hpath hterminals

theorem ofBind_eq_of_ne (hne : entry ≠ "") : ofBind entry =
    match entryParts? entry.toList with
    | none => .error (.malformedVolume entry)
    | some raw =>
      if raw.destination.isEmpty then .error (.malformedVolume entry)
      else .ok (some (ofParts raw.source raw.destination raw.options)) := by
  rw [ofBind, beq_false_of_ne hne, entryParts?]
  cases Text.splitFirst? ':' entry.toList with
  | none => rfl
  | some p => rfl

theorem Surrounds.destination_ne_nil (h : Surrounds raw parts) (hne : parts.destination ≠ []) :
    raw.destination ≠ [] := by
  rcases h.destination with heq | ⟨-, hlength⟩
  · rwa [heq]
  · exact List.ne_nil_of_length_pos (Nat.zero_lt_of_lt hlength)

theorem ofBind_of_blank (hblank : Text.trimChars entry.toList = []) (hne : entry ≠ "") :
    ofBind entry = .error (.malformedVolume entry) := by
  rw [ofBind_eq_of_ne hne]
  cases hraw : entryParts? entry.toList with
  | none => rfl
  | some raw =>
    obtain ⟨-, -, rest, htext⟩ := Volume.notMem_of_entryParts? hraw
    have hcolon := Text.trimChars_append_cons (c := ':') (by decide) raw.source rest
    rw [← htext, hblank] at hcolon
    exact absurd hcolon.symm (by simp)

theorem ofBind_of_parts (hparts : entryParts? (Text.trimChars entry.toList) = some parts)
    (hne : parts.destination ≠ []) : ∃ raw, entryParts? entry.toList = some raw ∧ Surrounds raw parts ∧
      ofBind entry = .ok (some (ofParts raw.source raw.destination raw.options)) := by
  obtain ⟨raw, hraw, hsurrounds⟩ := exists_surrounds hparts
  have hentry : entry ≠ "" := by
    rintro rfl
    cases hparts
  refine ⟨raw, hraw, hsurrounds, ?_⟩
  rw [ofBind_eq_of_ne hentry, hraw]
  exact if_neg (List.isEmpty_iff.not.2 (hsurrounds.destination_ne_nil hne))

theorem exists_ofBind_iff {volume : Option Volume} (h : Volume.ofBind entry = .ok volume) :
    (∃ storage, ofBind entry = .ok storage) ↔ (Text.trim entry = "" → entry = "") := by
  rcases Volume.cases_of_ofBind h with ⟨hblank, -⟩ | ⟨parts, hparts, hne, -⟩
  · have htrim : Text.trim entry = "" := by
      rw [Text.trim, hblank]
    constructor
    · rintro ⟨storage, hstorage⟩ -
      by_contra hentry
      rw [ofBind_of_blank hblank hentry] at hstorage
      cases hstorage
    · intro hempty
      rw [hempty htrim]
      exact ⟨none, rfl⟩
  · obtain ⟨raw, -, -, hread⟩ := ofBind_of_parts hparts hne
    refine iff_of_true ⟨_, hread⟩ fun htrim => ?_
    have hblank : Text.trimChars entry.toList = [] := by
      simpa [Text.trim] using congrArg String.toList htrim
    rw [hblank] at hparts
    cases hparts

/-! ### Whole entries -/

/-- Podman reads an entry as something else. -/
inductive MisreadEntry (entry : String) : Prop
  /-- Of the blank entries only the empty one is skipped. -/
  | blank (h : Text.trim entry = "") (hne : entry ≠ "")
  | parts {parts raw : EntryParts} (hparts : entryParts? (Text.trimChars entry.toList) = some parts)
      (hne : parts.destination ≠ []) (hraw : entryParts? entry.toList = some raw) (h : MisreadParts parts raw)

/-- Of the blank entries the empty one is kept: it is nothing. -/
theorem keeps_blank_iff (hblank : Text.trimChars entry.toList = []) :
    (∃ storage, ofBind entry = .ok storage ∧ Keeps none storage) ↔ ¬ MisreadEntry entry := by
  by_cases hempty : entry = ""
  · subst hempty
    refine iff_of_true ⟨none, rfl, keeps_none_iff.2 rfl⟩ fun hmis => ?_
    cases hmis with
    | blank _ hne => exact hne rfl
    | parts hparts => cases hparts
  · have htrim : Text.trim entry = "" := by
      rw [Text.trim, hblank]
    refine iff_of_false ?_ fun hmis => hmis (.blank htrim hempty)
    rintro ⟨storage, hstorage, -⟩
    rw [ofBind_of_blank hblank hempty] at hstorage
    cases hstorage

theorem misreadEntry_iff_of_parts (hparts : entryParts? (Text.trimChars entry.toList) = some parts)
    (hne : parts.destination ≠ []) (hraw : entryParts? entry.toList = some raw) :
    MisreadEntry entry ↔ MisreadParts parts raw := by
  refine ⟨fun hmis => ?_, fun hmis => .parts hparts hne hraw hmis⟩
  cases hmis with
  | blank htrim =>
    have hblank : Text.trimChars entry.toList = [] := by
      simpa [Text.trim] using congrArg String.toList htrim
    rw [hblank] at hparts
    cases hparts
  | parts hparts' _ hraw' hmis =>
    rw [Option.some.inj (hparts.symm.trans hparts'), Option.some.inj (hraw.symm.trans hraw')]
    exact hmis

theorem keeps_entry_iff {volume : Option Volume} (h : Volume.ofBind entry = .ok volume) :
    (∃ storage, ofBind entry = .ok storage ∧ Keeps volume storage) ↔ ¬ MisreadEntry entry := by
  rcases Volume.cases_of_ofBind h with ⟨hblank, rfl⟩ | ⟨parts, hparts, hne, rfl⟩
  · exact keeps_blank_iff hblank
  · obtain ⟨raw, hraw, hsurrounds, hread⟩ := ofBind_of_parts hparts hne
    rw [misreadEntry_iff_of_parts hparts hne hraw, ← keeps_parts_iff hsurrounds, hread]
    constructor
    · rintro ⟨storage, hstorage, hkeeps⟩
      rwa [Except.ok.inj hstorage]
    · exact fun hkeeps => ⟨_, rfl, hkeeps⟩

end Shipshape.Create.Podman
