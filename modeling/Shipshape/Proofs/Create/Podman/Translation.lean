import Shipshape.Proofs.Create.Podman.Entry

/-!
# The volumes that Podman is asked for

What Podman is asked for, and reports, is what was declared, unless a declaration means something else to Podman than
it does when volumes are compared (`translation_agrees_iff`): an entry that it misreads, or a record of
terminals elsewhere, without a source, or of a named volume that is mounted nowhere.

Proof outline. One declaration is kept unless it is misread (`keeps_iff`). A list is kept if all declarations are
(`agrees_of_keeps`); with other declarations beside it, what is misread may be made up for, alone it is not
(`keeps_of_agrees`).
-/

namespace Shipshape

def Mount.Named (m : Mount) (name : String) : Prop :=
  m.kind = some "volume" ∧ m.name = some name ∧ name ≠ ""

namespace Create.Podman

open Volume (normal? plain plainPropagation dropTrailingSlashes)

/-! ### Records -/

variable {m : Mount} {name : String}

theorem mountSource_of_named (h : m.Named name) : Volume.mountSource m = name := by
  rw [Volume.mountSource, h.1, h.2.1]
  exact if_neg fun heq => h.2.2 (beq_iff_eq.1 heq)

theorem mountSource_of_not_named (h : ∀ name, ¬ m.Named name) : Volume.mountSource m = m.source := by
  unfold Volume.mountSource
  split
  · next name hkind hname =>
    by_cases hempty : name = ""
    · exact if_pos (beq_iff_eq.2 hempty)
    · exact absurd ⟨hkind, hname, hempty⟩ (h name)
  · rfl

theorem ofMount?_of_named (h : m.Named name) :
    ofMount? m = some (.named ⟨name, m.destination, (Access.ofWritable m.writable).name⟩) := by
  have hfilter : m.name.filter (· != "") = some name := by
    rw [h.2.1]
    exact Option.filter_eq_some_iff.2 ⟨rfl, bne_iff_ne.2 h.2.2⟩
  rw [ofMount?, h.1, hfilter]
  rfl

theorem ofMount?_of_not_named (h : ∀ name, ¬ m.Named name) : ofMount? m =
    if m.kind = some "devpts" ∨ m.source = "devpts" then some (terminalMount m.destination)
    else if m.source.toList.head? = some '/' then
      some (bindMount m.source m.destination (!m.writable) (m.propagation.filter (· != "")))
    else if m.source ≠ "" then some (.named ⟨m.source, m.destination, (Access.ofWritable m.writable).name⟩)
    else none := by
  have hkind : (m.kind.getD "bind" == "devpts") = decide (m.kind = some "devpts") := by
    cases m.kind with
    | none => decide
    | some kind => exact Bool.eq_iff_iff.2 (by simp)
  unfold ofMount?
  split
  · next name hvolume hname =>
    obtain ⟨hname, hne⟩ := Option.filter_eq_some_iff.1 hname
    refine absurd ⟨?_, hname, bne_iff_ne.1 hne⟩ (h name)
    cases hk : m.kind with
    | none =>
      rw [hk] at hvolume
      exact absurd hvolume (by decide)
    | some kind =>
      rw [hk] at hvolume
      exact congrArg some hvolume
  · rw [hkind]
    simp only [Bool.or_eq_true, decide_eq_true_eq, beq_iff_eq, bne_iff_ne]

theorem plainPropagation_requested (propagation : Option String) :
    plainPropagation ((propagation.filter (· != "")).getD defaultPropagation).toList =
      plainPropagation (propagation.getD "").toList := by
  cases propagation with
  | none => decide
  | some mode =>
    by_cases hmode : mode = ""
    · rw [hmode]
      decide
    · have hfilter : (some mode).filter (· != "") = some mode :=
        Option.filter_eq_some_iff.2 ⟨rfl, bne_iff_ne.2 hmode⟩
      rw [hfilter]
      rfl

theorem ofMount?_of_sourceless (hkind : m.kind ≠ some "devpts") (hsource : m.source = "") :
    Volume.ofMount? m = if m.destination = "" then none
      else normal? (Volume.mountSource m).toList m.destination.toList (.ofWritable m.writable)
        (m.propagation.getD "").toList := by
  rw [Volume.ofMount?, if_neg hkind, hsource]
  simp only [BEq.rfl, Bool.true_and, beq_iff_eq]

/-- Podman takes a record for something else. -/
inductive MisreadRecord (m : Mount) : Prop
  /-- Terminals are known by their source alone. -/
  | terminals (hnamed : ∀ name, ¬ m.Named name) (hkind : m.kind ≠ some "devpts") (hsource : m.source = "devpts")
      (h : dropTrailingSlashes m.destination.toList ≠ "/dev/pts".toList)
  /-- There is nothing to be mounted. -/
  | sourceless (hnamed : ∀ name, ¬ m.Named name) (hkind : m.kind ≠ some "devpts") (hsource : m.source = "")
      (hdestination : m.destination ≠ "") (h : dropTrailingSlashes m.destination.toList ≠ "/dev/pts".toList)
  /-- A volume with a name is asked for, to be mounted nowhere. -/
  | nowhere {name : String} (hnamed : m.Named name) (hsource : m.source = "") (hdestination : m.destination = "")

theorem keeps_record_of_named (h : m.Named name) :
    Keeps (Volume.ofMount? m) (ofMount? m) ↔ ¬ (m.source = "" ∧ m.destination = "") := by
  have hread := reported?_named h.2.2 m.destination (Access.ofWritable m.writable).name
  rw [modeAccess_name] at hread
  have hkind : m.kind ≠ some "devpts" := by
    rw [h.1]
    decide
  have hends : ¬ (m.source = "" ∧ m.destination = "") → Volume.ofMount? m =
      normal? name.toList m.destination.toList (.ofWritable m.writable) (m.propagation.getD "").toList := by
    intro hends
    by_cases hsource : m.source = ""
    · rw [ofMount?_of_sourceless hkind hsource, mountSource_of_named h]
      exact if_neg fun hdestination => hends ⟨hsource, hdestination⟩
    · rw [ofMount?_of_source hkind hsource, mountSource_of_named h]
  rw [ofMount?_of_named h]
  constructor
  · rintro hkeeps ⟨hsource, hdestination⟩
    have hnone : Volume.ofMount? m = none := by
      rw [ofMount?_of_sourceless hkind hsource]
      exact if_pos hdestination
    have hshown : ¬ (plain name.toList m.destination.toList (.ofWritable m.writable) []).isTerminalMount := by
      rw [Volume.isTerminalMount_plain_iff, hdestination]
      exact fun hshown => absurd hshown.1 (by decide)
    rw [hnone, keeps_named_iff, hread, Volume.normal?_eq, if_neg hshown] at hkeeps
    cases hkeeps
  · intro hne
    rw [hends hne]
    exact keeps_of_normal? _ hread

theorem misreadRecord_iff_of_named (h : m.Named name) : MisreadRecord m ↔ m.source = "" ∧ m.destination = "" := by
  refine ⟨fun hmis => ?_, fun hends => .nowhere h hends.1 hends.2⟩
  cases hmis with
  | terminals hnot => exact absurd h (hnot name)
  | sourceless hnot => exact absurd h (hnot name)
  | nowhere _ hsource hdestination => exact ⟨hsource, hdestination⟩

theorem misreadRecord_iff_of_not_named (hnot : ∀ name, ¬ m.Named name) : MisreadRecord m ↔
    m.kind ≠ some "devpts" ∧ (m.source = "devpts" ∨ m.source = "" ∧ m.destination ≠ "") ∧
      dropTrailingSlashes m.destination.toList ≠ "/dev/pts".toList := by
  constructor
  · intro hmis
    cases hmis with
    | terminals _ hkind hsource h => exact ⟨hkind, .inl hsource, h⟩
    | sourceless _ hkind hsource hdestination h => exact ⟨hkind, .inr ⟨hsource, hdestination⟩, h⟩
    | nowhere h => exact absurd h (hnot _)
  · rintro ⟨hkind, hsource | ⟨hsource, hdestination⟩, h⟩
    · exact .terminals hnot hkind hsource h
    · exact .sourceless hnot hkind hsource hdestination h

section unnamed

variable (hnot : ∀ name, ¬ m.Named name) (hkind : m.kind ≠ some "devpts")
include hnot hkind

theorem keeps_record_of_terminals (hsource : m.source = "devpts") : Keeps (Volume.ofMount? m) (ofMount? m) ↔
    dropTrailingSlashes m.destination.toList = "/dev/pts".toList := by
  have hne : m.source ≠ "" := by
    rw [hsource]
    decide
  rw [ofMount?_of_not_named hnot, if_pos (.inr hsource), keeps_terminalMount_iff, ofMount?_of_source hkind hne,
    mountSource_of_not_named hnot, normal?_eq_none_iff (.inr (congrArg String.toList hsource))]

theorem keeps_record_of_sourceless (hsource : m.source = "") : Keeps (Volume.ofMount? m) (ofMount? m) ↔
    m.destination = "" ∨ dropTrailingSlashes m.destination.toList = "/dev/pts".toList := by
  have hrequest : ofMount? m = none := by
    rw [ofMount?_of_not_named hnot, hsource, if_neg (not_or.2 ⟨hkind, by decide⟩), if_neg (by decide),
      if_neg (not_not.2 rfl)]
  rw [hrequest, keeps_none_iff, ofMount?_of_sourceless hkind hsource]
  by_cases hdestination : m.destination = ""
  · rw [if_pos hdestination]
    exact iff_of_true rfl (.inl hdestination)
  · rw [if_neg hdestination, mountSource_of_not_named hnot,
      normal?_eq_none_iff (.inl (congrArg String.toList hsource))]
    exact (or_iff_right hdestination).symm

theorem keeps_record_of_source (hterminals : m.source ≠ "devpts") (hsource : m.source ≠ "") :
    Keeps (Volume.ofMount? m) (ofMount? m) := by
  rw [ofMount?_of_not_named hnot, if_neg (not_or.2 ⟨hkind, hterminals⟩), ofMount?_of_source hkind hsource,
    mountSource_of_not_named hnot]
  by_cases hpath : m.source.toList.head? = some '/'
  · rw [if_pos hpath, keeps_bindMount_iff hpath, Bool.not_not, map_mounted_normal?_iff,
      map_propagation_normal?_iff, plainPropagation_requested]
    refine ⟨fun v hv => ?_, fun v hv => ?_⟩
    · exact (Volume.normal?_eq_some hv).2.2.1.symm
    · exact (Volume.normal?_eq_some hv).2.2.2.1.symm
  · rw [if_neg hpath, if_pos hsource]
    have hread := reported?_named hsource m.destination (Access.ofWritable m.writable).name
    rw [modeAccess_name] at hread
    exact keeps_of_normal? _ hread

end unnamed

theorem keeps_record_iff : Keeps (Volume.ofMount? m) (ofMount? m) ↔ ¬ MisreadRecord m := by
  by_cases hnamed : ∃ name, m.Named name
  · obtain ⟨name, hnamed⟩ := hnamed
    rw [keeps_record_of_named hnamed, misreadRecord_iff_of_named hnamed]
  · have hnot : ∀ name, ¬ m.Named name := not_exists.1 hnamed
    rw [misreadRecord_iff_of_not_named hnot]
    by_cases hkind : m.kind = some "devpts"
    · have hnone : Volume.ofMount? m = none := if_pos hkind
      rw [ofMount?_of_not_named hnot, if_pos (.inl hkind), keeps_terminalMount_iff]
      exact iff_of_true hnone fun hmis => hmis.1 hkind
    · by_cases hterminals : m.source = "devpts"
      · rw [keeps_record_of_terminals hnot hkind hterminals]
        exact ⟨fun h hmis => hmis.2.2 h, fun hread => by_contra fun h => hread ⟨hkind, .inl hterminals, h⟩⟩
      · by_cases hsource : m.source = ""
        · rw [keeps_record_of_sourceless hnot hkind hsource]
          constructor
          · rintro h ⟨-, hsources, hne⟩
            exact h.elim ((hsources.resolve_left hterminals).2) hne
          · intro hread
            by_cases hdestination : m.destination = ""
            · exact .inl hdestination
            · exact .inr (by_contra fun h => hread ⟨hkind, .inr ⟨hsource, hdestination⟩, h⟩)
        · refine iff_of_true (keeps_record_of_source hnot hkind hterminals hsource) ?_
          rintro ⟨-, hsources, -⟩
          exact hsources.elim hterminals fun h => hsource h.1

/-! ### All declared volumes -/

/-- Podman takes a declared volume for something else. -/
def Misread : VolumeDeclaration → Prop
  | .bind entry => MisreadEntry entry
  | .mount m => MisreadRecord m

/-- A declared volume is kept unless Podman is asked for something else. -/
theorem keeps_iff {d : VolumeDeclaration} {volume : Option Volume} (h : Volume.ofDeclared d = .ok volume) :
    (∃ storage, ofDeclared d = .ok storage ∧ Keeps volume storage) ↔ ¬ Misread d := by
  cases d with
  | bind entry => exact keeps_entry_iff h
  | mount m =>
    have hvolume := Except.ok.inj h
    have hrecord : Keeps volume (ofMount? m) ↔ ¬ Misread (.mount m) := by
      rw [← hvolume]
      exact keeps_record_iff
    rw [← hrecord]
    constructor
    · rintro ⟨storage, hstorage, hkeeps⟩
      rwa [← Except.ok.inj hstorage] at hkeeps
    · exact fun hkeeps => ⟨_, rfl, hkeeps⟩

/-- What Podman is asked for, and reports, is what was declared, as far as all of it can be put into canonical
form. -/
def TranslationAgrees (declared : List VolumeDeclaration) : Prop :=
  ∀ desired, Volume.setOfDeclared declared = .ok desired → ∃ storages reported,
    storage declared = .ok storages ∧ Volume.setOfLive (storages.map Storage.report) = .ok reported ∧
    (∀ ends, (∃ v ∈ desired, v.mounted = ends) ↔ ∃ v ∈ reported, v.mounted = ends) ∧
    ∀ d ∈ declared, ∀ m v w, ofDeclared d = .ok (some (.mount m)) → m.kind = .bind →
      Volume.ofDeclared d = .ok (some v) → Volume.ofLive (Memory.reportedMount m) = .ok (some w) →
        w.propagation = v.propagation

theorem mem_storage {declared : List VolumeDeclaration} {storages : List Storage}
    (h : storage declared = .ok storages) (st : Storage) :
    st ∈ storages ↔ ∃ d ∈ declared, ofDeclared d = .ok (some st) := by
  obtain ⟨read, hread, hstorages⟩ := Result.bind_eq_ok.1 h
  injection hstorages with hstorages
  rw [← hstorages, List.reduceOption_mem_iff]
  constructor
  · exact Result.exists_of_mem_mapM hread
  · rintro ⟨d, hd, hst⟩
    obtain ⟨st', hmem, hst'⟩ := Result.exists_of_mapM hread hd
    rw [hst] at hst'
    rwa [Except.ok.inj hst']

theorem setOfLive_report (storages : List Storage) : Volume.setOfLive (storages.map Storage.report) =
    .ok (SortedSet.ofList (storages.map Storage.reported?).reduceOption) := by
  rw [Volume.setOfLive, Comparison.mapM_ofLive_map Storage.ofLive_report]
  rfl

theorem mem_reported {storages : List Storage} (v : Volume) :
    v ∈ (storages.map Storage.reported?).reduceOption ↔ ∃ st ∈ storages, st.reported? = some v := by
  rw [List.reduceOption_mem_iff, List.mem_map]

theorem Keeps.mounted_iff {volume : Option Volume} {kept : Option Storage} (h : Keeps volume kept)
    (ends : String × String × Access) : (∃ v, volume = some v ∧ v.mounted = ends) ↔
      ∃ st, kept = some st ∧ ∃ v, st.reported? = some v ∧ v.mounted = ends := by
  have hends := congrArg (· = some ends) h.1
  simp only [Option.map_eq_some_iff, Option.bind_eq_some_iff, eq_iff_iff] at hends
  rw [← hends]
  constructor
  · rintro ⟨v, ⟨st, hst, hv⟩, hends⟩
    exact ⟨st, hst, v, hv, hends⟩
  · rintro ⟨st, hst, v, hv, hends⟩
    exact ⟨v, ⟨st, hst, hv⟩, hends⟩

theorem agrees_of_keeps {declared : List VolumeDeclaration}
    (h : ∀ d ∈ declared, ∀ volume, Volume.ofDeclared d = .ok volume →
      ∃ kept, ofDeclared d = .ok kept ∧ Keeps volume kept) : TranslationAgrees declared := by
  intro desired hdesired
  obtain ⟨read, hread, -⟩ := Result.bind_eq_ok.1 hdesired
  have hkept : ∀ d ∈ declared, ∃ volume kept, Volume.ofDeclared d = .ok volume ∧ ofDeclared d = .ok kept ∧
      Keeps volume kept := by
    intro d hd
    obtain ⟨volume, -, hvolume⟩ := Result.exists_of_mapM hread hd
    obtain ⟨kept, hkept, hkeeps⟩ := h d hd volume hvolume
    exact ⟨volume, kept, hvolume, hkept, hkeeps⟩
  obtain ⟨kept, hall⟩ : ∃ kept, declared.mapM ofDeclared = .ok kept := by
    refine Result.exists_mapM_iff.2 fun d hd => ?_
    obtain ⟨-, kept, -, hkept, -⟩ := hkept d hd
    exact ⟨kept, hkept⟩
  have hstorage : storage declared = .ok kept.reduceOption := Result.bind_eq_ok.2 ⟨kept, hall, rfl⟩
  refine ⟨_, _, hstorage, setOfLive_report _, fun ends => ?_, fun d hd m v w hm _ hv hw => ?_⟩
  · constructor
    · rintro ⟨v, hv, hends⟩
      obtain ⟨d, hd, hv⟩ := (Volume.mem_setOfDeclared hdesired v).1 hv
      obtain ⟨volume, kept, hvolume, hkept, hkeeps⟩ := hkept d hd
      rw [hv] at hvolume
      obtain ⟨st, rfl, w, hw, hends⟩ := (hkeeps.mounted_iff ends).1 ⟨v, (Except.ok.inj hvolume).symm, hends⟩
      have hmem := (mem_reported w).2 ⟨st, (mem_storage hstorage st).2 ⟨d, hd, hkept⟩, hw⟩
      exact ⟨w, SortedSet.mem_ofList.2 hmem, hends⟩
    · rintro ⟨w, hw, hends⟩
      obtain ⟨st, hst, hw⟩ := (mem_reported w).1 (SortedSet.mem_ofList.1 hw)
      obtain ⟨d, hd, hst⟩ := (mem_storage hstorage st).1 hst
      obtain ⟨volume, kept, hvolume, hkept, hkeeps⟩ := hkept d hd
      rw [hst] at hkept
      obtain ⟨v, rfl, hends⟩ := (hkeeps.mounted_iff ends).2 ⟨st, (Except.ok.inj hkept).symm, w, hw, hends⟩
      exact ⟨v, (Volume.mem_setOfDeclared hdesired v).2 ⟨d, hd, hvolume⟩, hends⟩
  · obtain ⟨volume, kept, hvolume, hkept, hkeeps⟩ := hkept d hd
    rw [hv] at hvolume
    rw [hm] at hkept
    have hmode := hkeeps.2 m (Except.ok.inj hkept).symm
    rw [Volume.ofLive_reportedMount] at hw
    rw [Except.ok.inj hw, ← Except.ok.inj hvolume] at hmode
    exact Option.some.inj hmode

theorem mem_storage_singleton {d : VolumeDeclaration} {kept : Option Storage} {storages : List Storage}
    (h : storage [d] = .ok storages) (hkept : ofDeclared d = .ok kept) (st : Storage) :
    st ∈ storages ↔ kept = some st := by
  rw [mem_storage h]
  constructor
  · rintro ⟨d', hd', hst⟩
    rw [List.mem_singleton.1 hd', hkept] at hst
    exact Except.ok.inj hst
  · rintro rfl
    exact ⟨d, List.mem_singleton.2 rfl, hkept⟩

theorem kind_of_reported {m : MountRequest} {w : Volume} (h : Volume.ofMount? m.reported = some w) :
    m.kind = .bind := by
  cases hkind : m.kind with
  | bind => rfl
  | devpts =>
    have hnone : Volume.ofMount? m.reported = none := by
      refine if_pos ?_
      rw [MountRequest.reported, hkind]
      rfl
    rw [h] at hnone
    cases hnone

/-- What holds of a list with one declaration holds of the declaration. -/
theorem keeps_of_agrees {d : VolumeDeclaration} {volume : Option Volume} (hvolume : Volume.ofDeclared d = .ok volume)
    (h : TranslationAgrees [d]) : ∃ kept, ofDeclared d = .ok kept ∧ Keeps volume kept := by
  have hdesired : Volume.setOfDeclared [d] = .ok (SortedSet.ofList volume.toList) := by
    rw [Volume.setOfDeclared, List.mapM_cons, hvolume]
    cases volume with
    | none => rfl
    | some v => rfl
  obtain ⟨storages, reported, hstorage, hreported, hends, hmode⟩ := h _ hdesired
  obtain ⟨read, hread, -⟩ := Result.bind_eq_ok.1 hstorage
  obtain ⟨kept, -, hkept⟩ := Result.exists_of_mapM hread (List.mem_singleton.2 rfl)
  rw [setOfLive_report, Except.ok.injEq] at hreported
  have hmounted : (kept.bind Storage.reported?).map Volume.mounted = volume.map Volume.mounted := by
    refine Option.ext fun ends => ?_
    have hends := hends ends
    simp only [← hreported, mem_reported, mem_storage_singleton hstorage hkept, SortedSet.mem_ofList,
      Option.mem_toList] at hends
    simp only [Option.map_eq_some_iff, Option.bind_eq_some_iff, hends]
  refine ⟨kept, hkept, hmounted, fun m hm => ?_⟩
  rw [hm, Option.bind_some, Storage.reported?] at hmounted
  rw [hm] at hkept
  cases hw : Volume.ofMount? m.reported with
  | none =>
    rw [hw] at hmounted
    rw [Option.map_eq_none_iff.1 hmounted.symm]
  | some w =>
    rw [hw] at hmounted
    obtain ⟨v, rfl, -⟩ := Option.map_eq_some_iff.1 hmounted.symm
    have hlive : Volume.ofLive (Memory.reportedMount m) = .ok (some w) := by
      rw [Volume.ofLive_reportedMount, hw]
    exact congrArg some (hmode d (List.mem_singleton.2 rfl) m v w hkept (kind_of_reported hw) hvolume hlive)

theorem exists_volume_of_misread {d : VolumeDeclaration} (h : Misread d) :
    ∃ volume, Volume.ofDeclared d = .ok volume := by
  cases d with
  | mount m => exact ⟨_, rfl⟩
  | bind entry =>
    cases h with
    | blank h => exact ⟨none, Volume.ofBind_of_suppressed (.blank h)⟩
    | parts hparts hne => exact ⟨_, Volume.ofBind_eq_ok_of_parts hparts hne⟩

theorem not_agrees_of_misread {d : VolumeDeclaration} (h : Misread d) : ¬ TranslationAgrees [d] := by
  intro hagrees
  obtain ⟨volume, hvolume⟩ := exists_volume_of_misread h
  exact (keeps_iff hvolume).1 (keeps_of_agrees hvolume hagrees) h

/-- Whichever of the declared volumes Podman is asked for, it is asked for what was declared, exactly if it misreads
none of them. -/
theorem translation_agrees_iff (declared : List VolumeDeclaration) :
    (∀ chosen ⊆ declared, TranslationAgrees chosen) ↔ ∀ d ∈ declared, ¬ Misread d := by
  constructor
  · intro hagrees d hd hmisread
    exact not_agrees_of_misread hmisread (hagrees [d] (List.cons_subset.2 ⟨hd, List.nil_subset _⟩))
  · intro hclear chosen hchosen
    exact agrees_of_keeps fun d hd _ hvolume => (keeps_iff hvolume).2 (hclear d (hchosen hd))

theorem translation_agrees_iff_common :
    let declared : List VolumeDeclaration := [.bind "", .bind "devpts:/dev/pts", .bind "logs:/var/log/:ro",
      .bind "/etc/web:/etc/web:ro,rshared", .mount { source := "/run", destination := "/run", writable := false }]
    (∀ d ∈ declared, ¬ Misread d) ∧ TranslationAgrees declared := by
  intro declared
  have hread : ∀ d ∈ declared, ∃ volume kept, Volume.ofDeclared d = .ok volume ∧ ofDeclared d = .ok kept ∧
      Keeps volume kept := by
    refine List.forall_mem_cons.2 ⟨?_, List.forall_mem_cons.2 ⟨?_, List.forall_mem_cons.2 ⟨?_,
      List.forall_mem_cons.2 ⟨?_, List.forall_mem_singleton.2 ?_⟩⟩⟩⟩
    · exact ⟨none, none, rfl, rfl, rfl, nofun⟩
    · exact ⟨none, some (terminalMount "/dev/pts"), by decide +kernel, by decide +kernel,
        keeps_terminalMount_iff.2 rfl⟩
    · exact ⟨some ⟨"logs", "/var/log", .readOnly, ""⟩, some (.named ⟨"logs", "/var/log/", "ro"⟩),
        by decide +kernel, by decide +kernel, keeps_named_iff.2 (by decide +kernel)⟩
    · exact ⟨some ⟨"/etc/web", "/etc/web", .readOnly, "shared"⟩,
        some (bindMount "/etc/web" "/etc/web" true (some "rshared")), by decide +kernel, by decide +kernel,
        keeps_mount_iff.2 (by decide +kernel)⟩
    · exact ⟨some ⟨"/run", "/run", .readOnly, ""⟩, some (bindMount "/run" "/run" true none), by decide +kernel,
        by decide +kernel, keeps_mount_iff.2 (by decide +kernel)⟩
  have hclear : ∀ d ∈ declared, ¬ Misread d := by
    intro d hd
    obtain ⟨volume, kept, hvolume, hkept, hkeeps⟩ := hread d hd
    exact (keeps_iff hvolume).1 ⟨kept, hkept, hkeeps⟩
  exact ⟨hclear, (translation_agrees_iff declared).2 hclear declared (List.Subset.refl _)⟩

/-- Blanks and a second propagation are read in two ways. -/
theorem entries_misread : ¬ TranslationAgrees [.bind "   "] ∧ ¬ TranslationAgrees [.bind " /data:/data"] ∧
    ¬ TranslationAgrees [.bind "/data:/data: ro"] ∧ ¬ TranslationAgrees [.bind "/data:/data:slave,shared"] := by
  refine ⟨not_agrees_of_misread ?_, not_agrees_of_misread ?_, not_agrees_of_misread ?_, not_agrees_of_misread ?_⟩
  · exact .blank (by decide +kernel) (by decide)
  · exact .parts rfl nofun rfl (.source (by decide))
  · exact .parts rfl nofun rfl (.access (by decide) rfl (by decide +kernel))
  · exact .parts rfl nofun rfl (.propagation rfl rfl (by decide +kernel))

end Create.Podman

end Shipshape
