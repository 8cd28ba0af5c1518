import Shipshape.Proofs.Drift.Secrecy
import Shipshape.Proofs.Permutation
import Shipshape.Proofs.Volume

/-!
# Lists in another order

A comparison finds the same, and notes the same, if the lists on either side are put in another order, if
capabilities and volumes are repeated, and if entries come or go that do not count (`rearranging_unnoticed`).

Proof outline. Only five rules read a list (`differs_of_sameOutsideLists`). Capabilities and volumes are compared
as sets, so only their members count (`canonicalSet_congr`, `toOption_setOf_congr`); the other lists are sorted
before they are compared (`sortedTexts_eq_iff`). A list with an entry that cannot be read has one in every order,
but which of several is complained about depends on the order: the errors of the two sides may differ.
-/

namespace Shipshape

/-! ### Lists on both sides -/

abbrev Capability.Blank (name : String) : Prop := Text.trim name = ""

/-- Two specifications are the same up to the order of lists, repeated capabilities and volumes, and entries that
do not count. -/
structure Spec.SameLists (s s' : Spec) : Prop where
  others : ∃ volumes volumesFrom tmpfs capAdd securityOpt,
    s' = { s with volumes, volumesFrom, tmpfs, capAdd, securityOpt }
  capAdd : Rearranged True Capability.Blank s.capAdd s'.capAdd
  securityOpt : s.securityOpt.Perm s'.securityOpt
  volumesFrom : s.volumesFrom.Perm s'.volumesFrom
  tmpfs : Rearranged False (· = "") s.tmpfs s'.tmpfs
  volumes : Rearranged True Volume.Suppressed s.volumes s'.volumes

/-- The items of a field that is a list or missing. -/
def Json.listed? : Option Json → Option (List Json)
  | none => some []
  | some .null => some []
  | some (.arr items) => some items
  | some _ => none

/-- A field has the same value, or its list is rearranged; a missing list is empty. -/
def Json.RearrangedField (repeats : Prop) (suppressed : Json → Prop) (v v' : Option Json) : Prop :=
  v = v' ∨ ∃ l l', listed? v = some l ∧ listed? v' = some l' ∧ Rearranged repeats suppressed l l'

open Json (RearrangedField)

/-- Two live documents are the same up to the order of lists, repeated capabilities and volumes, and entries that
do not count. -/
structure Inspection.SameLists (live live' : Inspection) : Prop where
  top : ∀ k, k ≠ "HostConfig" → k ≠ "Mounts" → live.document.get? k = live'.document.get? k
  host : ∀ k ∉ listFields, live.hostConfig.get? k = live'.hostConfig.get? k
  capAdd : RearrangedField True (fun v => Capability.Blank v.plainText)
    (live.hostConfig.get? "CapAdd") (live'.hostConfig.get? "CapAdd")
  securityOpt : RearrangedField False (fun _ => False)
    (live.hostConfig.get? "SecurityOpt") (live'.hostConfig.get? "SecurityOpt")
  volumesFrom : RearrangedField False (fun _ => False)
    (live.hostConfig.get? "VolumesFrom") (live'.hostConfig.get? "VolumesFrom")
  tmpfs : RearrangedField False (fun v => v.plainText = "")
    (live.hostConfig.get? "Tmpfs") (live'.hostConfig.get? "Tmpfs")
  binds : RearrangedField True Volume.SuppressedLive
    (live.hostConfig.get? "Binds") (live'.hostConfig.get? "Binds")
  mounts : RearrangedField True Volume.SuppressedLive
    (live.document.get? "Mounts") (live'.document.get? "Mounts")

namespace Json

variable {repeats : Prop} {suppressed : Json → Prop} {v v' : Option Json} {l : List Json}

theorem RearrangedField.of_lists {l' : List Json} (hv : v = some (.arr l)) (hv' : v' = some (.arr l'))
    (h : Rearranged repeats suppressed l l') : RearrangedField repeats suppressed v v' := by
  subst hv hv'
  exact .inr ⟨l, l', rfl, rfl, h⟩

/-- The value that is read where `null` is as good as nothing. -/
def setOrNull (v : Option Json) : Json := (v.filter (!·.isNull)).getD .null

theorem value_of_listed (h : listed? v = some l) :
    v.filter (!·.isNull) = some (.arr l) ∨ v.filter (!·.isNull) = none ∧ l = [] := by
  unfold listed? at h
  split at h
  · exact .inr ⟨rfl, (Option.some.inj h).symm⟩
  · exact .inr ⟨rfl, (Option.some.inj h).symm⟩
  · rw [Option.some.inj h]
    exact .inl rfl
  · cases h

theorem items_of_listed (h : listed? v = some l) : (setOrNull v).items = l := by
  unfold setOrNull
  rcases value_of_listed h with hlist | ⟨hnone, hl⟩
  · rw [hlist]
    rfl
  · rw [hnone, hl]
    rfl

theorem plainTexts_of_listed (h : listed? v = some l) : (setOrNull v).plainTexts = l.map plainText := by
  unfold setOrNull
  rcases value_of_listed h with hlist | ⟨hnone, hl⟩
  · rw [hlist]
    rfl
  · rw [hnone, hl]
    rfl

theorem RearrangedField.items (h : RearrangedField repeats suppressed v v') :
    Rearranged repeats suppressed (setOrNull v).items (setOrNull v').items := by
  rcases h with rfl | ⟨l, l', hl, hl', h⟩
  · exact .refl _
  · rwa [items_of_listed hl, items_of_listed hl']

theorem RearrangedField.plainTexts {suppressed : String → Prop}
    (h : RearrangedField repeats (fun v => suppressed v.plainText) v v') :
    Rearranged repeats suppressed (setOrNull v).plainTexts (setOrNull v').plainTexts := by
  rcases h with rfl | ⟨l, l', hl, hl', h⟩
  · exact .refl _
  · rw [plainTexts_of_listed hl, plainTexts_of_listed hl']
    exact h.map

end Json

namespace Inspection

variable {live live' : Inspection}

theorem SameLists.config (h : live.SameLists live') : live.config = live'.config := by
  unfold Inspection.config sectionOf Json.getD
  rw [h.top "Config" (by decide) (by decide)]

theorem SameLists.sameOutsideLists (h : live.SameLists live') : live.SameOutsideLists live' := by
  have htop : ∀ k ∈ ["Image", "Path", "Args"], k ≠ "HostConfig" ∧ k ≠ "Mounts" := by decide
  refine sameOutsideLists_of_agree (fun k hk => ?_) h.host fun k _ => by rw [h.config]
  obtain ⟨hhost, hmounts⟩ := htop k hk
  exact h.top k hhost hmounts

end Inspection

/-! ### The rules that read lists -/

/-- Of a list of capabilities only the names that are not blank count. -/
theorem Capability.canonicalSet_congr {l l' : List String} (h : Rearranged True Blank l l') :
    canonicalSet l = canonicalSet l' := by
  rw [canonicalSet, canonicalSet, SortedSet.ofList_eq_ofList_iff]
  intro name
  simp only [List.mem_filter, List.mem_map, bne_iff_ne, and_congr_left_iff]
  intro hname
  refine h.exists_iff fun a ha heq => hname ?_
  rw [← heq, canonicalName, Name.canonical, ha]
  rfl

theorem Spec.SameLists.toOption_volumes {s s' : Spec} (h : s.SameLists s') :
    (Volume.setOfDeclared s.volumes).toOption = (Volume.setOfDeclared s'.volumes).toOption := by
  refine Volume.toOption_setOf_congr (h.volumes.forall_iff fun v hv => ?_) fun v =>
    h.volumes.exists_iff fun a ha hread => ?_
  · exact ⟨none, Volume.ofDeclared_of_suppressed hv⟩
  · rw [Volume.ofDeclared_of_suppressed ha] at hread
    cases hread

theorem Spec.SameLists.toOption_validate {s s' : Spec} (h : s.SameLists s') :
    s.validate.toOption = s'.validate.toOption := by
  have hdiscard : ∀ x : Except Error (List Volume), (discard x).toOption = x.toOption.map fun _ => () := by
    rintro (e | volumes)
    · rfl
    · rfl
  have hvolumes := h.toOption_volumes
  obtain ⟨volumes, volumesFrom, tmpfs, capAdd, securityOpt, rfl⟩ := h.others
  rw [validate_eq, validate_eq]
  simp only [Result.toOption_bind, hdiscard, hvolumes]
  rfl

theorem Rearranged.notEmpty_perm {l l' : List String} (h : Rearranged False (· = "") l l') :
    (l.filter (· != "")).Perm (l'.filter (· != "")) :=
  h.filter_perm fun a ha => by rw [ha]; rfl

namespace Comparison

variable {c : Comparator} {s s' : Spec} {live live' : Inspection} {image : Option Image}

theorem liveTmpfs_of_listed {l : List Json} (h : Json.listed? (live.hostConfig.get? "Tmpfs") = some l) :
    (c.beside s live image).liveTmpfs = sortedTexts ((l.map Json.plainText).filter (· != "")) := by
  unfold liveTmpfs
  simp only [Comparator.beside, Inspection.hostValue?]
  rcases Json.value_of_listed h with hlist | ⟨hnone, hl⟩
  · rw [hlist]
    rfl
  · rw [hnone, hl]
    rfl

section

variable (hs : s.SameLists s') (hlive : live.SameLists live')

include hs hlive

theorem capAdd_congr : (c.beside s live image).capAddDiffers = (c.beside s' live' image).capAddDiffers ∧
    (c.beside s live image).capAddSnapshot = (c.beside s' live' image).capAddSnapshot := by
  have hdesired := Capability.canonicalSet_congr hs.capAdd
  have hcurrent : Capability.canonicalSet (c.beside s live image).liveCapabilities =
      Capability.canonicalSet (c.beside s' live' image).liveCapabilities :=
    Capability.canonicalSet_congr hlive.capAdd.plainTexts
  constructor
  · unfold capAddDiffers Capability.equivalent
    rw [hcurrent]
    simp only [Comparator.beside, hdesired]
  · unfold capAddSnapshot
    rw [hcurrent]
    simp only [Comparator.beside, hdesired]

theorem liveSecurityOpt_congr :
    (c.beside s live image).liveSecurityOpt = (c.beside s' live' image).liveSecurityOpt := by
  have hcurrent : Rearranged False (fun _ => False) (live.hostTexts "SecurityOpt")
      (live'.hostTexts "SecurityOpt") := hlive.securityOpt.plainTexts
  have hnone : (c.beside s live image).spec.securityOpt.isEmpty =
      (c.beside s' live' image).spec.securityOpt.isEmpty := hs.securityOpt.isEmpty_eq
  unfold liveSecurityOpt
  rw [sortedTexts_eq_iff, hnone]
  by_cases hempty : (c.beside s' live' image).spec.securityOpt.isEmpty = true
  · rw [if_pos hempty, if_pos hempty]
    exact hcurrent.perm.filter _
  · rw [if_neg hempty, if_neg hempty]
    exact hcurrent.perm

theorem securityOpt_congr :
    (c.beside s live image).securityOptDiffers = (c.beside s' live' image).securityOptDiffers ∧
    (c.beside s live image).securityOptSnapshot = (c.beside s' live' image).securityOptSnapshot := by
  have hcurrent : (c.beside s live image).liveSecurityOpt = (c.beside s' live' image).liveSecurityOpt :=
    liveSecurityOpt_congr hs hlive
  have hdesired := sortedTexts_eq_iff.2 hs.securityOpt
  have hoff : (c.beside s live image).securityOptOff = (c.beside s' live' image).securityOptOff := by
    obtain ⟨volumes, volumesFrom, tmpfs, capAdd, securityOpt, rfl⟩ := hs.others
    rfl
  constructor
  · unfold securityOptDiffers
    rw [hcurrent, hoff]
    simp only [Comparator.beside, hdesired]
  · unfold securityOptSnapshot
    rw [hcurrent]
    simp only [Comparator.beside, hdesired]

theorem volumesFrom_congr :
    (c.beside s live image).volumesFromDiffer = (c.beside s' live' image).volumesFromDiffer ∧
    (c.beside s live image).volumesFromSnapshot = (c.beside s' live' image).volumesFromSnapshot := by
  have htexts : Rearranged False (fun _ => False) (live.hostTexts "VolumesFrom")
      (live'.hostTexts "VolumesFrom") := hlive.volumesFrom.plainTexts
  have hcurrent : (c.beside s live image).liveVolumesFrom = (c.beside s' live' image).liveVolumesFrom :=
    sortedTexts_eq_iff.2 htexts.perm
  have hdesired := sortedTexts_eq_iff.2 hs.volumesFrom
  constructor
  · unfold volumesFromDiffer
    rw [hcurrent]
    simp only [Comparator.beside, hdesired]
  · unfold volumesFromSnapshot
    rw [hcurrent]
    simp only [Comparator.beside, hdesired]

omit hs in
theorem liveTmpfs_congr : (c.beside s live image).liveTmpfs = (c.beside s' live' image).liveTmpfs := by
  rcases hlive.tmpfs with hsame | ⟨l, l', hl, hl', h⟩
  · unfold liveTmpfs
    simp only [Comparator.beside, Inspection.hostValue?, hsame]
  · rw [liveTmpfs_of_listed hl, liveTmpfs_of_listed hl', sortedTexts_eq_iff]
    exact Rearranged.notEmpty_perm h.map

theorem tmpfs_congr : (c.beside s live image).tmpfsDiffers = (c.beside s' live' image).tmpfsDiffers ∧
    (c.beside s live image).tmpfsSnapshot = (c.beside s' live' image).tmpfsSnapshot := by
  have hdesired : (c.beside s live image).desiredTmpfs = (c.beside s' live' image).desiredTmpfs :=
    sortedTexts_eq_iff.2 hs.tmpfs.notEmpty_perm
  have hcurrent : (c.beside s live image).liveTmpfs = (c.beside s' live' image).liveTmpfs :=
    liveTmpfs_congr hlive
  constructor
  · rw [tmpfsDiffers, tmpfsDiffers, hdesired, hcurrent]
  · rw [tmpfsSnapshot, tmpfsSnapshot, hdesired, hcurrent]

omit hs in
theorem toOption_liveVolumes_congr :
    (c.beside s live image).liveVolumes.toOption = (c.beside s' live' image).liveVolumes.toOption := by
  have hbinds := hlive.binds.items
  have hmounts := hlive.mounts.items
  have hread : ∀ v, Volume.SuppressedLive v → ∃ w, Volume.ofLive v = .ok w := fun v hv =>
    ⟨none, Volume.ofLive_of_suppressed hv⟩
  have hnone : ∀ w v, Volume.SuppressedLive v → ¬ Volume.ofLive v = .ok (some w) := by
    intro w v hv hsome
    rw [Volume.ofLive_of_suppressed hv] at hsome
    cases hsome
  refine Volume.toOption_setOf_congr ?_ fun w => ?_
  · rw [List.forall_mem_append, List.forall_mem_append]
    exact and_congr (hmounts.forall_iff hread) (hbinds.forall_iff hread)
  · simp only [List.mem_append, or_and_right, exists_or]
    exact or_congr (hmounts.exists_iff (hnone w)) (hbinds.exists_iff (hnone w))

theorem volumes_congr :
    (c.beside s live image).volumesDiffer.toOption = (c.beside s' live' image).volumesDiffer.toOption ∧
    ((c.beside s live image).volumesDiffer = .ok true →
      (c.beside s live image).volumesSnapshot = (c.beside s' live' image).volumesSnapshot) := by
  have hdesired : (c.beside s live image).desiredVolumes.toOption =
      (c.beside s' live' image).desiredVolumes.toOption := hs.toOption_volumes
  have hcurrent : (c.beside s live image).liveVolumes.toOption =
      (c.beside s' live' image).liveVolumes.toOption := toOption_liveVolumes_congr hlive
  constructor
  · unfold volumesDiffer
    simp only [Result.toOption_bind, hdesired, hcurrent]
    rfl
  · intro hdiffer
    obtain ⟨desired, hd, hdiffer⟩ := Result.bind_eq_ok.1 hdiffer
    obtain ⟨current, hl, -⟩ := Result.bind_eq_ok.1 hdiffer
    rw [hd] at hdesired
    rw [hl] at hcurrent
    rw [volumesSnapshot, volumesSnapshot, hd, hl, Result.toOption_eq_some_iff.1 hdesired.symm,
      Result.toOption_eq_some_iff.1 hcurrent.symm]

end

/-! ### All rules -/

theorem stateAndEnvironment_congr (hs : s.SameLists s') (hlive : live.SameLists live') {a : Attribute}
    (ha : a = .state ∨ a = .environment) :
    (c.beside s live image).differs a = (c.beside s' live' image).differs a ∧
      (c.beside s live image).snapshot a = (c.beside s' live' image).snapshot a := by
  obtain ⟨volumes, volumesFrom, tmpfs, capAdd, securityOpt, rfl⟩ := hs.others
  rcases ha with rfl | rfl
  · have hstatus : live.status? = live'.status? := by
      unfold Inspection.status? Inspection.state Inspection.sectionOf Json.getD
      rw [hlive.top "State" (by decide) (by decide)]
    constructor
    · simp only [differs, stateDiffers, Comparator.beside, hstatus]
    · simp only [snapshot, stateSnapshot, Comparator.beside, hstatus]
  · have htexts : live.configTexts "Env" = live'.configTexts "Env" := by
      rw [Inspection.configTexts, Inspection.configTexts, Inspection.configValue?, Inspection.configValue?,
        hlive.config]
    constructor
    · simp only [differs, environmentDiffers, desiredEnvironment, liveEnvironment, Comparator.beside, htexts]
    · simp only [snapshot, environmentSnapshot, desiredEnvironment, liveEnvironment, Comparator.beside, htexts]

theorem sameLists_congr (c : Comparator) (image : Option Image) (hs : s.SameLists s')
    (hlive : live.SameLists live') (a : Attribute) :
    ((c.beside s live image).differs a).toOption = ((c.beside s' live' image).differs a).toOption ∧
      ((c.beside s live image).differs a = .ok true →
        (c.beside s live image).snapshot a = (c.beside s' live' image).snapshot a) := by
  by_cases hrest : a = .state ∨ a = .environment
  · obtain ⟨hdiffers, hsnapshot⟩ := stateAndEnvironment_congr hs hlive hrest
    exact ⟨by rw [hdiffers], fun _ => hsnapshot⟩
  · obtain ⟨hstate, henv⟩ := not_or.1 hrest
    by_cases hlist : a ∈ Attribute.lists
    · have hplain : ∀ {b b' : Bool} {x x' : Snapshot}, b = b' ∧ x = x' →
          (Except.ok b : Except Error Bool).toOption = (Except.ok b' : Except Error Bool).toOption ∧
            ((Except.ok b : Except Error Bool) = .ok true → x = x') := by
        rintro b _ x _ ⟨rfl, rfl⟩
        exact ⟨rfl, fun _ => rfl⟩
      cases a with
      | capAdd => exact hplain (capAdd_congr hs hlive)
      | securityOpt => exact hplain (securityOpt_congr hs hlive)
      | tmpfs => exact hplain (tmpfs_congr hs hlive)
      | volumes => exact volumes_congr hs hlive
      | volumesFrom => exact hplain (volumesFrom_congr hs hlive)
      | _ => exact absurd hlist (by decide)
    · have hsame : s.SameOutsideLists s' := by
        obtain ⟨volumes, volumesFrom, tmpfs, capAdd, securityOpt, rfl⟩ := hs.others
        exact ⟨s.environment, volumes, volumesFrom, tmpfs, capAdd, securityOpt, rfl⟩
      have hviews := hlive.sameOutsideLists
      exact ⟨by rw [Comparator.differs_of_sameOutsideLists hsame hviews hlist hstate henv],
        fun _ => Comparator.snapshot_of_sameOutsideLists hsame hviews hlist hstate henv⟩

end Comparison

namespace Comparator

variable {s s' : Spec} {live live' : Inspection}

/-- Putting lists in another order, repeating capabilities and volumes, and entries that do not count change
neither what a comparison finds nor what it notes, as far as it gets; and it succeeds as before. -/
theorem rearranging_unnoticed (c : Comparator) (image : Option Image) (hs : s.SameLists s')
    (hlive : live.SameLists live') :
    (c.compare s live image).toOption = (c.compare s' live' image).toOption ∧
      ∀ n, (c.compareFirst n s live image).toOption = (c.compareFirst n s' live' image).toOption := by
  have hfold : ∀ l : List Attribute,
      (s.validate >>= fun _ => l.foldlM (lookAt (c.beside s live image)) ({}, [])).toOption =
        (s'.validate >>= fun _ => l.foldlM (lookAt (c.beside s' live' image)) ({}, [])).toOption := by
    intro l
    have hall := Comparison.sameLists_congr c image hs hlive
    rw [Result.toOption_bind, Result.toOption_bind, hs.toOption_validate,
      toOption_foldlM_lookAt_congr (fun a => (hall a).1) (fun a => (hall a).2) l]
  exact ⟨hfold _, fun n => hfold _⟩

/-! ### A container with shuffled lists -/

def listedSpec (capAdd securityOpt tmpfs volumesFrom : List String) (volumes : List VolumeDeclaration) : Spec :=
  { name := some "web", capAdd, securityOpt, tmpfs, volumesFrom, volumes }

def listedHost (binds capAdd securityOpt tmpfs volumesFrom : List Json) : List (String × Json) :=
  [("Binds", .arr binds), ("CapAdd", .arr capAdd), ("SecurityOpt", .arr securityOpt), ("Tmpfs", .arr tmpfs),
    ("VolumesFrom", .arr volumesFrom)]

def listedLive (binds capAdd securityOpt tmpfs volumesFrom mounts : List Json) : Inspection :=
  ⟨.ofFields [("HostConfig", .ofFields (listedHost binds capAdd securityOpt tmpfs volumesFrom)),
    ("Mounts", .arr mounts)]⟩

section listed

variable {binds capAdd securityOpt tmpfs volumesFrom mounts : List Json}
variable {binds' capAdd' securityOpt' tmpfs' volumesFrom' mounts' : List Json}

theorem get?_hostConfig_listedLive (k : String) :
    (listedLive binds capAdd securityOpt tmpfs volumesFrom mounts).hostConfig.get? k =
      (listedHost binds capAdd securityOpt tmpfs volumesFrom).reverse.lookup k := by
  have hsection : (listedLive binds capAdd securityOpt tmpfs volumesFrom mounts).document.getD "HostConfig" =
      .ofFields (listedHost binds capAdd securityOpt tmpfs volumesFrom) := Json.getD_ofFields _ _
  rw [Inspection.hostConfig, Inspection.sectionOf, hsection]
  exact Json.get?_ofFields _ k

theorem get?_mounts_listedLive :
    (listedLive binds capAdd securityOpt tmpfs volumesFrom mounts).document.get? "Mounts" = some (.arr mounts) :=
  Json.get?_ofFields _ _

theorem listedLive_sameLists (hbinds : Rearranged True Volume.SuppressedLive binds binds')
    (hcapAdd : Rearranged True (fun v => Capability.Blank v.plainText) capAdd capAdd')
    (hsecurityOpt : securityOpt.Perm securityOpt')
    (htmpfs : Rearranged False (fun v => v.plainText = "") tmpfs tmpfs')
    (hvolumesFrom : volumesFrom.Perm volumesFrom')
    (hmounts : Rearranged True Volume.SuppressedLive mounts mounts') :
    (listedLive binds capAdd securityOpt tmpfs volumesFrom mounts).SameLists
      (listedLive binds' capAdd' securityOpt' tmpfs' volumesFrom' mounts') where
  top k hhost hmounts := by
    have hnone : ∀ v w : Json, (Json.ofFields [("HostConfig", v), ("Mounts", w)]).get? k = none :=
      fun v w => Json.get?_ofFields_eq_none_iff.2 (by simp [hhost, hmounts])
    exact (hnone _ _).trans (hnone _ _).symm
  host k hk := by
    have hnone : ∀ a b d e f : List Json, (listedHost a b d e f).reverse.lookup k = none := by
      refine fun a b d e f => Dict.lookup_eq_none_iff.2 fun hmem => hk ?_
      revert hmem
      simp only [listedHost, List.map_reverse, List.mem_reverse, List.map_cons, List.map_nil, Inspection.listFields,
        List.mem_cons]
      tauto
    rw [get?_hostConfig_listedLive, get?_hostConfig_listedLive, hnone, hnone]
  capAdd := .of_lists (get?_hostConfig_listedLive _) (get?_hostConfig_listedLive _) hcapAdd
  securityOpt := .of_lists (get?_hostConfig_listedLive _) (get?_hostConfig_listedLive _) (.reorder hsecurityOpt)
  volumesFrom := .of_lists (get?_hostConfig_listedLive _) (get?_hostConfig_listedLive _) (.reorder hvolumesFrom)
  tmpfs := .of_lists (get?_hostConfig_listedLive _) (get?_hostConfig_listedLive _) htmpfs
  binds := .of_lists (get?_hostConfig_listedLive _) (get?_hostConfig_listedLive _) hbinds
  mounts := .of_lists get?_mounts_listedLive get?_mounts_listedLive hmounts

end listed

theorem rearranging_unnoticed_shuffled :
    let c := ofSpec {} .path
    let s := listedSpec ["SYS_ADMIN", "NET_ADMIN"] ["a", "b"] ["/run", "/tmp"] ["x", "y"]
      [.bind "logs:/logs", .bind "data:/data"]
    let s' := listedSpec [" ", "NET_ADMIN", "SYS_ADMIN", "NET_ADMIN"] ["b", "a"] ["", "/run", "/tmp"] ["y", "x"]
      [.mount { kind := "devpts" }, .bind "devpts/:/dev/pts//:ro", .bind "data:/data", .bind "logs:/logs"]
    let live := listedLive [] [.str "NET_ADMIN"] [.str "a"] [.str "/run", .str "/tmp"] [.str "x", .str "y"]
      [.str "logs:/logs"]
    let live' := listedLive [.str " "] [.str "NET_ADMIN", .str "NET_ADMIN"] [.str "a"] [.str "/tmp", .str "/run"]
      [.str "y", .str "x"] [.str ":/dev/pts", .str "logs:/logs", .str "logs:/logs"]
    s.SameLists s' ∧ live.SameLists live' ∧ ∃ d, c.compare s live none = .ok d ∧
      c.compare s' live' none = .ok d ∧ .capAdd ∈ d.1.keys ∧ .volumes ∈ d.1.keys := by
  intro c s s' live live'
  have hs : s.SameLists s' := by
    refine ⟨⟨_, _, _, _, _, rfl⟩, ?_, .swap .., .swap .., .add rfl, ?_⟩
    · have hagain : Rearranged True Capability.Blank s.capAdd ("NET_ADMIN" :: s.capAdd) :=
        .again trivial (.tail _ (.head _))
      exact hagain.trans (.add (by decide +kernel))
    · have hbind : Volume.SuppressedBind "devpts/:/dev/pts//:ro" :=
        .terminalsWith "ro".toList ⟨.inr ⟨1, rfl⟩, 2, rfl⟩ (by decide +kernel)
      have hswap : Rearranged True Volume.Suppressed s.volumes s.volumes.reverse := .reorder (.swap ..)
      exact (hswap.trans (.add (.bind hbind))).trans (.add (.mount (.kind rfl)))
  have hlive : live.SameLists live' := by
    refine listedLive_sameLists (.add (.bind (.blank (by decide +kernel)))) (.again trivial (.head _)) (.refl _)
      (.reorder (.swap ..)) (.swap ..) ?_
    have hbind : Volume.SuppressedBind ":/dev/pts" := .terminals ⟨.inl rfl, 0, rfl⟩ (by decide +kernel)
    have hagain : Rearranged True Volume.SuppressedLive [.str "logs:/logs"]
        [.str "logs:/logs", .str "logs:/logs"] := .again trivial (.head _)
    exact hagain.trans (.add (.bind hbind))
  have hall : ∀ a, ∃ b, (c.beside s live none).differs a = .ok b := by
    intro a
    cases a
    all_goals exact ⟨_, rfl⟩
  obtain ⟨d, hd⟩ := exists_compare_iff.2 ⟨rfl, hall⟩
  have hsame := (rearranging_unnoticed c none hs hlive).1
  rw [Result.toOption_eq_some_iff.2 hd] at hsame
  refine ⟨hs, hlive, d, hd, Result.toOption_eq_some_iff.1 hsame.symm, ?_, ?_⟩
  · exact (mem_keys_of_compare hd .capAdd).2 (by decide +kernel)
  · exact (mem_keys_of_compare hd .volumes).2 (by decide +kernel)

end Comparator

end Shipshape
