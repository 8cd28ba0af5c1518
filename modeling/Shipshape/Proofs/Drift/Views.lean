import Shipshape.Proofs.Drift.Comparison

/-!
# What the rules read

Each rule reads a few views of the live document, and so does what is shown of its attribute; where two documents agree
in them, both stay as they are (`differs_of_sameFor`, `snapshot_of_sameFor`). All rules but the one on the state read
the live document outside its section on the state (`differs_congr`), so a container that starts, stops or turns healthy
differs in nothing else than before. Few rules read lists (`differs_of_sameOutsideLists`).
-/

namespace Shipshape

/-! ### Views of an attribute -/

/-- Two documents are the same in all that is read for an attribute. -/
def Inspection.SameFor (live live' : Inspection) : Attribute → Prop
  | .capAdd => live.hostTexts "CapAdd" = live'.hostTexts "CapAdd"
  | .securityOpt => live.hostTexts "SecurityOpt" = live'.hostTexts "SecurityOpt"
  | .image => live.imageId? = live'.imageId? ∧ live.configValue? "Image" = live'.configValue? "Image"
  | .ipcMode => live.hostText? "IpcMode" = live'.hostText? "IpcMode"
  | .labels => live.labels = live'.labels
  | .privileged => live.hostValue? "Privileged" = live'.hostValue? "Privileged"
  | .pidMode => ∀ k ∈ Comparison.pidModeFields, live.mergedHostConfig.get? k = live'.mergedHostConfig.get? k
  | .cgroupnsMode => live.hostText? "CgroupnsMode" = live'.hostText? "CgroupnsMode" ∧
    live.hostText? "CgroupMode" = live'.hostText? "CgroupMode"
  | .tmpfs => live.hostValue? "Tmpfs" = live'.hostValue? "Tmpfs"
  | .volumes => live.mounts = live'.mounts ∧ live.hostValue? "Binds" = live'.hostValue? "Binds"
  | .volumesFrom => live.hostTexts "VolumesFrom" = live'.hostTexts "VolumesFrom"
  | .environment => live.configTexts "Env" = live'.configTexts "Env"
  | .state => live.status? = live'.status?
  | .dimensions => live.hostValue? "Resources" = live'.hostValue? "Resources" ∧
    ∀ e ∈ Dimension.hostFields, live.hostValue? e.2 = live'.hostValue? e.2
  | .command => live.path? = live'.path? ∧ live.arguments = live'.arguments
  | .healthcheck => live.configValue? "Healthcheck" = live'.configValue? "Healthcheck"
  | .restartPolicy => live.hostValue? "RestartPolicy" = live'.hostValue? "RestartPolicy"
  | .user => live.configValue? "User" = live'.configValue? "User"

namespace Comparator

section views

open Comparison

variable {c : Comparator} {s : Spec} {live live' : Inspection} {image : Option Image} {a : Attribute}

theorem liveDimension_of_sameFor (h : live.SameFor live' .dimensions) {e : String × String}
    (he : e ∈ Dimension.hostFields) :
    (c.beside s live image).liveDimension e.2 = (c.beside s live' image).liveDimension e.2 := by
  simp only [liveDimension, beside, h.1, h.2 e he]

theorem dimensionsSnapshot_of_sameFor (h : live.SameFor live' .dimensions) :
    (c.beside s live image).dimensionsSnapshot = (c.beside s live' image).dimensionsSnapshot := by
  have hlive : ∀ e ∈ Dimension.hostFields,
      (c.beside s live image).liveDimension e.2 = (c.beside s live' image).liveDimension e.2 :=
    fun e he => liveDimension_of_sameFor h he
  have hshown : Dimension.hostFields.filter (fun e => (c.beside s live image).spec.dimensions.contains e.1 ||
      !((c.beside s live image).liveDimension e.2).isUnset) =
      Dimension.hostFields.filter fun e => (c.beside s live' image).spec.dimensions.contains e.1 ||
        !((c.beside s live' image).liveDimension e.2).isUnset :=
    List.filter_congr fun e he => by rw [hlive e he]; rfl
  unfold dimensionsSnapshot
  rw [hshown]
  refine congrArg (Snapshot.mk · _) (congrArg Json.ofFields (List.map_congr_left fun e he => ?_))
  rw [hlive e (List.mem_of_mem_filter he)]

theorem firstSet?_congr {d d' : Dict Json} {fields : List String} (h : ∀ k ∈ fields, d.get? k = d'.get? k) :
    firstSet? d fields = firstSet? d' fields := by
  unfold firstSet?
  induction fields with
  | nil => rfl
  | cons k fields ih =>
    rw [List.forall_mem_cons] at h
    rw [List.findSome?_cons, List.findSome?_cons, h.1, ih h.2]

theorem seen_of_sameFor (h : live.SameFor live' a) :
    (c.beside s live image).differs a = (c.beside s live' image).differs a ∧
      (c.beside s live image).snapshot a = (c.beside s live' image).snapshot a := by
  cases a with
  | capAdd =>
    have hlive : live.hostTexts "CapAdd" = live'.hostTexts "CapAdd" := h
    simp only [differs, capAddDiffers, snapshot, capAddSnapshot, liveCapabilities, beside, hlive, and_self]
  | securityOpt =>
    have hlive : live.hostTexts "SecurityOpt" = live'.hostTexts "SecurityOpt" := h
    simp only [differs, securityOptDiffers, securityOptOff, snapshot, securityOptSnapshot, liveSecurityOpt, beside,
      hlive]
    exact ⟨rfl, rfl⟩
  | image =>
    obtain ⟨hid, hname⟩ : live.imageId? = live'.imageId? ∧ live.configValue? "Image" = live'.configValue? "Image" := h
    simp only [differs, imageDiffers, snapshot, imageSnapshot, beside, hid, hname, and_self]
  | ipcMode =>
    have hlive : live.hostText? "IpcMode" = live'.hostText? "IpcMode" := h
    simp only [differs, ipcModeDiffers, snapshot, ipcModeSnapshot, beside, hlive, and_self]
  | labels =>
    have hlive : live.labels = live'.labels := h
    simp only [differs, labelsDiffer, labelOverridden, snapshot, labelsSnapshot, ownLabels, beside, hlive, and_self]
  | privileged =>
    have hlive : live.hostValue? "Privileged" = live'.hostValue? "Privileged" := h
    simp only [differs, privilegedDiffers, snapshot, privilegedSnapshot, livePrivileged, beside, hlive, and_self]
  | pidMode =>
    have hlive : firstSet? live.mergedHostConfig pidModeFields = firstSet? live'.mergedHostConfig pidModeFields :=
      firstSet?_congr h
    simp only [differs, pidModeDiffers, desiredPidModeText, snapshot, pidModeSnapshot, livePidMode?, beside, hlive,
      and_self]
  | cgroupnsMode =>
    obtain ⟨hmode, hother⟩ : live.hostText? "CgroupnsMode" = live'.hostText? "CgroupnsMode" ∧
      live.hostText? "CgroupMode" = live'.hostText? "CgroupMode" := h
    simp only [differs, cgroupnsModeDiffers, snapshot, cgroupnsModeSnapshot, liveCgroupnsMode, beside, hmode, hother,
      and_self]
  | tmpfs =>
    have hlive : live.hostValue? "Tmpfs" = live'.hostValue? "Tmpfs" := h
    simp only [differs, tmpfsDiffers, snapshot, tmpfsSnapshot, desiredTmpfs, liveTmpfs, beside, hlive, and_self]
  | volumes =>
    obtain ⟨hmounts, hbinds⟩ : live.mounts = live'.mounts ∧ live.hostValue? "Binds" = live'.hostValue? "Binds" := h
    simp only [differs, volumesDiffer, snapshot, volumesSnapshot, desiredVolumes, liveVolumes, beside, hmounts, hbinds,
      and_self]
  | volumesFrom =>
    have hlive : live.hostTexts "VolumesFrom" = live'.hostTexts "VolumesFrom" := h
    simp only [differs, volumesFromDiffer, snapshot, volumesFromSnapshot, liveVolumesFrom, beside, hlive, and_self]
  | environment =>
    have hlive : live.configTexts "Env" = live'.configTexts "Env" := h
    simp only [differs, environmentDiffers, snapshot, environmentSnapshot, desiredEnvironment, liveEnvironment, beside,
      hlive, and_self]
  | state =>
    have hlive : live.status? = live'.status? := h
    simp only [differs, stateDiffers, snapshot, stateSnapshot, beside, hlive, and_self]
  | dimensions =>
    exact ⟨dimensionsDiffer_congr rfl fun e he => liveDimension_of_sameFor h he, dimensionsSnapshot_of_sameFor h⟩
  | command =>
    obtain ⟨hpath, harguments⟩ : live.path? = live'.path? ∧ live.arguments = live'.arguments := h
    simp only [differs, commandDiffers, inheritedEntrypoint, snapshot, commandSnapshot, liveArguments, beside, hpath,
      harguments, and_true]
    rfl
  | healthcheck =>
    have hlive : live.configValue? "Healthcheck" = live'.configValue? "Healthcheck" := h
    simp only [differs, healthcheckDiffers, snapshot, healthcheckSnapshot, liveHealthcheck, beside, hlive, and_self]
  | restartPolicy =>
    have hlive : live.hostValue? "RestartPolicy" = live'.hostValue? "RestartPolicy" := h
    simp only [differs, restartPolicyDiffers, snapshot, restartPolicySnapshot, liveRestartPolicy, beside, hlive,
      and_true]
    rfl
  | user =>
    have hlive : live.configValue? "User" = live'.configValue? "User" := h
    simp only [differs, userDiffers, snapshot, userSnapshot, liveUser, beside, hlive, and_self]

theorem differs_of_sameFor (h : live.SameFor live' a) :
    (c.beside s live image).differs a = (c.beside s live' image).differs a := (seen_of_sameFor h).1

theorem snapshot_of_sameFor (h : live.SameFor live' a) :
    (c.beside s live image).snapshot a = (c.beside s live' image).snapshot a := (seen_of_sameFor h).2

end views

end Comparator

/-! ### What the state is not part of -/

namespace Inspection

/-- Two documents have the same fields, apart from the section on the state. -/
def AgreeOutsideState (live live' : Inspection) : Prop :=
  ∀ k, k ≠ "State" → live.document.get? k = live'.document.get? k

variable {live live' : Inspection}

theorem AgreeOutsideState.section (h : live.AgreeOutsideState live') {k : String} (hk : k ≠ "State") :
    live.sectionOf k = live'.sectionOf k := by
  rw [sectionOf, sectionOf, Json.getD, Json.getD, h k hk]

/-- The fields of `HostConfig` of which a rule reads nothing but a list. -/
def listFields : List String := ["CapAdd", "SecurityOpt", "VolumesFrom", "Binds", "Tmpfs"]

/-- What the rules read of a live document, the state, the environment and the lists apart. -/
structure SameOutsideLists (live live' : Inspection) : Prop where
  hostValue : ∀ k ∉ listFields, live.hostValue? k = live'.hostValue? k
  mergedHostConfig : ∀ k ∉ listFields, live.mergedHostConfig.get? k = live'.mergedHostConfig.get? k
  configValue : ∀ k, k ≠ "Env" → live.configValue? k = live'.configValue? k
  imageId : live.imageId? = live'.imageId?
  path : live.path? = live'.path?
  arguments : live.arguments = live'.arguments

/-- What the rules read of a live document, the state and the environment apart. -/
structure SameViews (live live' : Inspection) : Prop extends SameOutsideLists live live' where
  lists : ∀ k ∈ listFields, live.hostValue? k = live'.hostValue? k
  mounts : live.mounts = live'.mounts

theorem SameOutsideLists.hostText (h : live.SameOutsideLists live') {k : String} (hk : k ∉ listFields) :
    live.hostText? k = live'.hostText? k := by
  rw [hostText?, hostText?, h.hostValue k hk]

theorem SameOutsideLists.labels (h : live.SameOutsideLists live') : live.labels = live'.labels := by
  rw [Inspection.labels, Inspection.labels, h.configValue _ (by decide)]

theorem SameViews.hostTexts (h : live.SameViews live') {k : String} (hk : k ∈ listFields) :
    live.hostTexts k = live'.hostTexts k := by
  rw [Inspection.hostTexts, Inspection.hostTexts, h.lists k hk]

theorem sameOutsideLists_of_agree
    (htop : ∀ k ∈ ["Image", "Path", "Args"], live.document.get? k = live'.document.get? k)
    (hhost : ∀ k ∉ listFields, live.hostConfig.get? k = live'.hostConfig.get? k)
    (hconfig : ∀ k, k ≠ "Env" → live.config.get? k = live'.config.get? k) :
    live.SameOutsideLists live' := by
  have hfield : ∀ k ∈ ["Image", "Path", "Args"], live.field? k = live'.field? k := by
    intro k hk
    rw [field?, field?, htop k hk]
  refine ⟨?_, ?_, ?_, ?_, ?_, ?_⟩
  · intro k hk
    rw [hostValue?, hostValue?, hhost k hk]
  · intro k hk
    rw [mergedHostConfig, mergedHostConfig, Dict.get?_insertAll, Dict.get?_insertAll, hhost k hk,
      hconfig _ (by decide)]
  · intro k hk
    rw [configValue?, configValue?, hconfig k hk]
  · rw [imageId?, imageId?, hfield _ (by decide)]
  · rw [path?, path?, hfield _ (by decide)]
  · rw [arguments, arguments, hfield _ (by decide)]

theorem sameViews_of_agree
    (hfield : ∀ k, k ≠ "Config" → k ≠ "State" → live.document.get? k = live'.document.get? k)
    (hconfig : ∀ k, k ≠ "Env" → live.config.get? k = live'.config.get? k) : live.SameViews live' := by
  have hhost : live.hostConfig = live'.hostConfig := by
    unfold hostConfig sectionOf Json.getD
    rw [hfield _ (by decide) (by decide)]
  refine ⟨sameOutsideLists_of_agree (fun k hk => ?_) (fun k _ => by rw [hhost]) hconfig, fun k _ => ?_, ?_⟩
  · refine hfield k ?_ ?_
    · rintro rfl
      exact absurd hk (by decide)
    · rintro rfl
      exact absurd hk (by decide)
  · rw [hostValue?, hostValue?, hhost]
  · rw [mounts, mounts, field?, field?, hfield _ (by decide) (by decide)]

theorem AgreeOutsideState.sameViews (h : live.AgreeOutsideState live') : live.SameViews live' :=
  sameViews_of_agree (fun k _ hk => h k hk) fun k _ => by rw [config, config, h.section (by decide)]

theorem agreeOutsideState_setField (document v : Json) :
    AgreeOutsideState ⟨document.setField "State" v⟩ ⟨document⟩ := by
  intro k hk
  rw [Json.get?, Json.fields_setField]
  exact Dict.get?_insert_of_ne document.fields v hk

end Inspection

/-- Two specifications differ in nothing but the environment and the lists that are compared. -/
def Spec.SameOutsideLists (s s' : Spec) : Prop :=
  ∃ environment volumes volumesFrom tmpfs capAdd securityOpt,
    s' = { s with environment, volumes, volumesFrom, tmpfs, capAdd, securityOpt }

def Attribute.lists : List Attribute := [.capAdd, .securityOpt, .tmpfs, .volumes, .volumesFrom]

namespace Inspection

variable {live live' : Inspection} {a : Attribute}

theorem SameOutsideLists.sameFor (h : live.SameOutsideLists live') (hlist : a ∉ Attribute.lists) (hstate : a ≠ .state)
    (henv : a ≠ .environment) : live.SameFor live' a := by
  cases a with
  | state => exact absurd rfl hstate
  | environment => exact absurd rfl henv
  | image => exact ⟨h.imageId, h.configValue _ (by decide)⟩
  | ipcMode => exact h.hostText (by decide)
  | labels => exact h.labels
  | privileged => exact h.hostValue _ (by decide)
  | pidMode =>
    have houtside : ∀ k ∈ Comparison.pidModeFields, k ∉ listFields := by decide
    exact fun k hk => h.mergedHostConfig k (houtside k hk)
  | cgroupnsMode => exact ⟨h.hostText (by decide), h.hostText (by decide)⟩
  | dimensions =>
    have houtside : ∀ e ∈ Dimension.hostFields, e.2 ∉ listFields := by decide
    exact ⟨h.hostValue _ (by decide), fun e he => h.hostValue _ (houtside e he)⟩
  | command => exact ⟨h.path, h.arguments⟩
  | healthcheck => exact h.configValue _ (by decide)
  | restartPolicy => exact h.hostValue _ (by decide)
  | user => exact h.configValue _ (by decide)
  | _ => exact absurd (by decide) hlist

theorem SameViews.sameFor (h : live.SameViews live') (hstate : a ≠ .state) (henv : a ≠ .environment) :
    live.SameFor live' a := by
  by_cases hlist : a ∈ Attribute.lists
  · cases a with
    | capAdd => exact h.hostTexts (by decide)
    | securityOpt => exact h.hostTexts (by decide)
    | tmpfs => exact h.lists _ (by decide)
    | volumes => exact ⟨h.mounts, h.lists _ (by decide)⟩
    | volumesFrom => exact h.hostTexts (by decide)
    | _ => exact absurd hlist (by decide)
  · exact h.toSameOutsideLists.sameFor hlist hstate henv

theorem AgreeOutsideState.sameFor (h : live.AgreeOutsideState live') (ha : a ≠ .state) : live.SameFor live' a := by
  by_cases henv : a = .environment
  · subst henv
    show live.configTexts "Env" = live'.configTexts "Env"
    unfold configTexts configValue? config
    rw [h.section (by decide)]
  · exact h.sameViews.sameFor ha henv

end Inspection

namespace Comparator

section congruence

open Comparison

variable {c : Comparator} {s s' : Spec} {live live' : Inspection} {image : Option Image} {a : Attribute}

/-- No other rule reads a list, the environment, or the state. -/
theorem differs_of_sameOutsideLists (hs : s.SameOutsideLists s') (hv : live.SameOutsideLists live')
    (hlist : a ∉ Attribute.lists) (hstate : a ≠ .state) (henv : a ≠ .environment) :
    (c.beside s live image).differs a = (c.beside s' live' image).differs a := by
  obtain ⟨environment, volumes, volumesFrom, tmpfs, capAdd, securityOpt, rfl⟩ := hs
  rw [differs_of_sameFor (hv.sameFor hlist hstate henv)]
  cases a with
  | capAdd | securityOpt | tmpfs | volumes | volumesFrom => exact absurd (by decide) hlist
  | state => exact absurd rfl hstate
  | environment => exact absurd rfl henv
  | dimensions => exact dimensionsDiffer_congr rfl fun _ _ => rfl
  | _ => rfl

theorem snapshot_of_sameOutsideLists (hs : s.SameOutsideLists s') (hv : live.SameOutsideLists live')
    (hlist : a ∉ Attribute.lists) (hstate : a ≠ .state) (henv : a ≠ .environment) :
    (c.beside s live image).snapshot a = (c.beside s' live' image).snapshot a := by
  obtain ⟨environment, volumes, volumesFrom, tmpfs, capAdd, securityOpt, rfl⟩ := hs
  rw [snapshot_of_sameFor (hv.sameFor hlist hstate henv)]
  cases a with
  | capAdd | securityOpt | tmpfs | volumes | volumesFrom => exact absurd (by decide) hlist
  | state => exact absurd rfl hstate
  | environment => exact absurd rfl henv
  | _ => rfl

/-- No rule but the one on the environment reads a declared or a live environment, and no rule but the one on
the state reads the state. -/
theorem differs_of_sameViews (environment : Option EnvironmentDeclaration) (hv : live.SameViews live')
    (hstate : a ≠ .state) (henv : a ≠ .environment) :
    (c.beside s live image).differs a = (c.beside { s with environment } live' image).differs a := by
  rw [differs_of_sameFor (hv.sameFor hstate henv)]
  cases a with
  | environment => exact absurd rfl henv
  | dimensions => exact dimensionsDiffer_congr rfl fun _ _ => rfl
  | _ => rfl

theorem snapshot_of_sameViews (environment : Option EnvironmentDeclaration) (hv : live.SameViews live')
    (hstate : a ≠ .state) (henv : a ≠ .environment) :
    (c.beside s live image).snapshot a = (c.beside { s with environment } live' image).snapshot a := by
  rw [snapshot_of_sameFor (hv.sameFor hstate henv)]
  cases a with
  | environment => exact absurd rfl henv
  | _ => rfl

/-- No rule but the one on the state reads the section on the state. -/
theorem differs_congr (h : live.AgreeOutsideState live') (ha : a ≠ .state) :
    (c.beside s live image).differs a = (c.beside s live' image).differs a := differs_of_sameFor (h.sameFor ha)

end congruence

end Comparator

end Shipshape
