import Shipshape.Proofs.Drift.Secrecy

/-!
# What a specification leaves open

A specification has no say in some attributes: those whose option is not given. The fields that are read for them only,
and the environment under names that are not declared, may be anything; a comparison finds the same and notes the same
(`open_fields_unnoticed`).

Proof outline. An attribute in which the specification has no say never differs, so nothing is shown of it
(`differs_of_not_enforced`). For every other attribute the documents are the same in what is read (`sameFor`), the
environment apart, of which only declared names are looked up.
-/

namespace Shipshape

/-! ### Fields that are left open -/

/-- Whether a specification has a say in an attribute. -/
def Spec.enforces (s : Spec) : Attribute → Bool
  | .image => s.image.isSome
  | .ipcMode => s.ipcMode.isSome
  | .pidMode => s.anySpecified ["pid_mode", "pid"]
  | .cgroupnsMode => s.cgroupnsMode.isSome
  | .command => s.command.isSome
  | .restartPolicy => s.restartPolicy.isSome
  | .user => s.isSpecified "user"
  | _ => true

namespace Attribute

/-- Fields at the top of a document that are read for one attribute only. -/
def topFields : List (Attribute × String) := [(.image, "Image"), (.command, "Path"), (.command, "Args")]

/-- Fields of `Config` that are read for one attribute only. -/
def configFields : List (Attribute × String) := [(.image, "Image"), (.user, "User"), (.pidMode, "HostConfig")]

/-- Fields of `HostConfig` that are read for one attribute only. -/
def hostFields : List (Attribute × String) :=
  [(.ipcMode, "IpcMode"), (.cgroupnsMode, "CgroupnsMode"), (.cgroupnsMode, "CgroupMode"),
    (.restartPolicy, "RestartPolicy")] ++ Comparison.pidModeFields.map fun k => (.pidMode, k)

end Attribute

/-- Those of the fields in which the specification has no say. -/
def Spec.openAmong (s : Spec) (fields : List (Attribute × String)) : List String :=
  (fields.filter fun e => !s.enforces e.1).map Prod.snd

/-- Whether a name in the live environment counts: it is a declared one, and not the one that is not compared. -/
def Environment.counts (declared : Dict String) (name : String) : Bool :=
  declared.contains name && name != Spec.debugKey

/-- Two documents differ in nothing but what a specification leaves open. -/
structure Inspection.SameWhereEnforced (s : Spec) (live live' : Inspection) : Prop where
  top : ∀ k ∉ s.openAmong Attribute.topFields, k ≠ "Config" → k ≠ "HostConfig" →
    live.document.get? k = live'.document.get? k
  config : ∀ k ∉ s.openAmong Attribute.configFields, k ≠ "Env" → live.config.get? k = live'.config.get? k
  hostConfig : ∀ k ∉ s.openAmong Attribute.hostFields, live.hostConfig.get? k = live'.hostConfig.get? k
  /-- The entries for names that count are the same, in the same order. -/
  environment : ∀ declared, s.declaredEnvironment = .ok declared →
    (live.configTexts "Env").filter (fun entry => Environment.counts declared (Comparison.liveEntry entry).1) =
      (live'.configTexts "Env").filter fun entry => Environment.counts declared (Comparison.liveEntry entry).1

theorem Spec.notMem_openAmong {s : Spec} {fields : List (Attribute × String)} {a : Attribute} {k : String}
    (ha : s.enforces a = true) (hk : ∀ e ∈ fields, e.2 = k → e.1 = a) : k ∉ s.openAmong fields := by
  intro hmem
  obtain ⟨e, he, rfl⟩ := List.mem_map.1 hmem
  obtain ⟨he, hopen⟩ := List.mem_filter.1 he
  rw [hk e he rfl, ha] at hopen
  cases hopen

theorem Json.get?_ofFields_congr {names : List String} {l l' : List (String × Json)} {k : String}
    (h : l.filter (fun e => !names.contains e.1) = l'.filter fun e => !names.contains e.1) (hk : k ∉ names) :
    (ofFields l).get? k = (ofFields l').get? k := by
  have hkept : (!names.contains k) = true := by simpa using hk
  rw [ofFields, ofFields, get?_ofDict, get?_ofDict,
    ← Dict.get?_ofList_filter (p := fun k => !names.contains k) hkept, h,
    Dict.get?_ofList_filter (p := fun k => !names.contains k) hkept]

/-- What the specification has no say in is no drift. -/
theorem Comparison.differs_of_not_enforced {c : Comparison} {a : Attribute} (h : c.spec.enforces a = false) :
    c.differs a = .ok false := by
  have hnone : ∀ {x : Option String}, x.isSome = false → x = none :=
    fun hx => Option.isNone_iff_eq_none.1 (Option.isSome_eq_false_iff.1 hx)
  cases a with
  | image => rw [differs, imageDiffers, hnone h]
  | ipcMode => rw [differs, ipcModeDiffers, hnone h]
  | pidMode => rw [differs, pidModeDiffers, show c.spec.anySpecified ["pid_mode", "pid"] = false from h, Bool.false_and]
  | cgroupnsMode => rw [differs, cgroupnsModeDiffers, hnone h]
  | command => rw [differs, commandDiffers, hnone h]
  | restartPolicy => rw [differs, restartPolicyDiffers, hnone h, ite_self]
  | user => rw [differs, userDiffers, show c.spec.isSpecified "user" = false from h, Bool.false_and]
  | _ => cases h

/-! ### Attributes in which the specification has a say -/

namespace Inspection.SameWhereEnforced

variable {s : Spec} {live live' : Inspection} {a : Attribute} {k : String}

variable (h : SameWhereEnforced s live live') (ha : s.enforces a = true)

include h ha

theorem get?_top (hk : ∀ e ∈ Attribute.topFields, e.2 = k → e.1 = a) (hconfig : k ≠ "Config")
    (hhost : k ≠ "HostConfig") : live.document.get? k = live'.document.get? k :=
  h.top k (Spec.notMem_openAmong ha hk) hconfig hhost

theorem field (hk : ∀ e ∈ Attribute.topFields, e.2 = k → e.1 = a) (hconfig : k ≠ "Config") (hhost : k ≠ "HostConfig") :
    live.field? k = live'.field? k := by
  rw [field?, field?, h.get?_top ha hk hconfig hhost]

theorem configValue (hk : ∀ e ∈ Attribute.configFields, e.2 = k → e.1 = a) (henv : k ≠ "Env") :
    live.configValue? k = live'.configValue? k := by
  rw [configValue?, configValue?, h.config k (Spec.notMem_openAmong ha hk) henv]

theorem hostValue (hk : ∀ e ∈ Attribute.hostFields, e.2 = k → e.1 = a) : live.hostValue? k = live'.hostValue? k := by
  rw [hostValue?, hostValue?, h.hostConfig k (Spec.notMem_openAmong ha hk)]

theorem hostText (hk : ∀ e ∈ Attribute.hostFields, e.2 = k → e.1 = a) : live.hostText? k = live'.hostText? k := by
  rw [hostText?, hostText?, h.hostValue ha hk]

theorem hostTexts (hk : ∀ e ∈ Attribute.hostFields, e.2 = k → e.1 = a) : live.hostTexts k = live'.hostTexts k := by
  rw [Inspection.hostTexts, Inspection.hostTexts, h.hostValue ha hk]

/-- For all attributes but the environment the documents are the same. -/
theorem sameFor (henv : a ≠ .environment) : live.SameFor live' a := by
  cases a with
  | environment => exact absurd rfl henv
  | capAdd => exact h.hostTexts ha (by decide)
  | securityOpt => exact h.hostTexts ha (by decide)
  | image =>
    refine ⟨?_, h.configValue ha (by decide) (by decide)⟩
    rw [imageId?, imageId?, h.field ha (by decide) (by decide) (by decide)]
  | ipcMode => exact h.hostText ha (by decide)
  | labels =>
    show live.labels = live'.labels
    rw [labels, labels, h.configValue ha (by decide) (by decide)]
  | privileged => exact h.hostValue ha (by decide)
  | pidMode =>
    have howned : ∀ k ∈ Comparison.pidModeFields, ∀ e ∈ Attribute.hostFields, e.2 = k → e.1 = .pidMode := by decide
    have hnested : "HostConfig" ∉ s.openAmong Attribute.configFields := Spec.notMem_openAmong ha (by decide)
    intro k hk
    rw [mergedHostConfig, mergedHostConfig, Dict.get?_insertAll, Dict.get?_insertAll, h.config _ hnested (by decide),
      h.hostConfig k (Spec.notMem_openAmong ha (howned k hk))]
  | cgroupnsMode => exact ⟨h.hostText ha (by decide), h.hostText ha (by decide)⟩
  | tmpfs => exact h.hostValue ha (by decide)
  | volumes =>
    refine ⟨?_, h.hostValue ha (by decide)⟩
    rw [mounts, mounts, h.field ha (by decide) (by decide) (by decide)]
  | volumesFrom => exact h.hostTexts ha (by decide)
  | state =>
    show live.status? = live'.status?
    rw [status?, status?, state, state, sectionOf, sectionOf, Json.getD, Json.getD,
      h.get?_top ha (by decide) (by decide) (by decide)]
  | dimensions =>
    have howned : ∀ e' ∈ Dimension.hostFields, ∀ e ∈ Attribute.hostFields, e.2 = e'.2 → e.1 = .dimensions := by decide
    exact ⟨h.hostValue ha (by decide), fun e' he' => h.hostValue ha (howned e' he')⟩
  | command =>
    refine ⟨?_, ?_⟩
    · rw [path?, path?, h.field ha (by decide) (by decide) (by decide)]
    · rw [arguments, arguments, h.field ha (by decide) (by decide) (by decide)]
  | healthcheck => exact h.configValue ha (by decide) (by decide)
  | restartPolicy => exact h.hostValue ha (by decide)
  | user => exact h.configValue ha (by decide) (by decide)

end Inspection.SameWhereEnforced

/-! ### The environment -/

namespace Comparator

open Comparison

variable {c : Comparator} {s : Spec} {live live' : Inspection} {image : Option Image}

theorem get?_liveEntries {p : String → Bool} {k : String} (hk : p k = true) (entries : List String) :
    (Dict.ofList (entries.map liveEntry)).get? k =
      (Dict.ofList ((entries.filter fun entry => p (liveEntry entry).1).map liveEntry)).get? k := by
  rw [← Dict.get?_ofList_filter hk, List.filter_map]
  rfl

theorem liveEnvironment_of_sameWhereEnforced (h : Inspection.SameWhereEnforced s live live') {declared : Dict String}
    (hdeclared : s.declaredEnvironment = .ok declared) {e : String × String}
    (he : e ∈ (declared.erase Spec.debugKey).entries) :
    (c.beside s live image).liveEnvironment.get? e.1 = (c.beside s live' image).liveEnvironment.get? e.1 := by
  obtain ⟨hmem, hname⟩ := List.mem_filter.1 he
  have hcounts : Environment.counts declared e.1 = true := by
    have hsome : declared.get? e.1 ≠ none := fun hnone => Dict.get?_eq_none_iff.1 hnone (List.mem_map_of_mem hmem)
    rw [Environment.counts, Dict.contains, Option.isSome_iff_ne_none.2 hsome, hname]
    rfl
  show (Dict.ofList ((live.configTexts "Env").map liveEntry)).get? e.1 =
    (Dict.ofList ((live'.configTexts "Env").map liveEntry)).get? e.1
  rw [get?_liveEntries hcounts, h.environment declared hdeclared, ← get?_liveEntries hcounts]

theorem seen_environment_of_sameWhereEnforced (c : Comparator) (image : Option Image)
    (h : Inspection.SameWhereEnforced s live live') :
    (c.beside s live image).environmentDiffers = (c.beside s live' image).environmentDiffers ∧
      (c.beside s live image).environmentSnapshot = (c.beside s live' image).environmentSnapshot := by
  have hdesired : (c.beside s live image).desiredEnvironment = (c.beside s live' image).desiredEnvironment := rfl
  have hdeclared : (c.beside s live' image).desiredEnvironment =
      s.declaredEnvironment >>= fun declared => .ok (declared.erase Spec.debugKey) := rfl
  rw [environmentDiffers, environmentDiffers, environmentSnapshot, environmentSnapshot, hdesired, hdeclared]
  cases henv : s.declaredEnvironment with
  | error e => exact ⟨rfl, rfl⟩
  | ok declared =>
    have hlive : ∀ e ∈ (declared.erase Spec.debugKey).entries,
        (c.beside s live image).liveEnvironment.get? e.1 = (c.beside s live' image).liveEnvironment.get? e.1 :=
      fun e he => liveEnvironment_of_sameWhereEnforced h henv he
    constructor
    · refine congrArg Except.ok (Bool.eq_iff_iff.2 ?_)
      rw [List.any_eq_true, List.any_eq_true]
      exact exists_congr fun e => and_congr_right fun he => by rw [hlive e he]
    · refine congrArg (Snapshot.mk · _) (congrArg Json.obj (List.map_congr_left fun e he => ?_))
      dsimp only
      rw [hlive e he]

/-! ### The whole comparison -/

theorem seen_of_sameWhereEnforced (h : Inspection.SameWhereEnforced s live live') (a : Attribute) :
    (c.beside s live image).differs a = (c.beside s live' image).differs a ∧
      ((c.beside s live image).differs a = .ok true →
        (c.beside s live image).snapshot a = (c.beside s live' image).snapshot a) := by
  by_cases ha : s.enforces a = true
  · by_cases henv : a = .environment
    · subst henv
      obtain ⟨hdiffers, hshown⟩ := seen_environment_of_sameWhereEnforced c image h
      exact ⟨hdiffers, fun _ => hshown⟩
    · have hsame := h.sameFor ha henv
      exact ⟨differs_of_sameFor hsame, fun _ => snapshot_of_sameFor hsame⟩
  · have hopen : s.enforces a = false := Bool.eq_false_iff.2 ha
    have hno : (c.beside s live image).differs a = .ok false := differs_of_not_enforced hopen
    have hno' : (c.beside s live' image).differs a = .ok false := differs_of_not_enforced hopen
    rw [hno, hno']
    exact ⟨rfl, nofun⟩

/-- Documents that differ only in what the specification leaves open are compared with the same result and the same
notes, as far as the comparison gets. -/
theorem open_fields_unnoticed (c : Comparator) (image : Option Image) (h : Inspection.SameWhereEnforced s live live') :
    c.compare s live image = c.compare s live' image ∧
      ∀ n, c.compareFirst n s live image = c.compareFirst n s live' image := by
  have hfold : ∀ l : List Attribute, l.foldlM (lookAt (c.beside s live image)) ({}, []) =
      l.foldlM (lookAt (c.beside s live' image)) ({}, []) :=
    foldlM_lookAt_congr (fun a => (seen_of_sameWhereEnforced h a).1) fun a => (seen_of_sameWhereEnforced h a).2
  refine ⟨?_, fun n => ?_⟩
  · rw [compare, compare, hfold]
  · rw [compareFirst, compareFirst, hfold]

/-- Nothing but a variable is declared. The documents differ in its neighbours and in every field that is left open. -/
theorem open_fields_unnoticed_variable :
    let s : Spec := { environment := some (.entries ["MODE=rw", "RECONCILE_DEBUG=true"]) }
    let live : Inspection := ⟨.ofFields [("Image", .str "sha256:1"), ("Path", .str "serve"),
      ("Config", .ofFields [("Image", .str "nginx"), ("User", .str "app"), ("Env", .ofStrings ["MODE=ro", "MODE"])]),
      ("HostConfig", .ofFields [("IpcMode", .str "host"), ("PidMode", .str "host"), ("Privileged", .bool true)])]⟩
    let live' : Inspection := ⟨.ofFields [("Args", .ofStrings ["--help"]),
      ("Config", .ofFields [("HostConfig", .ofFields [("mode", .str "host")]),
        ("Env", .ofStrings ["RECONCILE_DEBUG=1", "MODE=ro", "HOME=/root", "MODE"])]),
      ("HostConfig", .ofFields [("CgroupMode", .str "private"), ("Privileged", .bool true),
        ("RestartPolicy", .ofFields [("Name", .str "always")])])]⟩
    let c : Comparator := ⟨.docker, .path⟩
    Inspection.SameWhereEnforced s live live' ∧ c.compare s live none = c.compare s live' none ∧
    (c.compare s live none).map (·.1.keys) = .ok [.privileged, .environment, .state] := by
  intro s live live' c
  have hsame : Inspection.SameWhereEnforced s live live' := by
    refine ⟨fun k hk hconfig hhost => ?_, fun k hk henv => ?_, fun k hk => ?_, fun declared hdeclared => ?_⟩
    · have hnames : k ∉ "Config" :: "HostConfig" :: s.openAmong Attribute.topFields :=
        List.not_mem_cons_of_ne_of_not_mem hconfig (List.not_mem_cons_of_ne_of_not_mem hhost hk)
      refine Json.get?_ofFields_congr ?_ hnames
      rfl
    · refine Json.get?_ofFields_congr ?_ (List.not_mem_cons_of_ne_of_not_mem henv hk)
      rfl
    · refine Json.get?_ofFields_congr ?_ hk
      rfl
    · have hvalue : s.declaredEnvironment = .ok (.ofList [("MODE", "rw"), ("RECONCILE_DEBUG", "true")]) := by
        decide +kernel
      obtain rfl := Except.ok.inj (hvalue.symm.trans hdeclared)
      decide +kernel
  exact ⟨hsame, (open_fields_unnoticed c none hsame).1, by decide +kernel⟩

end Comparator

end Shipshape
