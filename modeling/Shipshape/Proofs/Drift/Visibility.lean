import Shipshape.Proofs.Drift.Rule.Limits
import Shipshape.Proofs.Drift.Secrecy

/-!
# What a reader sees of a drift

Whether an attribute differs and what is shown of it are computed apart. Of thirteen attributes both sides look
different whenever they differ, with the secrets hidden. The other five are decided by more than what is shown:
the image by its id, labels by those of the image, volumes by their ends alone, and the state and the restart
policy have names that nothing matches. `Comparison.Unseen` says when that leaves a reader with two equal sides,
and `drift_visible_iff` that it is the only way.

Proof outline. Every entry of a drift is an attribute that differs with its snapshot (`sound_compare`).
For each rule, equal sides are taken back to equal inputs of the rule, which then holds.
-/

namespace Shipshape

open Secret

/-! ### Values of one text only -/

namespace Json

theorem ofString?_injective : Function.Injective ofString? := by
  intro x y h
  rcases x with _ | s
  · rcases y with _ | t
    · rfl
    · cases h
  · rcases y with _ | t
    · cases h
    · rw [Json.str.inj h]

theorem ofStrings_injective : Function.Injective ofStrings := by
  intro l l' h
  exact List.map_injective_iff.2 (fun _ _ => Json.str.inj) (Json.arr.inj h)

theorem ofStringDict_injective : Function.Injective ofStringDict :=
  Function.LeftInverse.injective plainTextDict_ofStringDict

end Json

namespace Healthcheck

theorem toJson_injective : Function.Injective toJson := by
  intro h h' heq
  have hget : ∀ (h : Healthcheck) (k : String), h.toJson.get? k = List.lookup k _ := fun _ k => Json.get?_ofFields _ k
  have hfield : ∀ k, h.toJson.get? k = h'.toJson.get? k := fun k => by rw [heq]
  have hnumber : ∀ {k : String} {n m : Nat}, h.toJson.get? k = some (.int n) → h'.toJson.get? k = some (.int m) →
      n = m := by
    intro k n m hn hm
    rw [hfield, hm] at hn
    exact (Int.ofNat.inj (Json.int.inj (Option.some.inj hn))).symm
  have htest : h.test = h'.test := by
    have htests : some (Json.ofStrings h.test) = some (.ofStrings h'.test) :=
      (hget h "Test").symm.trans ((hfield "Test").trans (hget h' "Test"))
    exact Json.ofStrings_injective (Option.some.inj htests)
  have hinterval : h.interval = h'.interval := hnumber (hget h "Interval") (hget h' "Interval")
  have htimeout : h.timeout = h'.timeout := hnumber (hget h "Timeout") (hget h' "Timeout")
  have hstart : h.startPeriod = h'.startPeriod := hnumber (hget h "StartPeriod") (hget h' "StartPeriod")
  have hretries : h.retries = h'.retries := hnumber (hget h "Retries") (hget h' "Retries")
  cases h
  cases h'
  rw [mk.injEq]
  exact ⟨htest, hinterval, htimeout, hstart, hretries⟩

end Healthcheck

namespace Comparison

/-- An attribute that differs and looks the same on both sides. -/
inductive Unseen (c : Comparison) : Attribute → Prop where
  /-- The container was made from the declared reference, which names another image by now, or none. -/
  | image {reference : String} (desired : c.spec.image = some reference)
      (live : c.live.configValue? "Image" = some (.str reference))
      (outdated : ∀ i, c.image = some i → c.live.imageId? ≠ some i.id) : Unseen c .image
  /-- The labels are those that are declared, and one of them takes the place of a label of the image. -/
  | labels (live : c.ownLabels = c.spec.labels) (overridden : c.labelOverridden = true) : Unseen c .labels
  /-- The ends differ, but not the texts of the volumes as a whole. -/
  | volumes {desired live : List Volume} (ends : c.volumeMatch = .path)
      (declared : c.desiredVolumes = .ok desired) (reported : c.liveVolumes = .ok live)
      (texts : volumeKeys .strict live = volumeKeys .strict desired) : Unseen c .volumes
  /-- No engine calls a container that runs `started`; one that does is not taken to run. -/
  | state (desired : c.spec.state = .started) (live : c.live.status? = some "started") : Unseen c .state
  /-- A live policy without a name is `no`, and `oneshot` is no live policy. -/
  | restartPolicy {name : String} {attempts : Nat} (desired : c.spec.restartPolicy = some name)
      (unmatched : name = "" ∨ name = "oneshot") (retries : c.spec.restartRetries = some attempts)
      (live : c.liveRestartPolicy = (name, attempts)) : Unseen c .restartPolicy

variable {c : Comparison}

/-! ### Attributes that are decided by what is shown -/

theorem capAdd_ne (h : c.capAddDiffers = true) : c.capAddSnapshot.current ≠ c.capAddSnapshot.desired := by
  intro heq
  have hset : Capability.canonicalSet c.liveCapabilities = Capability.canonicalSet c.spec.capAdd :=
    Json.ofStrings_injective heq
  have hall : (Capability.canonicalSet c.spec.capAdd).filter (fun name =>
      !(Capability.canonicalSet c.defaults.capabilities).contains name ||
        (Capability.canonicalSet c.spec.capAdd).contains name) = Capability.canonicalSet c.spec.capAdd := by
    refine List.filter_eq_self.2 fun name hname => ?_
    rw [List.contains_iff_mem.2 hname, Bool.or_true]
  unfold capAddDiffers Capability.equivalent at h
  dsimp only at h
  rw [hset, hall, beq_self_eq_true] at h
  cases h

theorem securityOpt_ne (h : c.securityOptDiffers = true) :
    c.securityOptSnapshot.current ≠ c.securityOptSnapshot.desired := by
  have hne : sortedTexts c.spec.securityOpt ≠ c.liveSecurityOpt := bne_iff_ne.1 (Bool.and_eq_true_iff.1 h).2
  exact Json.ofStrings_injective.ne hne.symm

theorem ipcMode_ne (h : c.ipcModeDiffers = true) : c.ipcModeSnapshot.current ≠ c.ipcModeSnapshot.desired := by
  intro heq
  have hlive : c.live.hostText? "IpcMode" = c.spec.ipcMode := Json.ofString?_injective heq
  unfold ipcModeDiffers at h
  cases hmode : c.spec.ipcMode with
  | none =>
    rw [hmode] at h
    cases h
  | some mode =>
    -- an empty live mode is none, so the mode is not empty
    have hset : (some mode).filter (· != "") = some mode := by
      have hfilter : c.live.hostText? "IpcMode" = some mode := hlive.trans hmode
      unfold Inspection.hostText? at hfilter
      exact Option.filter_eq_some_iff.2 ⟨rfl, (Option.filter_eq_some_iff.1 hfilter).2⟩
    rw [hmode] at h hlive
    dsimp only at h
    rw [hset, hlive, bne_self_eq_false] at h
    cases h

theorem privileged_ne (h : c.privilegedDiffers = true) :
    c.privilegedSnapshot.current ≠ c.privilegedSnapshot.desired := by
  have hne : c.spec.privileged ≠ c.livePrivileged := bne_iff_ne.1 h
  exact fun heq => hne (Json.bool.inj heq).symm

theorem pidMode_ne (h : c.pidModeDiffers = true) : c.pidModeSnapshot.current ≠ c.pidModeSnapshot.desired := by
  have hne : c.desiredPidModeText ≠ pidModeText c.livePidMode? := bne_iff_ne.1 (Bool.and_eq_true_iff.1 h).2
  exact fun heq => hne (Json.str.inj heq).symm

theorem cgroupnsMode_ne (h : c.cgroupnsModeDiffers = true) :
    c.cgroupnsModeSnapshot.current ≠ c.cgroupnsModeSnapshot.desired := by
  intro heq
  have hlive : some c.liveCgroupnsMode = c.spec.cgroupnsMode := Json.ofString?_injective heq
  unfold cgroupnsModeDiffers at h
  rw [← hlive] at h
  exact bne_iff_ne.1 h rfl

theorem tmpfs_ne (h : c.tmpfsDiffers = true) : c.tmpfsSnapshot.current ≠ c.tmpfsSnapshot.desired := by
  have hne : c.desiredTmpfs ≠ c.liveTmpfs := bne_iff_ne.1 h
  exact Json.ofStrings_injective.ne hne.symm

theorem volumesFrom_ne (h : c.volumesFromDiffer = true) :
    c.volumesFromSnapshot.current ≠ c.volumesFromSnapshot.desired := by
  have hne : sortedTexts c.spec.volumesFrom ≠ c.liveVolumesFrom := bne_iff_ne.1 h
  exact Json.ofStrings_injective.ne hne.symm

theorem command_ne (h : c.commandDiffers = .ok true) : c.commandSnapshot.current ≠ c.commandSnapshot.desired := by
  intro heq
  have hlive : some (" ".intercalate c.liveArguments) = c.spec.command := Json.ofString?_injective heq
  unfold commandDiffers at h
  rw [← hlive] at h
  obtain ⟨words, -, h⟩ := Result.bind_eq_ok.1 h
  have hsame : CommandLine.sameWords (" ".intercalate c.liveArguments) (" ".intercalate c.liveArguments) = true :=
    beq_self_eq_true _
  dsimp only at h
  rw [hsame, Bool.or_true] at h
  cases h

theorem shownHealthcheck_injective : Function.Injective shownHealthcheck := by
  intro x y h
  rcases x with _ | x
  · rcases y with _ | y
    · rfl
    · cases h
  · rcases y with _ | y
    · cases h
    · rw [Healthcheck.toJson_injective h]

theorem healthcheck_ne (h : c.healthcheckDiffers = .ok true) :
    c.healthcheckSnapshot.current ≠ c.healthcheckSnapshot.desired := by
  obtain ⟨desired, hdesired, h⟩ := Result.bind_eq_ok.1 h
  have hne : desired ≠ c.liveHealthcheck := bne_iff_ne.1 (Except.ok.inj h)
  have hread : (Healthcheck.ofDeclared c.spec.healthcheck).toOption.getD none = desired := by
    rw [hdesired]
    rfl
  unfold healthcheckSnapshot
  rw [hread]
  exact shownHealthcheck_injective.ne hne.symm

theorem user_ne (h : c.userDiffers = true) : c.userSnapshot.current ≠ c.userSnapshot.desired := by
  have hne : User.canonical c.spec.user ≠ c.liveUser := bne_iff_ne.1 (Bool.and_eq_true_iff.1 h).2
  exact fun heq => hne (Json.str.inj heq).symm

/-! ### The environment -/

/-- What is shown of a name is the same on both sides exactly if the live value is the desired one: a secret that
differs is marked. -/
theorem shownLive_eq_shownDesired_iff {live : Dict String} {e : String × String} :
    shownLive live e.1 = shownDesired live e ↔ live.get? e.1 = some e.2 := by
  unfold shownLive shownDesired
  by_cases hsecret : isSecretName e.1 = true
  · rw [if_pos hsecret, if_pos hsecret, mask_text]
    rcases live.get? e.1 with _ | v
    · exact iff_of_false nofun nofun
    · by_cases hv : v = e.2
      · simp [hv]
      · have hmarked : Secret.hidden ≠ Secret.hiddenChanged := fun h => absurd (Json.str.inj h) (by decide)
        simp [hv, hmarked]
  · rw [if_neg hsecret, if_neg hsecret]
    exact Json.ofString?_injective.eq_iff' (b := some e.2) rfl

theorem environment_ne (h : c.environmentDiffers = .ok true) :
    (redact .environment c.environmentSnapshot).current ≠ (redact .environment c.environmentSnapshot).desired := by
  obtain ⟨d, hd, h⟩ := Result.bind_eq_ok.1 h
  obtain ⟨e, he, hne⟩ := List.any_eq_true.1 (Except.ok.inj h)
  have hread : c.desiredEnvironment.toOption.getD ∅ = d := by
    rw [hd]
    rfl
  rw [redact_environment c hread]
  intro heq
  have hshown := congrArg (Dict.get? · e.1) (Json.ofDict_injective heq)
  simp only [Dict.get?_mapEntries, Dict.get?_eq_some_iff.2 he, Option.map_some] at hshown
  exact bne_iff_ne.1 hne (shownLive_eq_shownDesired_iff.1 (Option.some.inj hshown))

/-! ### Limits -/

theorem exists_of_anyDimensionDiffers {l : List (String × String)} (h : c.anyDimensionDiffers l = .ok true) :
    ∃ e ∈ l, c.dimensionDiffers e.1 e.2 = .ok true := by
  induction l with
  | nil => cases h
  | cons e l ih =>
    obtain ⟨b, hb, h⟩ := Result.bind_eq_ok.1 h
    cases b with
    | true => exact ⟨e, .head _, hb⟩
    | false =>
      obtain ⟨e', he', hdiffers⟩ := ih h
      exact ⟨e', .tail _ he', hdiffers⟩

/-- Sides that look the same: a declared limit has its live value, and no other limit is set. -/
theorem limit_of_dimensions_eq (heq : c.dimensionsSnapshot.current = c.dimensionsSnapshot.desired)
    {e : String × String} (he : e ∈ Dimension.hostFields) :
    c.spec.dimensions.get? e.1 = some (c.liveDimension e.2) ∨
      c.spec.dimensions.get? e.1 = none ∧ (c.liveDimension e.2).isUnset = true := by
  have hdims : Dict.ofList ((Dimension.hostFields.filter fun e =>
      c.spec.dimensions.contains e.1 || !(c.liveDimension e.2).isUnset).map fun e => (e.1, c.liveDimension e.2)) =
      c.spec.dimensions := Json.ofDict_injective heq
  have hkeys : ∀ e ∈ Dimension.hostFields, ∀ e' ∈ Dimension.hostFields, e'.1 = e.1 → e' = e := by decide
  cases hget : c.spec.dimensions.get? e.1 with
  | some v =>
    -- the value stands under this name on the live side, where only one field has the name
    have hmem := Dict.get?_eq_some_iff.1 hget
    rw [← hdims] at hmem
    obtain ⟨e', he', hentry⟩ := List.mem_map.1 (Dict.mem_of_mem_ofList hmem)
    obtain ⟨hkey, hvalue⟩ := Prod.mk.inj hentry
    rw [hkeys e he e' (List.mem_filter.1 he').1 hkey] at hvalue
    exact .inl (congrArg some hvalue.symm)
  | none =>
    refine .inr ⟨rfl, ?_⟩
    by_contra hset
    have hshown : e ∈ Dimension.hostFields.filter fun e =>
        c.spec.dimensions.contains e.1 || !(c.liveDimension e.2).isUnset :=
      List.mem_filter.2 ⟨he, by simp [hset]⟩
    have hkey := Dict.mem_keys_ofList.2 (List.mem_map_of_mem (f := Prod.fst)
      (List.mem_map_of_mem (f := fun e => (e.1, c.liveDimension e.2)) hshown))
    rw [hdims] at hkey
    exact Dict.get?_eq_none_iff.1 hget hkey

theorem ulimits_null {v : Json} {us us' : Ulimits} (hdeclared : Ulimits.ofDeclared v = .ok us)
    (hlive : Ulimits.ofLive (some v) = .ok us') : v = .null := by
  cases v with
  | null => rfl
  | obj fields => cases hlive
  | _ => cases hdeclared

theorem differ_self_ne (key : String) (v : Json) : Dimension.differ key v v ≠ .ok true := by
  intro h
  unfold Dimension.differ at h
  by_cases hnull : (v.isNull || v.isNull) = true
  · rw [if_pos hnull] at h
    cases h
  · rw [if_neg hnull] at h
    obtain ⟨t, ht, h⟩ := Result.bind_eq_ok.1 h
    obtain ⟨t', ht', h⟩ := Result.bind_eq_ok.1 h
    have hsame : t = t' := Except.ok.inj (ht.symm.trans ht')
    exact bne_iff_ne.1 (Except.ok.inj h) hsame

theorem dimensionDiffers_self_ne {e : String × String} (he : e ∈ Dimension.hostFields)
    (h : c.spec.dimensions.get? e.1 = some (c.liveDimension e.2)) : c.dimensionDiffers e.1 e.2 ≠ .ok true := by
  have hulimits : ∀ e ∈ Dimension.hostFields, e.1 = "ulimits" → e.2 = "Ulimits" := by decide
  intro hdiffers
  unfold dimensionDiffers at hdiffers
  rw [h] at hdiffers
  dsimp only at hdiffers
  by_cases hkey : e.1 = "ulimits"
  · rw [if_pos hkey, hulimits e he hkey] at hdiffers
    obtain ⟨us, hus, hdiffers⟩ := Result.bind_eq_ok.1 hdiffers
    obtain ⟨us', hus', hdiffers⟩ := Result.bind_eq_ok.1 hdiffers
    have hnull := ulimits_null hus hus'
    rw [hnull] at hus hus'
    rw [← Except.ok.inj hus, ← Except.ok.inj hus'] at hdiffers
    exact absurd hdiffers (by decide)
  · rw [if_neg hkey] at hdiffers
    exact differ_self_ne _ _ hdiffers

theorem dimensions_ne (h : c.dimensionsDiffer = .ok true) :
    c.dimensionsSnapshot.current ≠ c.dimensionsSnapshot.desired := by
  intro heq
  unfold dimensionsDiffer at h
  by_cases hnone : c.noDimensions = true
  · rw [if_pos hnone] at h
    cases h
  · rw [if_neg hnone] at h
    obtain ⟨e, he, hdiffers⟩ := exists_of_anyDimensionDiffers h
    rcases limit_of_dimensions_eq heq he with hself | ⟨hundeclared, hunset⟩
    · exact dimensionDiffers_self_ne he hself hdiffers
    · unfold dimensionDiffers at hdiffers
      rw [hundeclared, hunset, Bool.not_true, Bool.and_false] at hdiffers
      cases hdiffers

/-! ### Attributes that are decided by more than what is shown -/

theorem image_eq_iff (h : c.imageDiffers = true) :
    c.imageSnapshot.current = c.imageSnapshot.desired ↔ c.Unseen .image := by
  unfold imageDiffers at h
  rcases hdesired : c.spec.image with _ | reference
  · rw [hdesired] at h
    cases h
  · have hshown : c.imageSnapshot.current = c.imageSnapshot.desired ↔
        c.live.configValue? "Image" = some (.str reference) := by
      unfold imageSnapshot
      rw [hdesired]
      rcases c.live.configValue? "Image" with _ | v
      · exact iff_of_false nofun nofun
      · exact Option.some_inj.symm
    rw [hshown]
    constructor
    · intro hlive
      refine .image hdesired hlive fun i hi hid => ?_
      rw [hdesired, hi, hid, hlive] at h
      simp [Json.string?] at h
    · intro hunseen
      cases hunseen with
      | image hreference hlive _ => rw [hlive, Option.some.inj (hreference.symm.trans hdesired)]

theorem labels_eq_iff (h : c.labelsDiffer = true) :
    c.labelsSnapshot.current = c.labelsSnapshot.desired ↔ c.Unseen .labels := by
  have hshown : c.labelsSnapshot.current = c.labelsSnapshot.desired ↔ c.ownLabels = c.spec.labels :=
    Json.ofStringDict_injective.eq_iff
  rw [hshown]
  constructor
  · intro hlive
    refine .labels hlive ?_
    unfold labelsDiffer at h
    rwa [hlive, bne_self_eq_false, Bool.or_false] at h
  · intro hunseen
    cases hunseen with
    | labels hlive _ => exact hlive

theorem volumes_eq_iff (h : c.volumesDiffer = .ok true) :
    c.volumesSnapshot.current = c.volumesSnapshot.desired ↔ c.Unseen .volumes := by
  obtain ⟨desired, hdesired, h⟩ := Result.bind_eq_ok.1 h
  obtain ⟨live, hlive, h⟩ := Result.bind_eq_ok.1 h
  have hne := bne_iff_ne.1 (Except.ok.inj h)
  have hshown : c.volumesSnapshot.current = c.volumesSnapshot.desired ↔
      volumeKeys .strict live = volumeKeys .strict desired := by
    unfold volumesSnapshot
    rw [hdesired, hlive]
    exact Json.ofStrings_injective.eq_iff
  rw [hshown]
  constructor
  · intro htexts
    refine .volumes ?_ hdesired hlive htexts
    cases hmode : c.volumeMatch with
    | path => rfl
    | strict =>
      rw [hmode] at hne
      exact absurd htexts.symm hne
  · intro hunseen
    cases hunseen with
    | volumes _ hdesired' hlive' htexts =>
      rw [Except.ok.inj (hdesired.symm.trans hdesired'), Except.ok.inj (hlive.symm.trans hlive')]
      exact htexts

theorem state_eq_iff (h : c.stateDiffers = true) :
    c.stateSnapshot.current = c.stateSnapshot.desired ↔ c.Unseen .state := by
  have hshown : c.stateSnapshot.current = c.stateSnapshot.desired ↔ c.live.status? = some c.spec.state.name :=
    Json.ofString?_injective.eq_iff' (b := some c.spec.state.name) rfl
  rw [hshown]
  constructor
  · intro hlive
    unfold stateDiffers at h
    rw [hlive] at h
    cases hstate : c.spec.state with
    | started =>
      rw [hstate] at hlive
      exact .state hstate hlive
    | _ =>
      rw [hstate] at h
      exact absurd h (by decide)
  · intro hunseen
    cases hunseen with
    | state hstate hlive =>
      rw [hlive, hstate]
      rfl

theorem restartPolicyMatches_self_eq_false {name : String} (h : restartPolicyMatches name name = false) :
    name = "" ∨ name = "oneshot" := by
  unfold restartPolicyMatches at h
  by_cases hno : (name == "no" || name == "oneshot") = true
  · rw [if_pos hno] at h
    rcases Bool.or_eq_true_iff.1 hno with hno | hshot
    · rw [beq_iff_eq.1 hno] at h
      exact absurd h (by decide)
    · exact .inr (beq_iff_eq.1 hshot)
  · rw [if_neg hno] at h
    by_cases hname : name = ""
    · exact .inl hname
    · rw [if_neg (by simpa using hname), beq_self_eq_true] at h
      cases h

theorem restartPolicy_shown_eq_iff : c.restartPolicySnapshot.current = c.restartPolicySnapshot.desired ↔
    ∃ name attempts, c.spec.restartPolicy = some name ∧ c.spec.restartRetries = some attempts ∧
      c.liveRestartPolicy = (name, attempts) := by
  constructor
  · intro heq
    have hfield : ∀ k, c.restartPolicySnapshot.current.get? k = c.restartPolicySnapshot.desired.get? k :=
      fun k => by rw [heq]
    have hname : some (Json.str c.liveRestartPolicy.1) = some (.ofString? c.spec.restartPolicy) := by
      have h := hfield "name"
      unfold restartPolicySnapshot at h
      rwa [Json.get?_ofFields, Json.get?_ofFields] at h
    have hattempts : some (Json.int c.liveRestartPolicy.2) =
        some ((c.spec.restartRetries.map fun n => Json.int n).getD .null) := by
      have h := hfield "retries"
      unfold restartPolicySnapshot at h
      rwa [Json.get?_ofFields, Json.get?_ofFields] at h
    refine ⟨c.liveRestartPolicy.1, c.liveRestartPolicy.2, ?_, ?_, rfl⟩
    · exact (@Json.ofString?_injective (some c.liveRestartPolicy.1) _ (Option.some.inj hname)).symm
    · rcases hretries : c.spec.restartRetries with _ | n
      · rw [hretries] at hattempts
        cases hattempts
      · rw [hretries] at hattempts
        rw [Int.ofNat.inj (Json.int.inj (Option.some.inj hattempts))]
  · rintro ⟨name, attempts, hname, hattempts, hlive⟩
    unfold restartPolicySnapshot
    rw [hname, hattempts, hlive]
    rfl

theorem restartPolicy_eq_iff (h : c.restartPolicyDiffers = true) :
    c.restartPolicySnapshot.current = c.restartPolicySnapshot.desired ↔ c.Unseen .restartPolicy := by
  rw [restartPolicy_shown_eq_iff]
  constructor
  · rintro ⟨name, attempts, hname, hattempts, hlive⟩
    refine .restartPolicy hname (restartPolicyMatches_self_eq_false ?_) hattempts hlive
    unfold restartPolicyDiffers at h
    by_cases hdelegated : c.defaults.restartDelegated = true
    · rw [if_pos hdelegated] at h
      cases h
    · rw [if_neg hdelegated, hname, hattempts, hlive] at h
      simpa using h
  · intro hunseen
    cases hunseen with
    | restartPolicy hname _ hattempts hlive => exact ⟨_, _, hname, hattempts, hlive⟩

/-! ### All attributes -/

theorem redact_of_ne {a : Attribute} (ha : a ≠ .environment) (s : Snapshot) : redact a s = s := if_pos ha

theorem shown_eq_iff {a : Attribute} (h : c.differs a = .ok true) :
    (redact a (c.snapshot a)).current = (redact a (c.snapshot a)).desired ↔ c.Unseen a := by
  by_cases henv : a = .environment
  · subst henv
    exact iff_of_false (environment_ne h) nofun
  · rw [redact_of_ne henv]
    cases a with
    | environment => exact absurd rfl henv
    | image => exact image_eq_iff (Except.ok.inj h)
    | labels => exact labels_eq_iff (Except.ok.inj h)
    | volumes => exact volumes_eq_iff h
    | state => exact state_eq_iff (Except.ok.inj h)
    | restartPolicy => exact restartPolicy_eq_iff (Except.ok.inj h)
    | capAdd => exact iff_of_false (capAdd_ne (Except.ok.inj h)) nofun
    | securityOpt => exact iff_of_false (securityOpt_ne (Except.ok.inj h)) nofun
    | ipcMode => exact iff_of_false (ipcMode_ne (Except.ok.inj h)) nofun
    | privileged => exact iff_of_false (privileged_ne (Except.ok.inj h)) nofun
    | pidMode => exact iff_of_false (pidMode_ne (Except.ok.inj h)) nofun
    | cgroupnsMode => exact iff_of_false (cgroupnsMode_ne (Except.ok.inj h)) nofun
    | tmpfs => exact iff_of_false (tmpfs_ne (Except.ok.inj h)) nofun
    | volumesFrom => exact iff_of_false (volumesFrom_ne (Except.ok.inj h)) nofun
    | dimensions => exact iff_of_false (dimensions_ne h) nofun
    | command => exact iff_of_false (command_ne h) nofun
    | healthcheck => exact iff_of_false (healthcheck_ne h) nofun
    | user => exact iff_of_false (user_ne (Except.ok.inj h)) nofun

end Comparison

/-! ### The entries of a drift -/

namespace Comparator

/-- Every entry is an attribute that differs, with its snapshot. -/
def Sound (c : Comparison) (d : Drift) : Prop :=
  ∀ e ∈ d.entries, c.differs e.key = .ok true ∧ e.shown = c.snapshot e.key

theorem sound_lookAt {c : Comparison} {d d' : Drift × List Note} {a : Attribute} (h : lookAt c d a = .ok d')
    (hd : Sound c d.1) : Sound c d'.1 := by
  obtain ⟨b, hb, h⟩ := Result.bind_eq_ok.1 h
  cases b with
  | false =>
    rw [← Except.ok.inj h]
    exact hd
  | true =>
    rw [← Except.ok.inj h]
    intro e he
    rw [Drift.entries_push, List.mem_append, List.mem_singleton] at he
    rcases he with he | rfl
    · exact hd e he
    · exact ⟨hb, rfl⟩

theorem sound_foldlM_lookAt {c : Comparison} {d d' : Drift × List Note} {l : List Attribute}
    (h : l.foldlM (lookAt c) d = .ok d') (hd : Sound c d.1) : Sound c d'.1 := by
  induction l generalizing d with
  | nil =>
    rw [← Except.ok.inj h]
    exact hd
  | cons a l ih =>
    rw [List.foldlM_cons] at h
    obtain ⟨d₁, h₁, h⟩ := Result.bind_eq_ok.1 h
    exact ih h (sound_lookAt h₁ hd)

variable {s : Spec} {live : Inspection} {image : Option Image} {d : Drift × List Note}

theorem sound_compare {c : Comparator} (h : c.compare s live image = .ok d) : Sound (c.beside s live image) d.1 := by
  obtain ⟨_, -, h⟩ := Result.bind_eq_ok.1 h
  exact sound_foldlM_lookAt h nofun

/-- With the secrets hidden, the sides of an attribute that differs look different, apart from the unseen ones. -/
theorem drift_visible_iff (c : Comparator) (h : c.compare s live image = .ok d) :
    ∀ e ∈ d.1.entries, (redact e.key e.shown).current ≠ (redact e.key e.shown).desired ↔
      ¬ (c.beside s live image).Unseen e.key := by
  intro e he
  obtain ⟨hdiffers, hshown⟩ := sound_compare h e he
  rw [hshown]
  exact not_congr (Comparison.shown_eq_iff hdiffers)

/-- Another command is seen. -/
theorem drift_visible_iff_command :
    let c : Comparator := ⟨.docker, .path⟩
    let s : Spec := { image := some "nginx", command := some "/bin/new" }
    let live : Inspection := ⟨.ofFields [("Image", .str "sha256:1"), ("Path", .str "/bin/old"),
      ("Config", .ofFields [("Image", .str "nginx")]), ("State", .ofFields [("Status", .str "running")])]⟩
    let image : Image := { id := "sha256:1" }
    ∃ d, c.compare s live (some image) = .ok d ∧ d.1.keys = [.command] ∧
      ∀ e ∈ d.1.entries, (redact e.key e.shown).current ≠ (redact e.key e.shown).desired := by
  intro c s live image
  have hkeys : (c.compare s live (some image)).map (·.1.keys) = .ok [.command] := by
    decide +kernel
  obtain ⟨d, hd, hkeys⟩ := Result.map_eq_ok.1 hkeys
  refine ⟨d, hd, hkeys, fun e he => (drift_visible_iff c hd e he).2 ?_⟩
  have hkey : e.key ∈ d.1.keys := List.mem_map_of_mem he
  rw [hkeys, List.mem_singleton] at hkey
  rw [hkey]
  nofun

/-- Five attributes differ and none of them is seen: the image was pulled again, and it brings along a label that
the container is to have, and has, with another value. -/
theorem five_unseen :
    let c : Comparator := ⟨.docker, .path⟩
    let s : Spec := {
      image := some "nginx", labels := .ofList [("app", "web")], state := .started, restartPolicy := some "oneshot",
      restartRetries := some 0, volumes := [.mount { source := "/a", destination := "/b:rw,x" }] }
    let live : Inspection := ⟨.ofFields [("Image", .str "sha256:1"), ("State", .ofFields [("Status", .str "started")]),
      ("Config", .ofFields [("Image", .str "nginx"), ("Labels", .ofFields [("app", .str "web")])]),
      ("HostConfig", .ofFields [("RestartPolicy", .ofFields [("Name", .str "oneshot")])]),
      ("Mounts", .arr [.ofFields [("Source", .str "/a"), ("Destination", .str "/b"), ("Propagation", .str "x:rw")]])]⟩
    let image : Image := { id := "sha256:2", labels := .ofList [("app", "nginx")] }
    ∃ d, c.compare s live (some image) = .ok d ∧
      d.1.keys = [.image, .labels, .volumes, .state, .restartPolicy] ∧
      ∀ e ∈ d.1.entries, (redact e.key e.shown).current = (redact e.key e.shown).desired := by
  intro c s live image
  have hkeys : (c.compare s live (some image)).map (·.1.keys) =
      .ok [.image, .labels, .volumes, .state, .restartPolicy] := by
    decide +kernel
  obtain ⟨d, hd, hkeys⟩ := Result.map_eq_ok.1 hkeys
  refine ⟨d, hd, hkeys, fun e he => ?_⟩
  obtain ⟨hdiffers, hshown⟩ := sound_compare hd e he
  have hkey : e.key ∈ d.1.keys := List.mem_map_of_mem he
  rw [hshown, Comparison.shown_eq_iff hdiffers]
  rw [hkeys] at hkey
  simp only [List.mem_cons, List.not_mem_nil, or_false] at hkey
  rcases hkey with himage | hlabels | hvolumes | hstate | hrestart
  · rw [himage]
    exact .image rfl rfl (by decide)
  · rw [hlabels]
    exact .labels (by decide +kernel) (by decide +kernel)
  · rw [hvolumes]
    have hdeclared : (c.beside s live (some image)).desiredVolumes = .ok [⟨"/a", "/b:rw,x", .readWrite, ""⟩] := by
      decide +kernel
    have hreported : (c.beside s live (some image)).liveVolumes = .ok [⟨"/a", "/b", .readWrite, "x:rw"⟩] := by
      decide +kernel
    exact .volumes rfl hdeclared hreported (by decide +kernel)
  · rw [hstate]
    exact .state rfl rfl
  · rw [hrestart]
    exact .restartPolicy rfl (.inr rfl) rfl (by decide +kernel)

end Comparator

end Shipshape
