import Shipshape.Drift.Comparator
import Shipshape.Proofs.Create.Request

/-!
# What is reported as it was requested

Modes of namespaces, privileges, the user and the restart policy are brought to one form for the request and again for
the comparison, by different rules. Of a container that reports what was requested none of them differs, with two
exceptions (`echoed_differs_iff`): an empty mode of the namespace for control groups, and an empty restart policy that
is not left to somebody else.
-/

namespace Shipshape

/-- A field is what was asked for; if nothing was, it is not set. -/
def Json.Says (field : Option Json) : Option String → Prop
  | some text => field = some (.str text)
  | none => field = none ∨ field = some .null ∨ field = some (.str "")

/-- The engine reports what was requested, word for word. -/
structure Inspection.Echoes (live : Inspection) (r : ContainerRequest) : Prop where
  ipcMode : Json.Says (live.hostConfig.get? "IpcMode") r.ipcMode
  pidMode : Json.Says (live.mergedHostConfig.get? "PidMode") r.pidMode
  /-- If no mode was asked for, none is reported under another name either. -/
  noPidMode : r.pidMode = none →
    ∀ k ∈ Comparison.pidModeFields, (live.mergedHostConfig.get? k).all Json.isUnset = true
  cgroupnsMode : Json.Says (live.hostConfig.get? "CgroupnsMode") r.cgroupnsMode
  privileged : live.hostConfig.get? "Privileged" = some (.bool r.privileged)
  user : Json.Says (live.config.get? "User") r.user
  restartPolicy : ∃ policy, live.hostConfig.get? "RestartPolicy" = some policy ∧
    policy.get? "Name" = some (.str ((r.restartPolicy.map (·.name)).getD "")) ∧
    ∀ asked, r.restartPolicy = some asked → policy.get? "MaximumRetryCount" = some (.int asked.maximumRetryCount)

/-- The attributes that an engine reports as they were requested. -/
def Attribute.echoed : List Attribute := [.ipcMode, .pidMode, .cgroupnsMode, .privileged, .user, .restartPolicy]

/-- An empty text is declared that the rule on the attribute takes for another one than the engine does. -/
inductive Spec.EmptyDrifts (s : Spec) : Attribute → Prop
  | cgroupnsMode (h : s.cgroupnsMode = some "") : EmptyDrifts s .cgroupnsMode
  | restartPolicy (h : s.restartPolicy = some "") (hown : (EngineDefaults.ofSpec s).restartDelegated = false) :
    EmptyDrifts s .restartPolicy

theorem Json.Says.text {field : Option Json} {asked : Option String} (h : Says field asked) :
    ((field.filter (!·.isNull)).bind string?).filter (· != "") = asked.filter (· != "") := by
  cases asked with
  | some text =>
    obtain rfl : field = some (.str text) := h
    rfl
  | none =>
    rcases h with rfl | rfl | rfl
    · rfl
    · rfl
    · rfl

theorem Inspection.hostText?_ne_empty {live : Inspection} {k text : String} (h : live.hostText? k = some text) :
    text ≠ "" := by
  simpa using (Option.filter_eq_some_iff.1 h).2

theorem User.canonical_filter (user : Option String) : canonical (user.filter (· != "")) = canonical user := by
  cases user with
  | none => rfl
  | some name =>
    by_cases hempty : name = ""
    · rw [hempty]
      rfl
    · rw [Option.filter_some, if_pos (by simpa using hempty)]

theorem Spec.desiredPidMode_ne_empty {s : Spec} {mode : String} (h : s.desiredPidMode = some mode) : mode ≠ "" := by
  have hfiltered : ∀ declared : Option String, declared.filter (· != "") = some mode → mode ≠ "" := by
    intro declared hd
    simpa using (Option.filter_eq_some_iff.1 hd).2
  unfold desiredPidMode at h
  split at h
  · next mode' hm =>
    injection h with h
    subst h
    exact hfiltered _ hm
  · exact hfiltered _ h

theorem Create.restartPolicy_of_request {s : Spec} {r : ContainerRequest} (h : request s = .ok r)
    (hs : (EngineDefaults.ofSpec s).restartDelegated = false) : r.restartPolicy = restartPolicy? s := by
  rw [EngineDefaults.ofSpec] at hs
  cases hengine : s.engine with
  | docker => exact (request_docker hengine h).restartPolicy
  | podman =>
    rw [hengine] at hs
    have hself : Podman.supervised s = false := by
      rw [Podman.supervised, show s.restartViaSupervisor = false from hs]
      rfl
    rw [(request_podman hengine h).restartPolicy, hself]
    rfl

namespace Comparison

variable {c : Comparison} {r : ContainerRequest}

/-! ### Namespaces, privileges and the user -/

section

variable (hr : Create.Requested c.spec r) (hlive : c.live.Echoes r)

include hr hlive

theorem ipcModeDiffers_of_echoes : c.ipcModeDiffers = false := by
  have htext : c.live.hostText? "IpcMode" = r.ipcMode.filter (· != "") := hlive.ipcMode.text
  rw [ipcModeDiffers, htext, hr.ipcMode]
  cases c.spec.ipcMode with
  | none => rfl
  | some mode => simp [Option.filter_filter]

theorem livePidMode_of_echoes : c.livePidMode? = c.spec.desiredPidMode.map .str := by
  have hpid := hlive.pidMode
  rw [livePidMode?, firstSet?, ← hr.pidMode]
  cases hmode : r.pidMode with
  | none =>
    rw [Option.map_none, List.findSome?_eq_none_iff]
    intro k hk
    have hunset := hlive.noPidMode hmode k hk
    cases hget : c.live.mergedHostConfig.get? k with
    | none => rfl
    | some v =>
      rw [hget, Option.all_some] at hunset
      simp [hunset]
  | some mode =>
    rw [hmode] at hpid
    have hget : c.live.mergedHostConfig.get? "PidMode" = some (.str mode) := hpid
    have hset : (Json.str mode).isUnset = false :=
      beq_eq_false_iff_ne.2 (Spec.desiredPidMode_ne_empty (hr.pidMode.symm.trans hmode))
    rw [pidModeFields, List.findSome?_cons_of_isSome]
    · simp [hget, hset]
    · simp [hget, hset]

theorem pidModeDiffers_of_echoes : c.pidModeDiffers = false := by
  rw [pidModeDiffers, livePidMode_of_echoes hr hlive, desiredPidModeText, bne_self_eq_false, Bool.and_false]

theorem cgroupnsModeDiffers_of_echoes : c.cgroupnsModeDiffers = true ↔ c.spec.cgroupnsMode = some "" := by
  have htext : c.live.hostText? "CgroupnsMode" = r.cgroupnsMode.filter (· != "") := hlive.cgroupnsMode.text
  rw [cgroupnsModeDiffers, liveCgroupnsMode, htext, hr.cgroupnsMode]
  cases c.spec.cgroupnsMode with
  | none => simp
  | some mode =>
    by_cases hempty : mode = ""
    · subst hempty
      have hdefault : (c.live.hostText? "CgroupMode").getD "host" ≠ "" := by
        cases hother : c.live.hostText? "CgroupMode" with
        | none => decide
        | some other => exact Inspection.hostText?_ne_empty hother
      exact iff_of_true (bne_iff_ne.2 hdefault.symm) rfl
    · simp [hempty, Option.filter_some]

theorem privilegedDiffers_of_echoes : c.privilegedDiffers = false := by
  rw [privilegedDiffers, livePrivileged, Inspection.hostValue?, hlive.privileged, hr.privileged]
  exact bne_self_eq_false c.spec.privileged

theorem userDiffers_of_echoes : c.userDiffers = false := by
  have hsame : User.canonical c.spec.user = c.liveUser := by
    rw [liveUser, ← User.canonical_filter (Option.bind _ _), Inspection.configValue?, hlive.user.text, hr.user,
      User.canonical_filter, User.canonical_filter]
  rw [userDiffers, hsame, bne_self_eq_false, Bool.and_false]

end

/-! ### Restarts -/

theorem restartPolicyMatches_self {desired : String} (hd : desired ≠ "") :
    restartPolicyMatches desired (if desired == "oneshot" then "no" else desired) = true := by
  rw [restartPolicyMatches]
  split
  · next hno =>
    rcases Bool.or_eq_true_iff.1 hno with h | h
    · rw [eq_of_beq h]
      decide
    · rw [if_pos h]
      decide
  · next hno =>
    rw [Bool.or_eq_true, not_or] at hno
    have hone : (desired == "oneshot") = false := by simpa using hno.2
    have hname : (desired == "") = false := by simpa using hd
    simp [hone, hname]

theorem liveRestartPolicy_of_echoes (hlive : c.live.Echoes r) :
    c.liveRestartPolicy.1 = (r.restartPolicy.map (·.name)).getD "" ∧
      ∀ asked, r.restartPolicy = some asked → c.liveRestartPolicy.2 = asked.maximumRetryCount := by
  obtain ⟨policy, hpolicy, hname, hcount⟩ := hlive.restartPolicy
  have hset : policy.isNull = false := by
    cases policy with
    | null => cases hname
    | _ => rfl
  have hvalue : c.live.hostValue? "RestartPolicy" = some policy := by
    rw [Inspection.hostValue?, hpolicy, Option.filter_some, hset]
    rfl
  rw [liveRestartPolicy, hvalue, Option.getD_some]
  refine ⟨?_, fun asked hasked => ?_⟩
  · rw [Json.getD, hname]
    rfl
  · dsimp only
    rw [hcount asked hasked]
    exact Int.toNat_natCast _

theorem restartPolicyDiffers_of_echoes (h : Create.request c.spec = .ok r) (hc : c.defaults = .ofSpec c.spec)
    (hlive : c.live.Echoes r) : c.restartPolicyDiffers = true ↔
      c.spec.restartPolicy = some "" ∧ (EngineDefaults.ofSpec c.spec).restartDelegated = false := by
  rw [restartPolicyDiffers, hc]
  cases hdelegated : (EngineDefaults.ofSpec c.spec).restartDelegated with
  | true => simp
  | false =>
    have hr := Create.restartPolicy_of_request h hdelegated
    obtain ⟨hname, hcount⟩ := liveRestartPolicy_of_echoes hlive
    cases hp : c.spec.restartPolicy with
    | none => simp
    | some desired =>
      rw [Create.restartPolicy?, hp, Option.filter_some] at hr
      by_cases hempty : desired = ""
      · subst hempty
        have hnone : r.restartPolicy = none := hr
        rw [hnone] at hname
        rw [hname]
        simp [restartPolicyMatches]
      · rw [if_pos (by simpa using hempty)] at hr
        have hmatches := restartPolicyMatches_self hempty
        have hkept : (desired == "on-failure" && c.spec.restartRetries.any (· != c.liveRestartPolicy.2)) = false := by
          by_cases hfail : desired = "on-failure"
          · subst hfail
            rw [hcount _ hr]
            cases c.spec.restartRetries with
            | none => rfl
            | some n => simp
          · simp [hfail]
        rw [hr] at hname
        have hlivename : c.liveRestartPolicy.1 = if desired == "oneshot" then "no" else desired := hname
        have hpasses : (!restartPolicyMatches desired c.liveRestartPolicy.1 ||
            desired == "on-failure" && c.spec.restartRetries.any (· != c.liveRestartPolicy.2)) = false := by
          rw [hlivename, hmatches, hkept]
          rfl
        exact iff_of_false (Bool.eq_false_iff.1 hpasses) fun hd => hempty (Option.some.inj hd.1)

/-- What is reported as it was requested is drift exactly in two cases, both of an empty text. -/
theorem echoed_differs_iff {s : Spec} {r : ContainerRequest} {live : Inspection} (h : Create.request s = .ok r)
    (hlive : live.Echoes r) (m : VolumeMatch) (image : Option Image) {a : Attribute} (ha : a ∈ Attribute.echoed) :
    ∃ differs, ((Comparator.ofSpec s m).beside s live image).differs a = .ok differs ∧
      (differs = true ↔ s.EmptyDrifts a) := by
  have hr := Create.request_requested h
  cases a with
  | ipcMode => exact ⟨false, congrArg Except.ok (ipcModeDiffers_of_echoes hr hlive), iff_of_false nofun nofun⟩
  | pidMode => exact ⟨false, congrArg Except.ok (pidModeDiffers_of_echoes hr hlive), iff_of_false nofun nofun⟩
  | privileged => exact ⟨false, congrArg Except.ok (privilegedDiffers_of_echoes hr hlive), iff_of_false nofun nofun⟩
  | user => exact ⟨false, congrArg Except.ok (userDiffers_of_echoes hr hlive), iff_of_false nofun nofun⟩
  | cgroupnsMode =>
    refine ⟨_, rfl, (cgroupnsModeDiffers_of_echoes hr hlive).trans ⟨.cgroupnsMode, ?_⟩⟩
    rintro ⟨hempty⟩
    exact hempty
  | restartPolicy =>
    refine ⟨_, rfl, (restartPolicyDiffers_of_echoes h rfl hlive).trans ⟨fun hd => .restartPolicy hd.1 hd.2, ?_⟩⟩
    rintro (_ | ⟨hempty, hown⟩)
    exact ⟨hempty, hown⟩
  | _ => exact absurd ha (by decide)

/-- Podman is asked for a container that runs once and shares the host's process namespace. -/
theorem echoed_differs_iff_once :
    let web : Spec := { name := some "web", image := some "nginx", engine := .podman, restartPolicy := some "oneshot" }
    let s : Spec := { web with
      ipcMode := some "", pid := some "host", privileged := true, user := some "root", specified := ["pid", "user"] }
    let live : Inspection := ⟨.ofFields [("Config", .ofFields [("User", .str "root")]), ("HostConfig", .ofFields
      [("IpcMode", .str ""), ("PidMode", .str "host"), ("Privileged", .bool true),
        ("RestartPolicy", .ofFields [("Name", .str "no"), ("MaximumRetryCount", .int 0)])])]⟩
    (∃ r, Create.request s = .ok r ∧ live.Echoes r) ∧
    ∀ a ∈ Attribute.echoed, ((Comparator.ofSpec s .path).beside s live none).differs a = .ok false := by
  intro web s live
  obtain ⟨r, hr, hlive⟩ : ∃ r, Create.request s = .ok r ∧ live.Echoes r :=
    ⟨_, rfl, .inr (.inr rfl), rfl, nofun, .inl rfl, rfl, rfl, _, rfl, rfl, fun asked hasked => by
      cases hasked
      rfl⟩
  refine ⟨⟨r, hr, hlive⟩, fun a ha => ?_⟩
  obtain ⟨differs, hdiffers, hiff⟩ := echoed_differs_iff hr hlive .path none ha
  have hkept : differs = false := by
    refine Bool.eq_false_iff.2 fun h => ?_
    rcases hiff.1 h with hempty | ⟨hempty, -⟩
    · cases hempty
    · exact absurd (Option.some.inj hempty) (by decide)
  exact hkept ▸ hdiffers

/-- Docker is asked for the empty mode and for no policy at all; it reports both, and both are drift. -/
theorem empty_texts_drift :
    let s : Spec := { name := some "web", image := some "nginx", cgroupnsMode := some "", restartPolicy := some "" }
    let live : Inspection := ⟨.ofFields [("HostConfig", .ofFields
      [("CgroupnsMode", .str ""), ("Privileged", .bool false),
        ("RestartPolicy", .ofFields [("Name", .str ""), ("MaximumRetryCount", .int 0)])])]⟩
    let c : Comparison := (Comparator.ofSpec s .path).beside s live none
    (∃ r, Create.request s = .ok r ∧ live.Echoes r) ∧
    c.differs .cgroupnsMode = .ok true ∧ c.differs .restartPolicy = .ok true := by
  refine ⟨⟨_, rfl, .inl rfl, .inl rfl, fun _ => ?_, rfl, rfl, .inl rfl, _, rfl, rfl, nofun⟩, ?_, ?_⟩
  all_goals decide +kernel

end Comparison

end Shipshape
