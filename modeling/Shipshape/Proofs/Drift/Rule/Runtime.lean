import Shipshape.Proofs.Drift.Rule.Privilege
import Shipshape.Proofs.Healthcheck
import Shipshape.Proofs.Text

/-!
# How a new container runs

The environment, the healthcheck and the restart policy of a container that was just made, and its state once
it was started or left alone.
-/

namespace Shipshape

/-! ### Environment -/

/-- The environment of a specification, before it is told the name of the service. -/
def Spec.declaredEnvironment (s : Spec) : Except Error (Dict String) :=
  (s.environment.map Environment.ofDeclared).getD (.ok ∅)

/-- No name but the one that is not compared has an equals sign, and the name of the service is declared as
it will be, if at all. -/
def Spec.KeepsEnvironment (s : Spec) : Prop :=
  ∀ declared, s.declaredEnvironment = .ok declared →
    (∀ k ∈ declared.keys, k ≠ Spec.debugKey → '=' ∉ k.toList) ∧
      ∀ name v, s.name = some name → declared.get? Create.serviceNameKey = some v →
        v = Create.serviceName name

theorem Spec.keepsEnvironment_iff {s : Spec} {declared : Dict String} (h : s.declaredEnvironment = .ok declared) :
    s.KeepsEnvironment ↔ (∀ k ∈ declared.keys, k ≠ Spec.debugKey → '=' ∉ k.toList) ∧
      ∀ name v, s.name = some name → declared.get? Create.serviceNameKey = some v →
        v = Create.serviceName name := by
  constructor
  · intro hkeeps
    exact hkeeps declared h
  · intro hkeeps declared' h'
    rw [h] at h'
    injection h' with h'
    subst h'
    exact hkeeps

namespace Comparison

theorem liveEntry_of_notMem {k : String} (hk : '=' ∉ k.toList) (v : String) :
    liveEntry (k ++ "=" ++ v) = (k, v) := by
  have hlist : (k ++ "=" ++ v).toList = k.toList ++ '=' :: v.toList := by
    simp
  rw [liveEntry, Environment.splitEntry?, hlist, Text.splitFirst?_append hk]
  simp

theorem notMem_liveEntry (entry : String) : '=' ∉ (liveEntry entry).1.toList := by
  rw [liveEntry, Environment.splitEntry?]
  cases h : Text.splitFirst? '=' entry.toList with
  | none => exact Text.splitFirst?_eq_none_iff.1 h
  | some p =>
    obtain ⟨-, hp⟩ := Text.splitFirst?_eq_some (a := p.1) (b := p.2) h
    simpa using hp

variable {s : Spec} {m : VolumeMatch} {r : ContainerRequest} {image : Option Image}

theorem notMem_of_get?_liveEnvironment {c : Comparison} {k v : String}
    (h : c.liveEnvironment.get? k = some v) : '=' ∉ k.toList := by
  rw [liveEnvironment, Dict.get?_ofList] at h
  have hmem : (k, v) ∈ ((c.live.configTexts "Env").map liveEntry).reverse := Dict.mem_of_lookup h
  obtain ⟨entry, -, hentry⟩ := List.mem_map.1 (List.mem_reverse.1 hmem)
  have hk := notMem_liveEntry entry
  rwa [hentry] at hk

theorem liveEnvironment_of_reported {c : Comparison} {env : Dict String}
    (hreported : (c.live.configTexts "Env").Perm (env.entries.map fun e => e.1 ++ "=" ++ e.2))
    (hnames : ∀ k ∈ env.keys, '=' ∉ k.toList) : c.liveEnvironment = env := by
  have hread : (env.entries.map fun e => e.1 ++ "=" ++ e.2).map liveEntry = env.entries := by
    rw [List.map_map,
      List.map_congr_left fun e he => liveEntry_of_notMem (hnames e.1 (List.mem_map_of_mem he)) e.2]
    exact List.map_id _
  have hperm := hreported.map liveEntry
  rw [hread] at hperm
  exact Dict.ofList_eq_of_perm_entries hperm

theorem environmentDiffers_eq_ok_false_iff {c : Comparison} {declared : Dict String}
    (h : c.spec.declaredEnvironment = .ok declared) : c.environmentDiffers = .ok false ↔
      ∀ e ∈ declared.entries, e.1 ≠ Spec.debugKey → c.liveEnvironment.get? e.1 = some e.2 := by
  have hdiffers : c.environmentDiffers = .ok ((declared.erase Spec.debugKey).entries.any
      fun e => c.liveEnvironment.get? e.1 != some e.2) := by
    rw [environmentDiffers, desiredEnvironment]
    show (c.spec.declaredEnvironment >>= _) >>= _ = _
    rw [h]
    rfl
  rw [hdiffers]
  simp [Dict.erase, Dict.filter]

/-- What a container reports of the environment it was given is no drift exactly if none of the declared names has an
equals sign and the name of the service was declared as it was given, if at all. -/
theorem environmentDiffers_of_reported {c : Comparison} {declared : Dict String} {name : String}
    (hdeclared : c.spec.declaredEnvironment = .ok declared) (hreported : (c.live.configTexts "Env").Perm
      ((declared.insert Create.serviceNameKey (Create.serviceName name)).entries.map fun e => e.1 ++ "=" ++ e.2)) :
    c.environmentDiffers = .ok false ↔ (∀ k ∈ declared.keys, '=' ∉ k.toList) ∧
      ∀ v, declared.get? Create.serviceNameKey = some v → v = Create.serviceName name := by
  have hlive : (∀ k ∈ declared.keys, '=' ∉ k.toList) →
      c.liveEnvironment = declared.insert Create.serviceNameKey (Create.serviceName name) := by
    intro hnames
    refine liveEnvironment_of_reported hreported fun k hk => ?_
    rcases Dict.mem_keys_insert.1 hk with rfl | hk
    · decide
    · exact hnames k hk
  rw [environmentDiffers_eq_ok_false_iff hdeclared]
  constructor
  · intro hall
    have hnames : ∀ k ∈ declared.keys, '=' ∉ k.toList := by
      intro k hk heq
      obtain ⟨e, he, rfl⟩ := List.mem_map.1 hk
      have hcounts : e.1 ≠ Spec.debugKey := fun hdebug => absurd (hdebug ▸ heq) (by decide)
      exact notMem_of_get?_liveEnvironment (hall e he hcounts) heq
    refine ⟨hnames, fun v hv => ?_⟩
    have hcounts : Create.serviceNameKey ≠ Spec.debugKey := by decide
    have hkept := hall (Create.serviceNameKey, v) (Dict.get?_eq_some_iff.1 hv) hcounts
    rw [hlive hnames, Dict.get?_insert_self] at hkept
    exact (Option.some.inj hkept).symm
  · rintro ⟨hnames, hservice⟩ e he -
    have hv : declared.get? e.1 = some e.2 := Dict.get?_eq_some_iff.2 he
    rw [hlive hnames, Dict.get?_insert]
    by_cases hs : e.1 = Create.serviceNameKey
    · rw [if_pos hs, hservice e.2 (hs ▸ hv)]
    · rw [if_neg hs, hv]

theorem environmentDiffers_ofRequest (h : Create.request s = .ok r) :
    (ofRequest s m r image).environmentDiffers = .ok false ↔ s.KeepsEnvironment := by
  have hr := Create.request_requested h
  obtain ⟨declared, hd, henv⟩ := Result.bind_eq_ok.1 hr.environment
  have hdeclared : s.declaredEnvironment = .ok declared := hd
  have hview : (ofRequest s m r image).live.configTexts "Env" = r.environment.entries.map fun e => e.1 ++ "=" ++ e.2 :=
    Memory.view_env
  rw [← Except.ok.inj henv] at hview
  -- the name that is not compared has no equals sign
  have hnames : (∀ k ∈ declared.keys, k ≠ Spec.debugKey → '=' ∉ k.toList) ↔
      ∀ k ∈ declared.keys, '=' ∉ k.toList := by
    refine ⟨fun hnames k hk heq => hnames k hk ?_ heq, fun hnames k hk _ => hnames k hk⟩
    rintro rfl
    exact absurd heq (by decide)
  rw [environmentDiffers_of_reported (c := ofRequest s m r image) hdeclared
    (.of_eq hview), Spec.keepsEnvironment_iff hdeclared, hnames]
  refine and_congr_right fun _ => ⟨fun hservice name v hname hv => ?_, fun hservice v hv => hservice _ v hr.name hv⟩
  rw [← Option.some.inj (hr.name.symm.trans hname)]
  exact hservice v hv

end Comparison

/-! ### Healthcheck -/

/-- The test of a declared healthcheck is not empty. -/
def Spec.KeepsHealthcheck (s : Spec) : Prop :=
  ∀ h, Healthcheck.ofDeclared s.healthcheck = .ok (some h) → h.test ≠ []

namespace Comparison

variable {s : Spec} {m : VolumeMatch} {r : ContainerRequest} {image : Option Image}

theorem healthcheckDiffers_ofRequest (h : Create.request s = .ok r) :
    (ofRequest s m r image).healthcheckDiffers = .ok false ↔ s.KeepsHealthcheck := by
  have hdeclared := (Create.request_requested h).healthcheck
  have hlive : (ofRequest s m r image).live.configValue? "Healthcheck" =
      r.healthcheck.map Healthcheck.toJson := Memory.view_configHealthcheck
  rw [healthcheckDiffers, liveHealthcheck, hlive]
  show ((Healthcheck.ofDeclared s.healthcheck) >>= _) = _ ↔ _
  rw [hdeclared, Spec.KeepsHealthcheck, hdeclared]
  cases hh : r.healthcheck with
  | none =>
    constructor
    · rintro - _ ⟨⟩
    · exact fun _ => rfl
  | some x =>
    have hx := Healthcheck.test_ne_disabled (hdeclared.trans (congrArg _ hh))
    show Except.ok (some x != Healthcheck.ofLive? (some x.toJson)) = _ ↔ _
    rw [Healthcheck.ofLive?_toJson]
    simp [hx]

end Comparison

/-! ### Restarts -/

/-- The declared restart policy is not empty, or somebody else takes care of restarts. -/
def Spec.KeepsRestartPolicy (s : Spec) : Prop :=
  (EngineDefaults.ofSpec s).restartDelegated = true ∨ s.restartPolicy ≠ some ""

namespace Comparison

variable {s : Spec} {m : VolumeMatch} {r : ContainerRequest} {image : Option Image}

theorem restartPolicyDiffers_ofRequest (h : Create.request s = .ok r) :
    (ofRequest s m r image).restartPolicyDiffers = false ↔ s.KeepsRestartPolicy := by
  have hdiffers := restartPolicyDiffers_of_echoes (c := ofRequest s m r image) h rfl (Memory.view_echoes h)
  rw [← Bool.not_eq_true, hdiffers, not_and_or, or_comm, Bool.not_eq_false]
  rfl

end Comparison

end Shipshape
