import Shipshape.Proofs.Drift.Rule.Capabilities
import Shipshape.Proofs.Drift.Rule.Echo
import Shipshape.Proofs.Memory.Document

/-!
# Privileges of a new container

A container that was just made for a specification (`Comparison.ofRequest`) has the privileges that were
asked for: the engine in memory reports modes, user and restart policy as they were requested
(`Memory.view_echoes`). The only mode that does not read back is an empty one of the namespace for control groups.
-/

namespace Shipshape

/-- A specification beside the container that was made for it. -/
def Comparison.ofRequest (s : Spec) (m : VolumeMatch) (r : ContainerRequest) (image : Option Image) :
    Comparison :=
  (Comparator.ofSpec s m).beside s (Memory.view r image) image

theorem Comparison.ofRequest_spec (s : Spec) (m : VolumeMatch) (r : ContainerRequest) (image : Option Image) :
    (ofRequest s m r image).spec = s := rfl

/-! ### What is reported as it was requested -/

theorem Json.says_ofString? (asked : Option String) : Says (some (.ofString? asked)) asked := by
  cases asked with
  | none => exact .inr (.inl rfl)
  | some text => rfl

/-- The in-memory engine reports modes, privileges, the user and the restart policy as they were requested. -/
theorem Memory.view_echoes {s : Spec} {r : ContainerRequest} {image : Option Image} (h : Create.request s = .ok r) :
    (view r image).Echoes r := by
  have hhost : ∀ k ∉ Create.limitFields.map Prod.snd,
      (view r image).hostConfig.get? k = (commonFields r).reverse.lookup k := by
    intro k hk
    rw [view_hostConfig, get?_hostSection_of_common (Create.request_requested h).resources hk]
  have hmerged : (view r image).mergedHostConfig = (view r image).hostConfig :=
    view_mergedHostConfig.trans view_hostConfig.symm
  refine ⟨?_, ?_, fun hnone k hk => ?_, ?_, ?_, ?_, (r.restartPolicy.getD ⟨"", 0⟩).toJson, ?_, ?_, ?_⟩
  · rw [hhost _ (by decide)]
    exact Json.says_ofString? r.ipcMode
  · rw [hmerged, hhost _ (by decide)]
    exact Json.says_ofString? r.pidMode
  · have hfields : ∀ k ∈ Comparison.pidModeFields, k ∉ Create.limitFields.map Prod.snd := by decide
    rw [hmerged, hhost k (hfields k hk)]
    simp only [Comparison.pidModeFields, List.mem_cons, List.not_mem_nil, or_false] at hk
    rcases hk with rfl | rfl | rfl | rfl | rfl | rfl
    · have hmode : (commonFields r).reverse.lookup "PidMode" = some (.ofString? r.pidMode) := rfl
      rw [hmode, hnone]
      rfl
    all_goals rfl
  · rw [hhost _ (by decide)]
    exact Json.says_ofString? r.cgroupnsMode
  · rw [hhost _ (by decide)]
    rfl
  · rw [view_configUser]
    cases r.user with
    | none => exact .inr (.inr rfl)
    | some user => rfl
  · rw [hhost _ (by decide)]
    rfl
  · rw [RestartPolicy.toJson, Json.get?_ofFields]
    cases r.restartPolicy with
    | none => rfl
    | some policy => rfl
  · intro asked hasked
    rw [hasked, RestartPolicy.toJson, Json.get?_ofFields]
    rfl

namespace Comparison

variable {s : Spec} {m : VolumeMatch} {r : ContainerRequest} {image : Option Image}

section

variable (h : Create.request s = .ok r)

include h

theorem capAddDiffers_ofRequest : (ofRequest s m r image).capAddDiffers = false := by
  have hlive : (ofRequest s m r image).liveCapabilities = r.capAdd :=
    Memory.view_hostTexts (Create.request_requested h).resources (by decide) rfl
  cases hengine : s.engine with
  | docker =>
    refine capAddDiffers_eq_false_iff.2 ?_
    rw [hlive, (Create.request_docker hengine h).capAdd, ofRequest_spec]
    exact ⟨subset_rfl, fun n hn => absurd hn.1 hn.2⟩
  | podman =>
    have hdefaults : (ofRequest s m r image).defaults = .podman s.restartViaSupervisor := by
      show EngineDefaults.ofSpec s = _
      rw [EngineDefaults.ofSpec, hengine]
    refine capAddDiffers_of_podman hdefaults ?_
    rw [hlive, (Create.request_podman hengine h).capAdd, ofRequest_spec]

theorem securityOptDiffers_ofRequest : (ofRequest s m r image).securityOptDiffers = false := by
  have hr := Create.request_requested h
  have hlive : (ofRequest s m r image).live.hostTexts "SecurityOpt" = s.securityOpt := by
    rw [← hr.securityOpt]
    exact Memory.view_hostTexts hr.resources (by decide) rfl
  rw [securityOptDiffers_eq_false_iff, hlive, ofRequest_spec]
  by_cases hnone : s.securityOpt = []
  · rw [if_pos hnone, hnone]
    exact .inr (List.nil_subset _)
  · rw [if_neg hnone]
    exact .inr (.refl _)

theorem cgroupnsModeDiffers_ofRequest :
    (ofRequest s m r image).cgroupnsModeDiffers = false ↔ s.cgroupnsMode ≠ some "" := by
  have hdiffers := cgroupnsModeDiffers_of_echoes (c := ofRequest s m r image) (Create.request_requested h)
    (Memory.view_echoes h)
  rw [← Bool.not_eq_true, hdiffers]
  rfl

end

end Comparison

end Shipshape
