import Shipshape.Create.Request
import Shipshape.Proofs.Result

/-!
# What is requested

A request that could be made tells where each of its fields comes from.
-/

namespace Shipshape

theorem Spec.requireName_eq_ok {s : Spec} {a : Action} {name : String} :
    s.requireName a = .ok name ↔ s.name = some name := by
  rw [requireName]
  cases s.name with
  | none => simp
  | some n => simp

theorem Spec.requireImage_eq_ok {s : Spec} {a : Action} {image : String} :
    s.requireImage a = .ok image ↔ s.image = some image := by
  rw [requireImage]
  cases s.image with
  | none => simp
  | some i => simp

theorem Spec.name_of_validateFor {s : Spec} {a : Action} (h : s.validateFor a = .ok ())
    (ha : a.needsName = true) : ∃ name, s.name = some name := by
  cases hname : s.name with
  | some name => exact ⟨name, rfl⟩
  | none =>
    rw [Spec.validateFor, Spec.requireName, hname, ha] at h
    split at h
    · obtain ⟨_, -, ⟨⟩⟩ := Result.bind_eq_ok.1 h
    · cases h

theorem Spec.image_of_validateFor {s : Spec} {a : Action} (h : s.validateFor a = .ok ())
    (ha : a.needsImage = true) : ∃ image, s.image = some image := by
  cases himage : s.image with
  | some image => exact ⟨image, rfl⟩
  | none =>
    rw [Spec.validateFor, Spec.requireImage, himage, ha] at h
    cases h

theorem Spec.validateFor_eq_ok {s : Spec} {a : Action} (himage : a.needsImage = true → ∃ image, s.image = some image)
    (hname : a.needsName = true → ∃ name, s.name = some name) : s.validateFor a = .ok () := by
  have hchecked : (if a.needsName then discard (s.requireName a) else pure ()) = (.ok () : Except Error Unit) := by
    by_cases hn : a.needsName = true
    · obtain ⟨name, hname⟩ := hname hn
      rw [if_pos hn, Spec.requireName_eq_ok.2 hname]
      rfl
    · rw [if_neg hn]
      rfl
  unfold validateFor
  by_cases hi : a.needsImage = true
  · obtain ⟨image, himage⟩ := himage hi
    rw [if_pos hi, Spec.requireImage_eq_ok.2 himage]
    exact hchecked
  · rw [if_neg hi]
    exact hchecked


namespace Create

/-- Where the fields come from that all engines are asked for in the same way. -/
structure Requested (s : Spec) (r : ContainerRequest) : Prop where
  name : s.name = some r.name
  image : s.image = some r.image
  command : words? s.command = .ok r.command
  entrypoint : words? s.entrypoint = .ok r.entrypoint
  environment : environment s r.name = .ok r.environment
  healthcheck : Healthcheck.ofDeclared s.healthcheck = .ok r.healthcheck
  resources : resources s = .ok r.resources
  labels : r.labels = s.labels
  volumesFrom : r.volumesFrom = s.volumesFrom
  tmpfs : r.tmpfs = s.tmpfs.filter (· != "")
  securityOpt : r.securityOpt = s.securityOpt
  ipcMode : r.ipcMode = s.ipcMode.filter (· != "")
  pidMode : r.pidMode = s.desiredPidMode
  cgroupnsMode : r.cgroupnsMode = s.cgroupnsMode
  privileged : r.privileged = s.privileged
  user : r.user = s.user.filter (· != "")

/-- What Docker is asked for besides. -/
structure Docker.Requested (s : Spec) (r : ContainerRequest) : Prop where
  ulimits : ulimits s = .ok r.ulimits
  binds : ∃ volumes, s.volumes.mapM Volume.ofDeclared = .ok volumes ∧
    r.binds = volumes.reduceOption.map Volume.toBind
  mounts : r.mounts = []
  volumes : r.volumes = []
  capAdd : r.capAdd = s.capAdd
  restartPolicy : r.restartPolicy = restartPolicy? s

/-- What Podman is asked for besides. -/
structure Podman.Requested (s : Spec) (r : ContainerRequest) : Prop where
  ulimits : ∃ us, Create.ulimits s = .ok us ∧ r.ulimits = us.map kernelUlimit
  binds : r.binds = []
  storage : ∃ vs, storage s.volumes = .ok vs ∧
    r.mounts = vs.filterMap (fun
      | .mount m => some m
      | .named _ => none) ∧
    r.volumes = vs.filterMap (fun
      | .named v => some v
      | .mount _ => none)
  capAdd : r.capAdd = capabilities s
  restartPolicy : r.restartPolicy = if supervised s then none else restartPolicy? s

theorem base_requested {s : Spec} {r : ContainerRequest} (h : base s = .ok r) :
    Requested s r ∧ ulimits s = .ok r.ulimits ∧ r.mounts = [] ∧ r.volumes = [] ∧ r.binds = [] ∧
      r.capAdd = s.capAdd := by
  simp only [base, Result.bind_eq_ok] at h
  obtain ⟨name, h₁, image, h₂, us, h₃, command, h₄, entrypoint, h₅, env, h₆, hc, h₇, res, h₈, h⟩ := h
  injection h with h
  subst h
  refine ⟨?_, h₃, rfl, rfl, rfl, rfl⟩
  exact ⟨Spec.requireName_eq_ok.1 h₁, Spec.requireImage_eq_ok.1 h₂, h₄, h₅, h₆, h₇, h₈,
    rfl, rfl, rfl, rfl, rfl, rfl, rfl, rfl, rfl⟩

theorem Docker.request_requested {s : Spec} {r : ContainerRequest} (h : Docker.request s = .ok r) :
    Create.Requested s r ∧ Docker.Requested s r := by
  simp only [Docker.request, Result.bind_eq_ok] at h
  obtain ⟨r₀, h₀, volumes, hv, h⟩ := h
  injection h with h
  subst h
  obtain ⟨hr, hu, hm, hn, -, hc⟩ := base_requested h₀
  exact ⟨{ hr with }, hu, ⟨volumes, hv, rfl⟩, hm, hn, hc, rfl⟩

theorem Podman.request_requested {s : Spec} {r : ContainerRequest} (h : Podman.request s = .ok r) :
    Create.Requested s r ∧ Podman.Requested s r := by
  simp only [Podman.request, Result.bind_eq_ok] at h
  obtain ⟨r₀, h₀, vs, hvs, h⟩ := h
  injection h with h
  subst h
  obtain ⟨hr, hu, -, -, hb, -⟩ := base_requested h₀
  exact ⟨{ hr with }, ⟨r₀.ulimits, hu, rfl⟩, hb, ⟨vs, hvs, rfl, rfl⟩, rfl, rfl⟩

theorem request_docker {s : Spec} {r : ContainerRequest} (he : s.engine = .docker)
    (h : request s = .ok r) : Docker.Requested s r := by
  rw [request, he] at h
  exact (Docker.request_requested h).2

theorem request_podman {s : Spec} {r : ContainerRequest} (he : s.engine = .podman)
    (h : request s = .ok r) : Podman.Requested s r := by
  rw [request, he] at h
  exact (Podman.request_requested h).2

theorem request_requested {s : Spec} {r : ContainerRequest} (h : request s = .ok r) : Requested s r := by
  unfold request at h
  split at h
  · exact (Docker.request_requested h).1
  · exact (Podman.request_requested h).1

theorem Podman.isConfiguration_of_storage {declared : List VolumeDeclaration} {e : Error}
    (h : Podman.storage declared = .error e) : e.isConfiguration = true := by
  rcases Result.bind_eq_error.1 h with h | ⟨_, -, ⟨⟩⟩
  obtain ⟨v, -, hv⟩ := Result.mapM_eq_error h
  cases v with
  | mount m => cases hv
  | bind entry =>
    rw [Podman.ofDeclared, Podman.ofBind] at hv
    split at hv
    · cases hv
    · split at hv
      · cases hv
        rfl
      · dsimp only at hv
        split at hv
        · cases hv
          rfl
        · cases hv

end Create

end Shipshape
