import Shipshape.Drift.Comparator
import Shipshape.Proofs.Create.Request
import Shipshape.Proofs.Healthcheck
import Shipshape.Proofs.Result

/-!
# What is refused

Computations that ask nothing of the outside world fail for one reason only: the declared container makes no sense,
or the live one cannot be read (`Error.isConfiguration`). This is so of the checks before a comparison
(`onlyRefuses_validate`), of the comparison itself (`onlyRefuses_compare`) and of the request for a container
(`onlyRefuses_request`).

Proof outline. A sequence fails where one of its parts does (`OnlyRefuses.bind`), so each function is settled by the
errors that it raises itself.
-/

namespace Shipshape

/-- Where the computation fails, the configuration is at fault. -/
def OnlyRefuses {α : Type} (x : Except Error α) : Prop := ∀ e, x = .error e → e.isConfiguration = true

section rules

variable {α β : Type} {x : Except Error α} {f : α → Except Error β}

theorem onlyRefuses_ok (a : α) : OnlyRefuses (.ok a) := nofun

theorem onlyRefuses_error {e : Error} (he : e.isConfiguration = true) :
    OnlyRefuses (.error e : Except Error α) := by
  rintro _ ⟨⟩
  exact he

theorem OnlyRefuses.bind (hx : OnlyRefuses x) (hf : ∀ a, OnlyRefuses (f a)) : OnlyRefuses (x >>= f) := by
  intro e h
  rcases Result.bind_eq_error.1 h with h | ⟨a, -, h⟩
  · exact hx e h
  · exact hf a e h

theorem OnlyRefuses.discard (hx : OnlyRefuses x) : OnlyRefuses (discard x) := by
  rcases x with e | a
  · exact onlyRefuses_error (hx e rfl)
  · exact onlyRefuses_ok ()

theorem onlyRefuses_mapM (hf : ∀ a, OnlyRefuses (f a)) (l : List α) : OnlyRefuses (l.mapM f) := by
  intro e h
  obtain ⟨a, -, ha⟩ := Result.mapM_eq_error h
  exact hf a e ha

theorem onlyRefuses_mapM_option (hf : ∀ a, OnlyRefuses (f a)) (o : Option α) : OnlyRefuses (o.mapM f) := by
  cases o with
  | none => exact onlyRefuses_ok none
  | some a => exact (hf a).bind fun b => onlyRefuses_ok (some b)

theorem onlyRefuses_unless {b : Prop} [Decidable b] {e : Error} {g : Unit → Except Error α}
    (he : e.isConfiguration = true) (hg : ∀ u, OnlyRefuses (g u)) :
    OnlyRefuses (if b then throw e >>= g else g ()) := by
  split
  · have hthrow : OnlyRefuses (throw e : Except Error Unit) := onlyRefuses_error he
    exact hthrow.bind hg
  · exact hg ()

end rules

/-! ### Command lines and environments -/

theorem onlyRefuses_split (line : String) : OnlyRefuses (CommandLine.split line) := by
  unfold CommandLine.split
  split
  · exact onlyRefuses_ok _
  · exact onlyRefuses_error rfl

theorem onlyRefuses_environment (declared : EnvironmentDeclaration) :
    OnlyRefuses (Environment.ofDeclared declared) := by
  cases declared with
  | object values => exact onlyRefuses_ok _
  | entries items =>
    refine (onlyRefuses_mapM (fun entry => ?_) items).bind fun _ => onlyRefuses_ok _
    unfold Environment.readEntry
    split
    · exact onlyRefuses_ok _
    · exact onlyRefuses_error rfl

/-! ### Healthchecks -/

theorem onlyRefuses_declaredNumber (key : String) (v : Json) : OnlyRefuses (Healthcheck.declaredNumber key v) := by
  intro e h
  rw [Healthcheck.declaredNumber_eq_error h]
  rfl

theorem onlyRefuses_declaredDuration (key : String) (v : Json) :
    OnlyRefuses (Healthcheck.declaredDuration key v) := by
  intro e h
  rw [Healthcheck.declaredDuration_eq_error h]
  rfl

theorem onlyRefuses_healthcheck (declared : Option (Dict Json)) : OnlyRefuses (Healthcheck.ofDeclared declared) := by
  unfold Healthcheck.ofDeclared
  dsimp only
  split
  · exact onlyRefuses_ok none
  refine onlyRefuses_unless rfl fun _ => onlyRefuses_unless rfl fun _ => ?_
  split
  · exact onlyRefuses_ok none
  · refine (onlyRefuses_declaredDuration _ _).bind fun interval => ?_
    refine (onlyRefuses_declaredDuration _ _).bind fun timeout => ?_
    refine (onlyRefuses_declaredDuration _ _).bind fun startPeriod => ?_
    exact (onlyRefuses_declaredNumber _ _).bind fun retries => onlyRefuses_ok _

/-! ### Resource limits -/

theorem onlyRefuses_dimensions (dimensions : Dict Json) : OnlyRefuses (Dimension.validate dimensions) := by
  unfold Dimension.validate
  dsimp only
  split
  · exact onlyRefuses_error rfl
  · split
    · exact onlyRefuses_error rfl
    · exact onlyRefuses_ok ()

theorem onlyRefuses_bytesOf (key : String) (raw number : List Char) (unit : Char) :
    OnlyRefuses (Dimension.bytesOf key raw number unit) := by
  unfold Dimension.bytesOf
  split
  · exact onlyRefuses_error rfl
  · split
    · exact onlyRefuses_error rfl
    · split
      · exact onlyRefuses_ok _
      · exact onlyRefuses_error rfl

theorem onlyRefuses_canonicalText (key : String) (v : Json) : OnlyRefuses (Dimension.canonicalText key v) := by
  unfold Dimension.canonicalText
  split
  · exact onlyRefuses_error rfl
  · exact onlyRefuses_ok _
  · exact onlyRefuses_ok _
  · dsimp only
    split
    · exact onlyRefuses_ok _
    · split
      · exact onlyRefuses_ok _
      · exact onlyRefuses_bytesOf _ _ _ _
  · exact onlyRefuses_error rfl

theorem onlyRefuses_differ (key : String) (desired live : Json) :
    OnlyRefuses (Dimension.differ key desired live) := by
  unfold Dimension.differ
  refine onlyRefuses_unless rfl fun _ => ?_
  refine (onlyRefuses_canonicalText key desired).bind fun _ => ?_
  exact (onlyRefuses_canonicalText key live).bind fun _ => onlyRefuses_ok _

theorem onlyRefuses_declaredValue (key : String) (v : Json) : OnlyRefuses (Ulimits.declaredValue key v) := by
  unfold Ulimits.declaredValue
  dsimp only
  split
  · split
    · exact onlyRefuses_ok _
    · exact onlyRefuses_error rfl
  · split
    · exact onlyRefuses_ok _
    · split
      · exact onlyRefuses_ok _
      · exact onlyRefuses_error rfl
  · exact onlyRefuses_error rfl

theorem onlyRefuses_declaredPair (key : String) (limit : Json) : OnlyRefuses (Ulimits.declaredPair key limit) := by
  refine (onlyRefuses_mapM_option (onlyRefuses_declaredValue key) _).bind fun soft => ?_
  refine (onlyRefuses_mapM_option (onlyRefuses_declaredValue key) _).bind fun hard => ?_
  split
  · exact onlyRefuses_ok _
  · exact onlyRefuses_ok _
  · exact onlyRefuses_ok _
  · exact onlyRefuses_error rfl

theorem onlyRefuses_ulimits (v : Json) : OnlyRefuses (Ulimits.ofDeclared v) := by
  unfold Ulimits.ofDeclared
  split
  · exact onlyRefuses_ok _
  · refine (onlyRefuses_mapM (fun e => ?_) _).bind fun _ => onlyRefuses_ok _
    exact (onlyRefuses_declaredPair _ _).bind fun _ => onlyRefuses_ok _
  · exact onlyRefuses_error rfl

theorem onlyRefuses_liveUlimits (v : Option Json) : OnlyRefuses (Ulimits.ofLive v) := by
  unfold Ulimits.ofLive
  split
  · exact onlyRefuses_ok _
  · exact onlyRefuses_ok _
  · split
    · exact onlyRefuses_ok _
    · exact onlyRefuses_error rfl

/-! ### Volumes -/

theorem onlyRefuses_bind (entry : String) : OnlyRefuses (Volume.ofBind entry) := by
  unfold Volume.ofBind
  dsimp only
  split
  · exact onlyRefuses_ok none
  · split
    · exact onlyRefuses_error rfl
    · split
      · exact onlyRefuses_error rfl
      · exact onlyRefuses_ok _

theorem onlyRefuses_volume (declared : VolumeDeclaration) : OnlyRefuses (Volume.ofDeclared declared) := by
  cases declared with
  | bind entry => exact onlyRefuses_bind entry
  | mount record => exact onlyRefuses_ok _

theorem onlyRefuses_volumes (declared : List VolumeDeclaration) : OnlyRefuses (Volume.setOfDeclared declared) :=
  (onlyRefuses_mapM onlyRefuses_volume declared).bind fun _ => onlyRefuses_ok _

theorem onlyRefuses_liveVolume (v : Json) : OnlyRefuses (Volume.ofLive v) := by
  unfold Volume.ofLive
  split
  · exact onlyRefuses_bind _
  · exact onlyRefuses_ok none
  · split
    · exact onlyRefuses_ok _
    · exact onlyRefuses_error rfl
  · exact onlyRefuses_error rfl

theorem onlyRefuses_storage (declared : List VolumeDeclaration) : OnlyRefuses (Create.Podman.storage declared) :=
  fun _ => Create.Podman.isConfiguration_of_storage

/-! ### Parameters and requests -/

variable {s : Spec}

theorem onlyRefuses_requireName (a : Action) : OnlyRefuses (s.requireName a) := by
  unfold Spec.requireName
  split
  · exact onlyRefuses_ok _
  · exact onlyRefuses_error rfl

theorem onlyRefuses_requireImage (a : Action) : OnlyRefuses (s.requireImage a) := by
  unfold Spec.requireImage
  split
  · exact onlyRefuses_ok _
  · exact onlyRefuses_error rfl

theorem onlyRefuses_validateFor (a : Action) : OnlyRefuses (s.validateFor a) := by
  have hname : OnlyRefuses (if a.needsName then discard (s.requireName a) else pure ()) := by
    split
    · exact (onlyRefuses_requireName a).discard
    · exact onlyRefuses_ok ()
  unfold Spec.validateFor
  dsimp only
  split
  · exact (onlyRefuses_requireImage a).discard.bind fun _ => hname
  · exact hname

theorem onlyRefuses_declaredEnvironment : OnlyRefuses ((s.environment.map Environment.ofDeclared).getD (.ok ∅)) := by
  cases s.environment with
  | none => exact onlyRefuses_ok _
  | some declared => exact onlyRefuses_environment declared

/-- A specification is refused for what it declares. -/
theorem onlyRefuses_validate : OnlyRefuses s.validate := by
  have hvolumes : OnlyRefuses (discard (Volume.setOfDeclared s.volumes) : Except Error Unit) :=
    (onlyRefuses_volumes s.volumes).discard
  refine (onlyRefuses_dimensions s.dimensions).bind fun _ => ?_
  refine (onlyRefuses_healthcheck s.healthcheck).discard.bind fun _ => ?_
  dsimp only
  split
  · exact (onlyRefuses_environment _).discard.bind fun _ => hvolumes
  · exact hvolumes

theorem onlyRefuses_resources : OnlyRefuses (Create.resources s) := by
  refine (onlyRefuses_mapM (fun e => ?_) _).bind fun _ => onlyRefuses_ok _
  unfold Create.resource?
  split
  · exact onlyRefuses_ok none
  · exact (onlyRefuses_canonicalText _ _).bind fun _ => onlyRefuses_ok _

theorem onlyRefuses_createUlimits : OnlyRefuses (Create.ulimits s) := by
  unfold Create.ulimits
  split
  · exact onlyRefuses_ok []
  · exact (onlyRefuses_ulimits _).bind fun _ => onlyRefuses_ok _

theorem onlyRefuses_base : OnlyRefuses (Create.base s) := by
  refine (onlyRefuses_requireName _).bind fun name => (onlyRefuses_requireImage _).bind fun image => ?_
  refine onlyRefuses_createUlimits.bind fun ulimits => ?_
  refine (onlyRefuses_mapM_option onlyRefuses_split _).bind fun command => ?_
  refine (onlyRefuses_mapM_option onlyRefuses_split _).bind fun entrypoint => ?_
  refine (onlyRefuses_declaredEnvironment.bind fun _ => onlyRefuses_ok _).bind fun environment => ?_
  refine (onlyRefuses_healthcheck _).bind fun healthcheck => ?_
  exact onlyRefuses_resources.bind fun resources => onlyRefuses_ok _

/-- No request is made for a container that makes no sense. -/
theorem onlyRefuses_request : OnlyRefuses (Create.request s) := by
  unfold Create.request
  split
  · refine onlyRefuses_base.bind fun r => ?_
    exact (onlyRefuses_mapM onlyRefuses_volume s.volumes).bind fun _ => onlyRefuses_ok _
  · exact onlyRefuses_base.bind fun r => (onlyRefuses_storage s.volumes).bind fun _ => onlyRefuses_ok _

/-! ### Comparisons -/

namespace Comparison

variable {c : Comparison}

theorem onlyRefuses_volumesDiffer : OnlyRefuses c.volumesDiffer := by
  refine (onlyRefuses_volumes _).bind fun desired => ?_
  refine ((onlyRefuses_mapM onlyRefuses_liveVolume _).bind fun _ => onlyRefuses_ok _).bind fun live => ?_
  exact onlyRefuses_ok _

theorem onlyRefuses_environmentDiffers : OnlyRefuses c.environmentDiffers :=
  (onlyRefuses_declaredEnvironment.bind fun _ => onlyRefuses_ok _).bind fun _ => onlyRefuses_ok _

theorem onlyRefuses_dimensionDiffers (key field : String) : OnlyRefuses (c.dimensionDiffers key field) := by
  unfold dimensionDiffers
  split
  · split
    · refine (onlyRefuses_ulimits _).bind fun desired => ?_
      exact (onlyRefuses_liveUlimits _).bind fun live => onlyRefuses_ok _
    · exact onlyRefuses_differ _ _ _
  · exact onlyRefuses_ok _

theorem onlyRefuses_anyDimensionDiffers (fields : List (String × String)) :
    OnlyRefuses (c.anyDimensionDiffers fields) := by
  induction fields with
  | nil => exact onlyRefuses_ok false
  | cons field rest ih =>
    refine (onlyRefuses_dimensionDiffers field.1 field.2).bind fun differs => ?_
    split
    · exact onlyRefuses_ok true
    · exact ih

theorem onlyRefuses_differs (a : Attribute) : OnlyRefuses (c.differs a) := by
  cases a with
  | volumes => exact onlyRefuses_volumesDiffer
  | environment => exact onlyRefuses_environmentDiffers
  | dimensions =>
    show OnlyRefuses c.dimensionsDiffer
    unfold dimensionsDiffer
    split
    · exact onlyRefuses_ok false
    · exact onlyRefuses_anyDimensionDiffers _
  | command =>
    show OnlyRefuses c.commandDiffers
    unfold commandDiffers
    split
    · exact onlyRefuses_ok false
    · exact (onlyRefuses_split _).bind fun _ => onlyRefuses_ok _
  | healthcheck => exact (onlyRefuses_healthcheck _).bind fun _ => onlyRefuses_ok _
  | _ => exact onlyRefuses_ok _

end Comparison

/-- A comparison fails where the specification makes no sense or the live container cannot be read. -/
theorem Comparator.onlyRefuses_compare (c : Comparator) (live : Inspection) (image : Option Image) :
    OnlyRefuses (c.compare s live image) := by
  have hlook : ∀ d a, OnlyRefuses (lookAt (c.beside s live image) d a) := by
    intro d a
    refine (Comparison.onlyRefuses_differs a).bind fun differs => ?_
    split
    · exact onlyRefuses_ok _
    · exact onlyRefuses_ok _
  refine onlyRefuses_validate.bind fun _ => ?_
  generalize (({}, []) : Drift × List Note) = d
  induction Attribute.all generalizing d with
  | nil => exact onlyRefuses_ok d
  | cons a rest ih => exact (hlook d a).bind ih

end Shipshape
