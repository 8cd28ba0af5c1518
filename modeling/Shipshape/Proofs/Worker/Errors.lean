import Shipshape.Proofs.Create.Request
import Shipshape.Proofs.Engine.Run
import Shipshape.Proofs.Refusal
import Shipshape.Worker.Container
import Shipshape.Worker.Image

/-!
# Errors of the worker

The procedures that do one thing to a container, an image or a volume raise no configuration error, once
the parameters that they need are given. Only building the request and its storage does.

None of them, these included, reports on a container that did not come up (`Unreported`); that is for whoever starts
it.
-/

namespace Shipshape

open Procedure

def Error.report? : Error → Option FailureReport
  | .waitFailed f => some f
  | _ => none

namespace Worker

variable {s : Spec} {name : String}

/-- The errors that are no fault of the declared container, and no report on a container that did not come up. -/
abbrev Foreign (e : Error) : Prop := e.isConfiguration = false ∧ e.report? = none

theorem raises_inspect : (inspect name).Raises Foreign := raises_engineIfFound fun _ => ⟨rfl, rfl⟩

theorem raises_checkImage : (checkImage s).Raises Foreign := by
  unfold checkImage
  split
  · exact raises_pure none
  · exact raises_engineIfFound fun _ => ⟨rfl, rfl⟩

theorem raises_createVolume : (createVolume name).Raises Foreign := by
  refine raises_bind (raises_engineIfFound fun _ => ⟨rfl, rfl⟩) fun found => ?_
  split
  · exact raises_pure none
  · exact raises_bind (raises_engineOrFail fun _ => ⟨rfl, rfl⟩) fun _ => raises_pure _

theorem raises_removeVolume : (removeVolume name).Raises Foreign := by
  refine raises_bind (raises_engineIfFound fun _ => ⟨rfl, rfl⟩) fun found => ?_
  split
  · exact raises_pure false
  · refine raises_bind (raises_engine _) fun answer => ?_
    split
    · exact raises_pure true
    · refine raises_throw ?_
      split
      · exact ⟨rfl, rfl⟩
      · exact ⟨rfl, rfl⟩

theorem raises_pullImage {image : String} (himage : s.image = some image) :
    (pullImage s).Raises Foreign := by
  rw [pullImage, Spec.requireImage, himage]
  refine raises_bind (raises_ofExcept fun e h => by cases h) fun reference => ?_
  refine raises_bind raises_checkImage fun previous => raises_bind (raises_engine _) fun answer => ?_
  split
  · exact raises_pure _
  · exact raises_throw ⟨rfl, rfl⟩
  · refine raises_throw ?_
    split
    · exact ⟨rfl, rfl⟩
    · exact ⟨rfl, rfl⟩

theorem raises_ensureImage : (ensureImage s).Raises Foreign := by
  unfold ensureImage
  cases himage : s.image with
  | none => exact raises_pure false
  | some image =>
    refine raises_bind raises_checkImage fun found => ?_
    split
    · exact raises_pure false
    · exact raises_pullImage himage

theorem raises_removeImage {image : String} (himage : s.image = some image) :
    (removeImage s).Raises Foreign := by
  rw [removeImage, Spec.requireImage, himage]
  refine raises_bind (raises_ofExcept fun e h => by cases h) fun reference => ?_
  refine raises_bind raises_checkImage fun found => ?_
  split
  · exact raises_pure false
  · refine raises_bind (raises_engine _) fun answer => ?_
    split
    · exact raises_pure true
    · refine raises_throw ?_
      split
      · exact ⟨rfl, rfl⟩
      · exact ⟨rfl, rfl⟩

theorem raises_requireName (a : Action) (hname : s.name = some name) :
    (ofExcept (s.requireName a)).Raises Foreign := by
  refine raises_ofExcept fun e h => ?_
  rw [Spec.requireName_eq_ok.2 hname] at h
  cases h

theorem raises_start : (start name).Raises Foreign := by
  refine raises_bind (raises_engine _) fun answer => ?_
  split
  · exact raises_pure _
  · exact raises_pure _

theorem yields_start : (start name).Yields fun r => ∀ e, r = .error e → Foreign e := by
  intro h
  rw [start, ensures_bind, ensures_engine]
  rintro (f | ⟨⟩)
  · rw [ensures_pure]
    rintro e ⟨⟩
    exact ⟨rfl, rfl⟩
  · rw [ensures_pure]
    rintro e ⟨⟩

theorem raises_stopContainer (hname : s.name = some name) : (stopContainer s).Raises Foreign := by
  refine raises_bind (raises_requireName _ hname) fun name => raises_bind raises_inspect fun info => ?_
  split
  · split
    · exact raises_pure false
    · exact raises_throw ⟨rfl, rfl⟩
  · split
    · exact raises_pure false
    · refine raises_bind ?_ fun _ => raises_pure true
      unfold stopRunning
      split
      · refine raises_bind (raises_discard (raises_unit _ _)) fun _ =>
          raises_bind (raises_unit _ _) fun stopped => ?_
        split
        · exact raises_throw ⟨rfl, rfl⟩
        · exact raises_pure ()
      · exact raises_engineOrFail fun _ => ⟨rfl, rfl⟩

theorem raises_removeContainer (hname : s.name = some name) :
    (removeContainer s).Raises Foreign := by
  refine raises_bind (raises_requireName _ hname) fun name => ?_
  refine raises_bind (raises_unit _ _) fun removed => raises_bind raises_inspect fun info => ?_
  split
  · exact raises_pure _
  · refine raises_bind (raises_engine _) fun answer => ?_
    split
    · refine raises_bind raises_inspect fun info => ?_
      split
      · exact raises_bind (raises_throw ⟨rfl, rfl⟩) fun _ => raises_pure true
      · exact raises_pure true
    · exact raises_pure true

theorem raises_restartContainer {report : StartReport} (hname : s.name = some name) :
    (restartContainer s report).Raises Foreign := by
  refine raises_bind (raises_requireName _ hname) fun name => ?_
  split
  · refine raises_bind (raises_discard (raises_unit _ _)) fun _ =>
      raises_bind (raises_unit _ _) fun restarted => ?_
    split
    · exact raises_pure _
    · refine raises_bind raises_inspect fun info => ?_
      dsimp only
      split
      · refine raises_bind_of raises_start yields_start fun answer hforeign => ?_
        split
        · exact raises_bind (raises_throw (hforeign _ rfl)) fun _ => raises_pure _
        · exact raises_pure _
      · exact raises_pure _
  · refine raises_bind raises_inspect fun info => ?_
    refine raises_when (raises_throw ⟨rfl, rfl⟩) fun _ => raises_bind (raises_engine _) fun answer => ?_
    split
    · exact raises_pure _
    · exact raises_throw ⟨rfl, rfl⟩

/-! ### Reports -/

/-- The errors that do not report on a container that did not come up. -/
abbrev Unreported (e : Error) : Prop := e.report? = none

theorem unreported_of_configuration {e : Error} (h : e.isConfiguration = true) : Unreported e := by
  cases e with
  | waitFailed f => cases h
  | _ => rfl

theorem unreported_ofExcept {α : Type} {x : Except Error α} (hx : OnlyRefuses x) :
    (ofExcept x).Raises Unreported :=
  raises_ofExcept fun e h => unreported_of_configuration (hx e h)

theorem unreported_of_foreign {α : Type} {p : Procedure α} (hp : p.Raises Foreign) : p.Raises Unreported :=
  hp.mono fun _ he => he.2

theorem unreported_configChanged : (configChanged s).Raises Unreported := by
  refine raises_bind (unreported_ofExcept (onlyRefuses_requireName _)) fun name => ?_
  refine raises_bind (unreported_of_foreign raises_inspect) fun info => ?_
  split
  · exact raises_pure true
  · split
    · exact raises_pure true
    · refine raises_bind (raises_engine _) fun answer => ?_
      split
      · split
        · exact raises_pure true
        · exact raises_throw rfl
      · split
        · exact raises_pure false
        · split
          · exact raises_pure true
          · exact raises_throw rfl

theorem unreported_provisionAll (vs : List Create.Podman.Storage) : (provisionAll vs).Raises Unreported := by
  have hprovision : ∀ v, (provision v).Raises Unreported := by
    intro v
    unfold provision
    split
    · exact raises_bind (unreported_of_foreign raises_createVolume) fun _ => raises_pure _
    · split
      · refine raises_bind (raises_ask _) fun made => ?_
        split
        · exact raises_pure _
        · exact raises_throw rfl
      · exact raises_pure false
  induction vs with
  | nil => exact raises_pure false
  | cons v vs ih => exact raises_bind (hprovision v) fun _ => raises_bind ih fun _ => raises_pure _

theorem unreported_createContainer : (createContainer s).Raises Unreported := by
  have hstorage : (provisionVolumes s).Raises Unreported := by
    unfold provisionVolumes
    split
    · exact raises_pure false
    · exact raises_bind (unreported_ofExcept (onlyRefuses_storage _)) unreported_provisionAll
  refine raises_bind (raises_discard hstorage) fun _ => ?_
  refine raises_bind (unreported_ofExcept onlyRefuses_request) fun request => ?_
  refine raises_bind (raises_engineOrFail fun _ => rfl) fun _ => ?_
  split
  · refine raises_bind (unreported_ofExcept (onlyRefuses_requireName _)) fun name => ?_
    exact raises_bind (raises_discard (raises_unit _ _)) fun _ => raises_pure true
  · exact raises_pure true

end Worker

end Shipshape
