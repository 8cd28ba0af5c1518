import Shipshape.Proofs.Drift.Rule.Image
import Shipshape.Proofs.Drift.Rule.Limits
import Shipshape.Proofs.Drift.Rule.Runtime
import Shipshape.Proofs.Drift.Rule.Storage
import Shipshape.Proofs.Drift.Rule.Volume

/-!
# Drift of a new container

A container that was just made differs from its specification in nothing but its state, exactly if there is a
local image and everything that was asked for reads back (`Spec.ReadsBack`).
-/

namespace Shipshape

/-- What was asked for is what a look at the new container shows. -/
structure Spec.ReadsBack (s : Spec) (m : VolumeMatch) (image : Image) : Prop where
  labels : s.KeepsLabels image
  cgroupnsMode : s.cgroupnsMode ≠ some ""
  tmpfs : s.KeepsTmpfs
  volumes : s.KeepsVolumes m
  environment : s.KeepsEnvironment
  limits : s.KeepsLimits
  ulimits : s.KeepsUlimits
  command : s.KeepsCommand
  healthcheck : s.KeepsHealthcheck
  restartPolicy : s.KeepsRestartPolicy

namespace Comparison

variable {s : Spec} {m : VolumeMatch} {r : ContainerRequest} {image : Option Image}

theorem differs_ofRequest (h : Create.request s = .ok r) :
    (∀ a, a ≠ .state → (ofRequest s m r image).differs a = .ok false) ↔
      ∃ i, image = some i ∧ s.ReadsBack m i := by
  constructor
  · intro hsame
    obtain ⟨i, rfl⟩ := (imageDiffers_ofRequest h).1 (Except.ok.inj (hsame .image (by decide)))
    refine ⟨i, rfl, ?_⟩
    have hdimensions := (dimensionsDiffer_ofRequest h).1 (hsame .dimensions (by decide))
    exact {
      labels := (labelsDiffer_ofRequest h).1 (Except.ok.inj (hsame .labels (by decide)))
      cgroupnsMode := (cgroupnsModeDiffers_ofRequest h).1 (Except.ok.inj (hsame .cgroupnsMode (by decide)))
      tmpfs := (tmpfsDiffers_ofRequest h).1 (Except.ok.inj (hsame .tmpfs (by decide)))
      volumes := (volumesDiffer_ofRequest h).1 (hsame .volumes (by decide))
      environment := (environmentDiffers_ofRequest h).1 (hsame .environment (by decide))
      limits := hdimensions.1
      ulimits := hdimensions.2
      command := (commandDiffers_ofRequest h).1 (hsame .command (by decide))
      healthcheck := (healthcheckDiffers_ofRequest h).1 (hsame .healthcheck (by decide))
      restartPolicy := (restartPolicyDiffers_ofRequest h).1
        (Except.ok.inj (hsame .restartPolicy (by decide))) }
  · rintro ⟨i, rfl, hback⟩ a ha
    have hr := Create.request_requested h
    have hlive : (ofRequest s m r (some i)).live.Echoes r := Memory.view_echoes h
    cases a with
    | state => exact absurd rfl ha
    | capAdd => exact congrArg Except.ok (capAddDiffers_ofRequest h)
    | securityOpt => exact congrArg Except.ok (securityOptDiffers_ofRequest h)
    | image => exact congrArg Except.ok ((imageDiffers_ofRequest h).2 ⟨i, rfl⟩)
    | ipcMode => exact congrArg Except.ok (ipcModeDiffers_of_echoes hr hlive)
    | labels => exact congrArg Except.ok ((labelsDiffer_ofRequest h).2 hback.labels)
    | privileged => exact congrArg Except.ok (privilegedDiffers_of_echoes hr hlive)
    | pidMode => exact congrArg Except.ok (pidModeDiffers_of_echoes hr hlive)
    | cgroupnsMode => exact congrArg Except.ok ((cgroupnsModeDiffers_ofRequest h).2 hback.cgroupnsMode)
    | tmpfs => exact congrArg Except.ok ((tmpfsDiffers_ofRequest h).2 hback.tmpfs)
    | volumes => exact (volumesDiffer_ofRequest h).2 hback.volumes
    | volumesFrom => exact congrArg Except.ok (volumesFromDiffer_ofRequest h)
    | environment => exact (environmentDiffers_ofRequest h).2 hback.environment
    | dimensions => exact (dimensionsDiffer_ofRequest h).2 ⟨hback.limits, hback.ulimits⟩
    | command => exact (commandDiffers_ofRequest h).2 hback.command
    | healthcheck => exact (healthcheckDiffers_ofRequest h).2 hback.healthcheck
    | restartPolicy => exact congrArg Except.ok ((restartPolicyDiffers_ofRequest h).2 hback.restartPolicy)
    | user => exact congrArg Except.ok (userDiffers_of_echoes hr hlive)

end Comparison

end Shipshape
