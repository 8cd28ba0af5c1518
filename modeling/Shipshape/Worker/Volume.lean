import Shipshape.Create.Request
import Shipshape.Engine.Program

/-!
# Volumes

Creating and removing named volumes, and what the storage of a container needs before it is created.
-/

namespace Shipshape.Worker

/-- The label on the volumes that are created here. -/
def managedLabels : Dict String := .ofList [("driftkeeper_managed", "true")]

def volumeRequest (name : String) : VolumeRequest := ⟨name, "local", managedLabels⟩

/-- Creates a named volume, unless there is one. -/
def createVolume (name : String) : Procedure (Option VolumeRecord) := do
  if (← Procedure.engineIfFound (.inspectVolume name)).isSome then return none
  return some (← Procedure.engineOrFail (.createVolume (volumeRequest name)))

/-- Removes a named volume; whether there was one. -/
def removeVolume (name : String) : Procedure Bool := do
  if (← Procedure.engineIfFound (.inspectVolume name)).isNone then return false
  match ← Procedure.engine (.removeVolume name) with
  | .ok () => return true
  | .error f => throw (if f.isConflict then .inUse "volume" name else f.toError "remove_volume")

/-- Makes sure that a host path exists; whether it had to be made. -/
def ensureHostPath (path : String) : Procedure Bool := do
  match ← ExceptT.lift (Program.ask (.hostPath path)) with
  | some created => return created
  | none => throw .hostPath

/-- Makes sure that a piece of storage exists; whether something had to be made. -/
def provision : Create.Podman.Storage → Procedure Bool
  | .named v => do return (← createVolume v.name).isSome
  | .mount m =>
    match m.kind, m.source with
    | .bind, some source => ensureHostPath source
    | _, _ => pure false

/-- Makes sure that all of it exists. -/
def provisionAll : List Create.Podman.Storage → Procedure Bool
  | [] => pure false
  | v :: vs => do
    let first ← provision v
    let rest ← provisionAll vs
    return first || rest

/-- Makes sure that the storage of the container exists. Docker does that on its own. -/
def provisionVolumes (s : Spec) : Procedure Bool :=
  match s.engine with
  | .docker => pure false
  | .podman => do provisionAll (← Procedure.ofExcept (Create.Podman.storage s.volumes))

end Shipshape.Worker
