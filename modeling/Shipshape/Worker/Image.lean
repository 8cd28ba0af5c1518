import Shipshape.Create.Basic
import Shipshape.Engine.Program
import Shipshape.Spec.Action

/-!
# Images

Looking up, fetching and removing the image of a specification.
-/

namespace Shipshape.Worker

/-- The local image of a specification. -/
def checkImage (s : Spec) : Procedure (Option Image) :=
  match s.image with
  | none => pure none
  | some reference => Procedure.engineIfFound (.inspectImage reference)

/-- Fetches the image; whether it is another one than before. -/
def pullImage (s : Spec) : Procedure Bool := do
  let reference ← Procedure.ofExcept (s.requireImage .pullImage)
  let previous ← checkImage s
  match ← Procedure.engine (.pullImage (Create.pullRequest s reference)) with
  | .ok (some image) => return previous != some image
  | .ok none => throw (.imageNotFound reference)
  | .error f => throw (if f.isNotFound then .imageNotFound reference else f.toError "pull_image")

/-- Fetches the image if there is none; whether it was fetched and is new. -/
def ensureImage (s : Spec) : Procedure Bool := do
  if s.image.isNone then return false
  if (← checkImage s).isSome then return false
  pullImage s

/-- Removes the image; whether there was one. -/
def removeImage (s : Spec) : Procedure Bool := do
  let reference ← Procedure.ofExcept (s.requireImage .removeImage)
  if (← checkImage s).isNone then return false
  match ← Procedure.engine (.removeImage reference) with
  | .ok () => return true
  | .error f => throw (if f.isConflict then .inUse "image" reference else f.toError "remove_image")

end Shipshape.Worker
