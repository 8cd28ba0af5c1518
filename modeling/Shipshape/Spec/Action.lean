import Shipshape.Error
import Shipshape.Spec.Basic

/-!
# Actions

What can be asked for, and the parameters that each action needs.
-/

namespace Shipshape

/-- What is asked for. -/
inductive Action where
  | compareContainer
  | compareImage
  | createVolume
  | ensureImage
  | pullImage
  | recreateOrRestartContainer
  | removeContainer
  | removeImage
  | removeVolume
  | restartContainer
  | startContainer
  | stopContainer
  | stopAndRemoveContainer
  deriving DecidableEq, Repr

namespace Action

def name : Action → String
  | compareContainer => "compare_container"
  | compareImage => "compare_image"
  | createVolume => "create_volume"
  | ensureImage => "ensure_image"
  | pullImage => "pull_image"
  | recreateOrRestartContainer => "recreate_or_restart_container"
  | removeContainer => "remove_container"
  | removeImage => "remove_image"
  | removeVolume => "remove_volume"
  | restartContainer => "restart_container"
  | startContainer => "start_container"
  | stopContainer => "stop_container"
  | stopAndRemoveContainer => "stop_and_remove_container"

def all : List Action :=
  [compareContainer, compareImage, createVolume, ensureImage, pullImage, recreateOrRestartContainer,
    removeContainer, removeImage, removeVolume, restartContainer, startContainer, stopContainer,
    stopAndRemoveContainer]

def ofName? (s : String) : Option Action :=
  all.find? (·.name == s)

theorem ofName?_name (a : Action) : ofName? a.name = some a := by
  cases a <;> decide +kernel

def needsImage : Action → Bool
  | pullImage | ensureImage | removeImage | startContainer => true
  | _ => false

def needsName : Action → Bool
  | pullImage | ensureImage | removeImage => false
  | _ => true

def requiredParameters (a : Action) : List String :=
  (if a.needsImage then ["image"] else []) ++ (if a.needsName then ["name"] else [])

end Action

namespace Spec

def requireName (s : Spec) (a : Action) : Except Error String :=
  match s.name with
  | some name => .ok name
  | none => .error (.missingParameter a.name "name")

def requireImage (s : Spec) (a : Action) : Except Error String :=
  match s.image with
  | some image => .ok image
  | none => .error (.missingParameter a.name "image")

/-- Checks that everything is given that an action needs. -/
def validateFor (s : Spec) (a : Action) : Except Error Unit := do
  if a.needsImage then discard (s.requireImage a)
  if a.needsName then discard (s.requireName a)

end Spec

end Shipshape
