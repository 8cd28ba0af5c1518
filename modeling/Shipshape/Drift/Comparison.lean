import Shipshape.Error
import Shipshape.Inspection
import Shipshape.Spec.Basic

/-!
# What is compared

A comparison puts a specification beside a live container and the local image, and knows what the engine
adds on its own.
-/

namespace Shipshape

/-- What an engine adds to a container without being asked. -/
structure EngineDefaults where
  /-- Capabilities of containers that are not privileged. -/
  capabilities : List String := []
  /-- Security options of containers for which none are asked. -/
  securityOptions : List String := []
  /-- The service supervisor takes care of restarts. -/
  restartDelegated : Bool := false
  deriving DecidableEq, Repr

namespace EngineDefaults

def docker : EngineDefaults := {}

def podman (restartDelegated : Bool) : EngineDefaults :=
  { capabilities := ["CAP_AUDIT_WRITE"], securityOptions := ["unmask=all"], restartDelegated }

/-- What the engine of a specification adds. -/
def ofSpec (s : Spec) : EngineDefaults :=
  match s.engine with
  | .docker => docker
  | .podman => podman s.restartViaSupervisor

end EngineDefaults

/-- What makes two volumes equal. -/
inductive VolumeMatch where
  /-- Source and destination. -/
  | path
  /-- Also access and propagation. -/
  | strict
  deriving DecidableEq, Repr

/-- A specification beside a live container. -/
structure Comparison where
  spec : Spec
  live : Inspection
  /-- The local image of the specification, if there is one. -/
  image : Option Image
  defaults : EngineDefaults
  volumeMatch : VolumeMatch

/-- The two sides of an attribute, as they are shown. -/
structure Snapshot where
  current : Json
  desired : Json

def sortedTexts (l : List String) : List String :=
  l.mergeSort fun a b => (compare a b).isLE

end Shipshape
