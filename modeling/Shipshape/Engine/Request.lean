import Shipshape.Healthcheck
import Shipshape.Ulimit

/-!
# Requests to an engine

What an engine is asked to create or to fetch, and the form of these requests as records.
-/

namespace Shipshape

/-- What a mount is made of. -/
inductive MountKind where
  | bind
  | devpts
  deriving DecidableEq, Repr

def MountKind.name : MountKind → String
  | .bind => "bind"
  | .devpts => "devpts"

/-- A mount of a host path, or of terminals. -/
structure MountRequest where
  kind : MountKind
  source : Option String
  target : String
  readOnly : Bool
  propagation : Option String
  deriving DecidableEq, Repr

/-- A mount of a named volume. -/
structure NamedVolumeRequest where
  name : String
  /-- The path inside the container. -/
  target : String
  /-- The options. -/
  mode : String
  deriving DecidableEq, Repr

/-- What an engine does when a container ends. -/
structure RestartPolicy where
  name : String
  maximumRetryCount : Nat
  deriving DecidableEq, Repr

/-- A container to be created. -/
structure ContainerRequest where
  name : String
  image : String
  command : Option (List String) := none
  entrypoint : Option (List String) := none
  environment : Dict String := ∅
  labels : Dict String := ∅
  binds : List String := []
  mounts : List MountRequest := []
  volumes : List NamedVolumeRequest := []
  volumesFrom : List String := []
  tmpfs : List String := []
  capAdd : List String := []
  securityOpt : List String := []
  ipcMode : Option String := none
  pidMode : Option String := none
  cgroupnsMode : Option String := none
  privileged : Bool := false
  networkMode : Option String := none
  restartPolicy : Option RestartPolicy := none
  healthcheck : Option Healthcheck := none
  ulimits : List UlimitRecord := []
  /-- Resource limits by the engine's fields. -/
  resources : Dict Json := ∅
  user : Option String := none
  tty : Bool := false
  stopTimeout : Option Nat := none

/-- A volume to be created. -/
structure VolumeRequest where
  name : String
  driver : String
  labels : Dict String
  deriving DecidableEq, Repr

/-- Who asks a registry. -/
structure RegistryAuth where
  username : String
  password : String
  deriving DecidableEq, Repr

/-- An image to be fetched. -/
structure PullRequest where
  repository : String
  tag : String
  auth : Option RegistryAuth
  tlsVerify : Bool
  deriving DecidableEq, Repr

def PullRequest.reference (r : PullRequest) : String :=
  r.repository ++ ":" ++ r.tag

/-! ## Requests as records -/

namespace MountRequest

/-- The mount as a record; what is not set is left out. -/
def toJson (m : MountRequest) : Json :=
  .ofFields ([("type", .str m.kind.name)] ++ (m.source.map fun s => ("source", Json.str s)).toList ++
    [("target", .str m.target)] ++ (if m.readOnly then [("read_only", .bool true)] else []) ++
    (m.propagation.map fun p => ("propagation", Json.str p)).toList)

end MountRequest

namespace NamedVolumeRequest

def toJson (v : NamedVolumeRequest) : Json :=
  .ofFields [("name", .str v.name), ("bind", .str v.target), ("mode", .str v.mode)]

end NamedVolumeRequest

namespace RestartPolicy

def toJson (p : RestartPolicy) : Json :=
  .ofFields [("Name", .str p.name), ("MaximumRetryCount", .int p.maximumRetryCount)]

end RestartPolicy

namespace ContainerRequest

/-- The container as a record; what is not set is left out. -/
def toJson (r : ContainerRequest) : Json :=
  let text (k : String) (v : Option String) : List (String × Json) :=
    (v.map fun t => (k, Json.str t)).toList
  let texts? (k : String) (v : Option (List String)) : List (String × Json) :=
    (v.map fun l => (k, Json.ofStrings l)).toList
  let items (k : String) (v : List Json) : List (String × Json) :=
    if v.isEmpty then [] else [(k, .arr v)]
  let texts (k : String) (v : List String) : List (String × Json) := items k (v.map .str)
  .ofFields (
    [("name", .str r.name), ("image", .str r.image)] ++ texts? "command" r.command ++
    texts? "entrypoint" r.entrypoint ++
    [("environment", .ofStringDict r.environment), ("labels", .ofStringDict r.labels)] ++
    texts "binds" r.binds ++ items "mounts" (r.mounts.map MountRequest.toJson) ++
    items "volumes" (r.volumes.map NamedVolumeRequest.toJson) ++
    texts "volumes_from" r.volumesFrom ++ texts "tmpfs" r.tmpfs ++ texts "cap_add" r.capAdd ++
    texts "security_opt" r.securityOpt ++ text "ipc_mode" r.ipcMode ++ text "pid_mode" r.pidMode ++
    text "cgroupns_mode" r.cgroupnsMode ++ [("privileged", .bool r.privileged)] ++
    text "network_mode" r.networkMode ++
    (r.restartPolicy.map fun p => ("restart_policy", p.toJson)).toList ++
    (r.healthcheck.map fun h => ("healthcheck", h.toJson)).toList ++
    items "ulimits" (r.ulimits.map UlimitRecord.toJson) ++
    (if r.resources.isEmpty then [] else [("resources", .ofDict r.resources)]) ++
    text "user" r.user ++ [("tty", .bool r.tty)] ++
    (r.stopTimeout.map fun n => ("stop_timeout", Json.int n)).toList)

end ContainerRequest

namespace VolumeRequest

def toJson (r : VolumeRequest) : Json :=
  .ofFields [("name", .str r.name), ("driver", .str r.driver), ("labels", .ofStringDict r.labels)]

end VolumeRequest

namespace PullRequest

/-- The image as a record; a request without credentials has none. -/
def toJson (r : PullRequest) : Json :=
  .ofFields ([("repository", .str r.repository), ("tag", .str r.tag)] ++
    (r.auth.map fun a =>
      ("auth", Json.ofFields [("username", .str a.username), ("password", .str a.password)])).toList ++
    [("tls_verify", .bool r.tlsVerify)])

end PullRequest

end Shipshape
