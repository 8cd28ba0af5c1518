import Shipshape.Environment
import Shipshape.Text.Blank
import Shipshape.Volume.Basic

/-!
# The declared container

A specification says what one container is to be like. Whatever it leaves open has a default, and the
names of the options that were given are kept, because some defaults are only enforced when they were
asked for.
-/

namespace Shipshape

inductive EngineKind where
  | docker
  | podman
  deriving DecidableEq, Repr

def EngineKind.name : EngineKind → String
  | .docker => "docker"
  | .podman => "podman"

def EngineKind.ofName? : String → Option EngineKind
  | "docker" => some .docker
  | "podman" => some .podman
  | _ => none

/-- Whether a container is to run. -/
inductive DesiredState where
  | running
  /-- Another word for running. -/
  | started
  /-- It is to exist and not to run. -/
  | exited
  | paused
  deriving DecidableEq, Repr

def DesiredState.name : DesiredState → String
  | .running => "running"
  | .started => "started"
  | .exited => "exited"
  | .paused => "paused"

def DesiredState.ofName? : String → Option DesiredState
  | "running" => some .running
  | "started" => some .started
  | "exited" => some .exited
  | "paused" => some .paused
  | _ => none

/-- The declared container. -/
structure Spec where
  name : Option String := none
  image : Option String := none
  command : Option String := none
  entrypoint : Option String := none
  environment : Option EnvironmentDeclaration := none
  volumes : List VolumeDeclaration := []
  volumesFrom : List String := []
  tmpfs : List String := []
  capAdd : List String := []
  securityOpt : List String := []
  ipcMode : Option String := none
  pidMode : Option String := none
  /-- Another name for `pidMode`. -/
  pid : Option String := none
  cgroupnsMode : Option String := none
  privileged : Bool := false
  labels : Dict String := ∅
  /-- Resource limits by their names. -/
  dimensions : Dict Json := ∅
  healthcheck : Option (Dict Json) := none
  restartPolicy : Option String := none
  restartRetries : Option Nat := none
  state : DesiredState := .running
  user : Option String := none
  /-- The container goes on in the background. -/
  detach : Bool := true
  start : Bool := true
  /-- Somebody else starts the container. -/
  deferStart : Bool := false
  /-- Wait until the container is up. -/
  wait : Bool := false
  /-- Remove a container that was run to its end. -/
  removeOnExit : Bool := true
  /-- A container that does not exist need not be stopped. -/
  ignoreMissing : Bool := false
  tty : Bool := false
  /-- The seconds that a container gets to stop. -/
  gracefulTimeout : Option Nat := none
  /-- The seconds that waiting may take. -/
  clientTimeout : Option Nat := none
  engine : EngineKind := .docker
  /-- The service supervisor takes care of restarts. -/
  restartViaSupervisor : Bool := false
  authUsername : Option String := none
  authPassword : Option String := none
  authRegistry : Option String := none
  tlsVerify : Bool := false
  /-- The command that checks the configuration inside the container. -/
  configCheckCommand : Option (List String) := none
  /-- The names of the options that were given. -/
  specified : List String := []

namespace Spec

def sharedName (key : String) : String := "common_options." ++ key

/-- Whether an option was given, directly or among the shared ones. -/
def isSpecified (s : Spec) (key : String) : Bool :=
  s.specified.contains key || s.specified.contains (sharedName key)

/-- Whether one of the options was given. -/
def anySpecified (s : Spec) (keys : List String) : Bool :=
  keys.any s.isSpecified

/-- The desired mode of the process namespace; an empty one counts as none. -/
def desiredPidMode (s : Spec) : Option String :=
  match s.pidMode.filter (· != "") with
  | some mode => some mode
  | none => s.pid.filter (· != "")

/-- The seconds that a container gets to stop when nothing else is said. -/
def defaultGracefulTimeout : Nat := 10

/-- The seconds that the container gets to stop; none at all is not possible. -/
def gracefulSeconds (s : Spec) : Nat :=
  match s.gracefulTimeout with
  | none | some 0 => defaultGracefulTimeout
  | some n => n

/-- The value of one name of the environment, whatever the rest of it is. -/
def environmentValue? (s : Spec) (key : String) : Option String :=
  s.environment.bind (·.value? key)

/-- How the container takes over its configuration. -/
def configStrategy? (s : Spec) : Option String :=
  s.environmentValue? "CONFIG_STRATEGY"

/-- The name in the environment that asks for diagnostics. -/
def debugKey : String := "RECONCILE_DEBUG"

/-- Whether the environment asks for diagnostics. -/
def debugEnabled (s : Spec) : Bool :=
  match s.environmentValue? debugKey with
  | some v => ["1", "true", "yes", "on"].contains (Text.lower v)
  | none => false

end Spec

end Shipshape
