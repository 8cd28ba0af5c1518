import Shipshape.Engine.Request
import Shipshape.Error
import Shipshape.Inspection

/-!
# Calls

What the outside world can be asked: the engine, the service supervisor, and the host's directories. Each
call has a type of answers.
-/

namespace Shipshape

/-- Why an engine did not do what it was asked. -/
structure Fault where
  /-- The status of the answer; without an answer there is none. -/
  status : Option Nat
  explanation : String
  deriving DecidableEq, Repr

namespace Fault

/-- Whether the thing asked for does not exist. -/
def isNotFound (f : Fault) : Bool := f.status == some 404

/-- Whether the thing asked for is in use. -/
def isConflict (f : Fault) : Bool := f.status == some 409

/-- Whether the engine holds the request itself for wrong. -/
def isClientError (f : Fault) : Bool := f.status.any fun n => 400 ≤ n && n ≤ 499

def toError (f : Fault) (operation : String) : Error := .engine operation f.explanation

end Fault

/-- What a command inside a container left. -/
structure ExecResult where
  exitCode : Int := 0
  output : String := ""
  deriving DecidableEq, Repr

/-- Which of a container's outputs. -/
inductive LogStream where
  | stdout
  | stderr
  | both
  deriving DecidableEq, Repr

def LogStream.name : LogStream → String
  | .stdout => "stdout"
  | .stderr => "stderr"
  | .both => "both"

/-- A volume as engines report it. -/
structure VolumeRecord where
  name : String
  driver : String := ""
  mountpoint : String := ""
  labels : Dict String := ∅
  deriving DecidableEq, Repr

namespace VolumeRecord

def fieldNames : List String := ["Name", "Driver", "Mountpoint", "Labels"]

def ofJson? (v : Json) : Option VolumeRecord := do
  let r ← v.record? fieldNames
  return {
    name := ← r.required? "Name" Json.string?
    driver := ← r.withDefault? "Driver" "" Json.string?
    mountpoint := ← r.withDefault? "Mountpoint" "" Json.string?
    labels := ← r.withDefault? "Labels" ∅ Json.stringDict? }

def toJson (v : VolumeRecord) : Json :=
  .ofFields [("Name", .str v.name), ("Driver", .str v.driver), ("Mountpoint", .str v.mountpoint),
    ("Labels", .ofStringDict v.labels)]

end VolumeRecord

/-- What an engine can be asked. -/
inductive EngineCall where
  | inspectContainer (name : String)
  | createContainer (request : ContainerRequest)
  | startContainer (name : String)
  | stopContainer (name : String) (seconds : Nat)
  | restartContainer (name : String) (seconds : Nat)
  | removeContainer (name : String) (force : Bool)
  | waitContainer (name : String)
  | logs (name : String) (stream : LogStream) (tail : Option Nat)
  | exec (name : String) (argv : List String) (user : String)
  | inspectVolume (name : String)
  | createVolume (request : VolumeRequest)
  | removeVolume (name : String)
  | pullImage (request : PullRequest)
  | inspectImage (reference : String)
  | removeImage (reference : String)

namespace EngineCall

/-- What the engine replies when it does what it was asked. -/
abbrev Reply : EngineCall → Type
  | inspectContainer _ => Inspection
  | waitContainer _ => Int
  | logs .. => List String
  | exec .. => ExecResult
  | inspectVolume _ | createVolume _ => VolumeRecord
  | pullImage _ => Option Image
  | inspectImage _ => Image
  | createContainer _ | startContainer _ | stopContainer .. | restartContainer ..
  | removeContainer .. | removeVolume _ | removeImage _ => Unit

def name : EngineCall → String
  | inspectContainer _ => "inspect_container"
  | createContainer _ => "create_container"
  | startContainer _ => "start_container"
  | stopContainer .. => "stop_container"
  | restartContainer .. => "restart_container"
  | removeContainer .. => "remove_container"
  | waitContainer _ => "wait_container"
  | logs .. => "logs"
  | exec .. => "exec"
  | inspectVolume _ => "inspect_volume"
  | createVolume _ => "create_volume"
  | removeVolume _ => "remove_volume"
  | pullImage _ => "pull_image"
  | inspectImage _ => "inspect_image"
  | removeImage _ => "remove_image"

def names : List String :=
  ["inspect_container", "create_container", "start_container", "stop_container", "restart_container",
    "remove_container", "wait_container", "logs", "exec", "inspect_volume", "create_volume",
    "remove_volume", "pull_image", "inspect_image", "remove_image"]

def arguments : EngineCall → List Json
  | inspectContainer n | startContainer n | waitContainer n | inspectVolume n | removeVolume n
  | inspectImage n | removeImage n => [.str n]
  | createContainer r => [r.toJson]
  | stopContainer n seconds | restartContainer n seconds => [.str n, .int seconds]
  | removeContainer n force => [.str n, .bool force]
  | logs n stream tail =>
    [.str n, .str stream.name, (tail.map fun t => Json.int t).getD .null]
  | exec n argv user => [.str n, .ofStrings argv, .str user]
  | createVolume r => [r.toJson]
  | pullImage r => [r.toJson]

end EngineCall

/-- What the service supervisor can be asked about the unit of a container. -/
inductive UnitCall where
  /-- Whether the unit on disk differs from the one that would be written now. -/
  | checkChanged
  /-- Write the unit; whether it changed. -/
  | create
  /-- Remove the unit; whether there was one. -/
  | remove
  | start
  | stop
  | restart
  deriving DecidableEq, Repr

namespace UnitCall

def name : UnitCall → String
  | checkChanged => "check_unit_changed"
  | create => "create_unit"
  | remove => "remove_unit"
  | start => "start"
  | stop => "stop"
  | restart => "restart"

end UnitCall

/-- What the outside world can be asked. -/
inductive Call where
  | engine (c : EngineCall)
  | unit (c : UnitCall) (name : String)
  /-- Make sure that a host path exists; whether it had to be made. -/
  | hostPath (path : String)

namespace Call

abbrev Answer : Call → Type
  | engine c => Except Fault c.Reply
  | unit .. => Bool
  | hostPath _ => Option Bool

/-- Whether a call may change containers, images, volumes or units. -/
def isMutating : Call → Bool
  | engine c =>
    match c with
    | .createContainer _ | .startContainer _ | .stopContainer .. | .restartContainer ..
    | .removeContainer .. | .createVolume _ | .removeVolume _ | .pullImage _ | .removeImage _ => true
    | .inspectContainer _ | .waitContainer _ | .logs .. | .exec .. | .inspectVolume _
    | .inspectImage _ => false
  | unit c _ =>
    match c with
    | .create | .remove | .start | .stop | .restart => true
    | .checkChanged => false
  | hostPath _ => false

end Call

end Shipshape
