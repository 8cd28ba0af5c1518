import Shipshape.Create.Request
import Shipshape.Engine.Program
import Shipshape.Outcome
import Shipshape.Worker.Volume

/-!
# Containers

What is done to a container, and what is asked about it. On Podman the service supervisor stops and
restarts the containers whose restarts it owns.
-/

namespace Shipshape.Worker

/-! ## Looking -/

/-- The live container, if there is one. -/
def inspect (name : String) : Procedure (Option Inspection) :=
  Procedure.engineIfFound (.inspectContainer name)

/-- The command that checks the configuration when no other one is declared. -/
def defaultConfigCheck : List String := ["/usr/local/bin/set_configs", "--check"]

/-- Whether the files of the configuration differ from those inside the container. A container that does not
run, or in which nothing can be run, counts as different. -/
def configChanged (s : Spec) : Procedure Bool := do
  let name ← Procedure.ofExcept (s.requireName .compareContainer)
  match ← inspect name with
  | none => return true
  | some info =>
    if !info.isRunning then return true
    match ← Procedure.engine (.exec name (s.configCheckCommand.getD defaultConfigCheck) "root") with
    | .error f => if f.isClientError then return true else throw (f.toError "exec")
    | .ok result =>
      if result.exitCode = 0 then return false
      else if result.exitCode = 1 then return true
      else throw (.configCheckFailed result.exitCode result.output)

def logs (name : String) (stream : LogStream) (tail : Option Nat) : Procedure (List String) :=
  Procedure.engineOrFail (.logs name stream tail)

/-! ## Creating and removing -/

/-- Whether the service supervisor owns the container's restarts. -/
def supervised (s : Spec) : Bool :=
  s.engine = .podman && Create.Podman.supervised s

/-- Creates the container, and the unit of one whose restarts the service supervisor owns. -/
def createContainer (s : Spec) : Procedure Bool := do
  discard (provisionVolumes s)
  let request ← Procedure.ofExcept (Create.request s)
  Procedure.engineOrFail (.createContainer request)
  if supervised s then
    let name ← Procedure.ofExcept (s.requireName .startContainer)
    discard (Procedure.unit .create name)
  return true

/-- Removes the container and its unit; whether there was one. A container that went away by itself
meanwhile counts as removed. -/
def removeContainer (s : Spec) : Procedure Bool := do
  let name ← Procedure.ofExcept (s.requireName .removeContainer)
  let unitRemoved ← Procedure.unit .remove name
  if (← inspect name).isNone then return unitRemoved
  if let .error f ← Procedure.engine (.removeContainer name true) then
    if (← inspect name).isSome then throw (f.toError "remove_container")
  return true

/-! ## Starting and stopping -/

/-- Starts the container; what the engine said if it could not. -/
def start (name : String) : Procedure (Except Error Unit) := do
  match ← Procedure.engine (.startContainer name) with
  | .ok () => return .ok ()
  | .error f => return .error (.startFailed name f.explanation)

/-- Stops a running container through the supervisor or the engine. -/
def stopRunning (s : Spec) (name : String) : Procedure Unit := do
  if supervised s then
    discard (Procedure.unit .create name)
    if !(← Procedure.unit .stop name) then
      throw (.engine "stop_container" ("supervisor failed to stop " ++ name))
  else Procedure.engineOrFail (.stopContainer name s.gracefulSeconds)

/-- Stops the container; whether it was running. -/
def stopContainer (s : Spec) : Procedure Bool := do
  let name ← Procedure.ofExcept (s.requireName .stopContainer)
  match ← inspect name with
  | none => if s.ignoreMissing then return false else throw (.containerNotFound name)
  | some info =>
    if !info.isRunning then return false
    stopRunning s name
    return true

def restartByEngine (s : Spec) (name : String) (report : StartReport) : Procedure StartReport := do
  if (← inspect name).isNone then throw (.containerNotFound name)
  match ← Procedure.engine (.restartContainer name s.gracefulSeconds) with
  | .ok () => return report.succeeded
  | .error f => throw (.startFailed name f.explanation)

/-- Restarts the container through the supervisor; if that fails, the engine starts a container that does not
run. -/
def restartBySupervisor (name : String) (report : StartReport) : Procedure StartReport := do
  discard (Procedure.unit .create name)
  if ← Procedure.unit .restart name then return report.succeeded
  let running := (← inspect name).any (·.isRunning)
  if !running then
    if let .error e ← start name then throw e
  return { report.succeeded with error := "supervisor failed to restart " ++ name }

def restartContainer (s : Spec) (report : StartReport) : Procedure StartReport := do
  let name ← Procedure.ofExcept (s.requireName .restartContainer)
  if supervised s then restartBySupervisor name report else restartByEngine s name report

/-- Waits for the container to end; its exit code. -/
def waitExit (name : String) : Procedure Int :=
  Procedure.engineOrFail (.waitContainer name)

end Shipshape.Worker
