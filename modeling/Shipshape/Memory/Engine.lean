import Shipshape.Engine.Call
import Shipshape.Memory.Document

/-!
# An engine in memory

An engine that keeps containers as the documents that describe them, together with local images, volumes, and
a registry. How starts go and when containers turn healthy can be scripted.
-/

namespace Shipshape

/-- The state of an engine in memory. -/
structure MemoryEngine where
  /-- The documents of the containers. -/
  containers : Dict Json := ∅
  /-- The local images by their references. -/
  images : Dict Image := ∅
  /-- The images that can be fetched. -/
  registry : Dict Image := ∅
  volumes : Dict VolumeRecord := ∅
  /-- How many of the next starts fail. -/
  failingStarts : Nat := 0
  /-- How many of the next starts have no effect. -/
  ignoredStarts : Nat := 0
  /-- The health of a container that starts. -/
  healthOnStart : Option String := none
  /-- After how many looks containers turn healthy. -/
  pollsUntilHealthy : Nat := 0
  /-- The volumes and images that cannot be removed. -/
  inUse : List String := []
  /-- The log of every container. -/
  logs : List String := []
  /-- The exit code of every container. -/
  exitCode : Int := 0
  /-- The results of the next commands that are run in containers. -/
  execResults : List (Except Fault ExecResult) := []

namespace MemoryEngine

/-- The thing asked for does not exist. -/
def notFound (what name : String) : Fault := ⟨some 404, "no such " ++ what ++ ": " ++ name⟩

/-- A document with another field in the section on the state. -/
def setState (document : Json) (key : String) (v : Json) : Json :=
  document.setField "State" ((document.getD "State").setField key v)

def setStatus (status : String) (document : Json) : Json :=
  setState document "Status" (.str status)

def setHealth (health : String) (document : Json) : Json :=
  setState document "Health" (((document.getD "State").getD "Health").setField "Status" (.str health))

/-- Whether a container waits to turn healthy. -/
def isSettling (document : Json) : Bool :=
  Inspection.health? ⟨document⟩ == some "starting"

/-- Changes a container that exists. -/
def modify (m : MemoryEngine) (name : String) (f : Json → Json) : Except Fault Unit × MemoryEngine :=
  match m.containers.get? name with
  | some document => (.ok (), { m with containers := m.containers.insert name (f document) })
  | none => (.error (notFound "container" name), m)

/-- Looks at a container. Every look brings containers closer to health, and one whose health is `starting`
turns healthy in the end. -/
def inspectContainer (m : MemoryEngine) (name : String) : Except Fault Inspection × MemoryEngine :=
  let healthy := m.pollsUntilHealthy = 0
  let m := { m with pollsUntilHealthy := m.pollsUntilHealthy - 1 }
  match m.containers.get? name with
  | none => (.error (notFound "container" name), m)
  | some document =>
    if healthy && isSettling document then
      let document := setHealth "healthy" document
      (.ok ⟨document⟩, { m with containers := m.containers.insert name document })
    else (.ok ⟨document⟩, m)

/-- Creates a container, unless its name is taken. -/
def createContainer (m : MemoryEngine) (r : ContainerRequest) : Except Fault Unit × MemoryEngine :=
  if m.containers.contains r.name then
    (.error ⟨some 409, "name " ++ r.name ++ " is already in use"⟩, m)
  else
    let document := Memory.describe r (m.images.get? r.image)
    (.ok (), { m with containers := m.containers.insert r.name document })

/-- What becomes of a container that starts. -/
def started (m : MemoryEngine) (document : Json) : Json :=
  let document := setStatus "running" document
  match m.healthOnStart with
  | some health => setState document "Health" (.ofFields [("Status", .str health)])
  | none => document

def startContainer (m : MemoryEngine) (name : String) : Except Fault Unit × MemoryEngine :=
  if 0 < m.failingStarts then
    (.error ⟨some 500, "OCI runtime error: permission denied"⟩,
      { m with failingStarts := m.failingStarts - 1 })
  else if 0 < m.ignoredStarts then (.ok (), { m with ignoredStarts := m.ignoredStarts - 1 })
  else m.modify name m.started

def removeContainer (m : MemoryEngine) (name : String) : Except Fault Unit × MemoryEngine :=
  if m.containers.contains name then (.ok (), { m with containers := m.containers.erase name })
  else (.error (notFound "container" name), m)

def waitContainer (m : MemoryEngine) (name : String) : Except Fault Int × MemoryEngine :=
  (.ok m.exitCode, (m.modify name (setStatus "exited")).2)

def lastLogs (m : MemoryEngine) (tail : Option Nat) : List String :=
  match tail with
  | some n => m.logs.drop (m.logs.length - n)
  | none => m.logs

/-- Runs a command in a container. -/
def exec (m : MemoryEngine) : Except Fault ExecResult × MemoryEngine :=
  match m.execResults with
  | [] => (.ok {}, m)
  | result :: rest => (result, { m with execResults := rest })

def createVolume (m : MemoryEngine) (r : VolumeRequest) : Except Fault VolumeRecord × MemoryEngine :=
  let volume : VolumeRecord :=
    ⟨r.name, r.driver, "/var/lib/docker/volumes/" ++ r.name ++ "/_data", r.labels⟩
  (.ok volume, { m with volumes := m.volumes.insert r.name volume })

/-- The thing cannot be removed now. -/
def removalRefused (what name : String) : Fault := ⟨some 409, what ++ " " ++ name ++ " is in use"⟩

def removeVolume (m : MemoryEngine) (name : String) : Except Fault Unit × MemoryEngine :=
  if m.inUse.contains name then (.error (removalRefused "volume" name), m)
  else (.ok (), { m with volumes := m.volumes.erase name })

/-- Fetches an image, if the registry has it. -/
def pullImage (m : MemoryEngine) (r : PullRequest) : Except Fault (Option Image) × MemoryEngine :=
  match m.registry.get? r.reference with
  | none => (.ok none, m)
  | some image => (.ok (some image), { m with images := m.images.insert r.reference image })

def removeImage (m : MemoryEngine) (reference : String) : Except Fault Unit × MemoryEngine :=
  if m.inUse.contains reference then (.error (removalRefused "image" reference), m)
  else (.ok (), { m with images := m.images.erase reference })

def found {α : Type} (what name : String) (v : Option α) : Except Fault α :=
  match v with
  | some v => .ok v
  | none => .error (notFound what name)

def answer (m : MemoryEngine) : (c : EngineCall) → Except Fault c.Reply × MemoryEngine
  | .inspectContainer n => m.inspectContainer n
  | .createContainer r => m.createContainer r
  | .startContainer n => m.startContainer n
  | .stopContainer n _ => m.modify n (setStatus "exited")
  | .restartContainer n _ => m.modify n (setStatus "running")
  | .removeContainer n _ => m.removeContainer n
  | .waitContainer n => m.waitContainer n
  | .logs _ _ tail => (.ok (m.lastLogs tail), m)
  | .exec .. => m.exec
  | .inspectVolume n => (found "volume" n (m.volumes.get? n), m)
  | .createVolume r => m.createVolume r
  | .removeVolume n => m.removeVolume n
  | .pullImage r => m.pullImage r
  | .inspectImage n => (found "image" n (m.images.get? n), m)
  | .removeImage n => m.removeImage n

end MemoryEngine

end Shipshape
