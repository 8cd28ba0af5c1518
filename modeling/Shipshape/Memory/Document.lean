import Shipshape.Engine.Request
import Shipshape.Inspection
import Shipshape.Text.Pieces

/-!
# How an engine describes a container that it was asked to create

The document that looking at a container answers, made from the request for it: what was requested is
reported back, and what the image brings along is filled in.
-/

namespace Shipshape.Memory

/-- The words that a container runs: entrypoint and command, each that of the image unless requested. -/
def processWords (r : ContainerRequest) (image : Option Image) : List String :=
  (r.entrypoint.getD ((image.map (·.entrypoint)).getD [])) ++
    r.command.getD ((image.map (·.command)).getD [])

/-- A file system in memory: its path and its options. -/
def tmpfsField (entry : String) : String × Json :=
  match Text.splitFirst? ':' entry.toList with
  | some (path, options) => (.ofList path, .str (.ofList options))
  | none => (entry, .str "")

def reportedMount (m : MountRequest) : Json :=
  .ofFields [("Type", .str m.kind.name), ("Source", .str (m.source.getD "")),
    ("Destination", .str m.target), ("RW", .bool (!m.readOnly)),
    ("Propagation", .str (m.propagation.getD ""))]

/-- A named volume as it is reported back, with the path where it is stored. -/
def reportedVolume (v : NamedVolumeRequest) : Json :=
  .ofFields [("Type", .str "volume"), ("Name", .str v.name),
    ("Source", .str ("/var/lib/containers/storage/volumes/" ++ v.name ++ "/_data")),
    ("Destination", .str v.target),
    ("RW", .bool (!(Text.splitAtChar ',' v.mode).contains "ro"))]

def hostSection (r : ContainerRequest) : Dict Json :=
  (Dict.ofList [
    ("Binds", .ofStrings r.binds),
    ("CapAdd", .ofStrings r.capAdd),
    ("SecurityOpt", .ofStrings r.securityOpt),
    ("Privileged", .bool r.privileged),
    ("VolumesFrom", .ofStrings r.volumesFrom),
    ("Tmpfs", .ofFields (r.tmpfs.map tmpfsField)),
    ("IpcMode", .ofString? r.ipcMode),
    ("PidMode", .ofString? r.pidMode),
    ("CgroupnsMode", .ofString? r.cgroupnsMode),
    ("NetworkMode", .ofString? r.networkMode),
    ("RestartPolicy", (r.restartPolicy.getD ⟨"", 0⟩).toJson),
    ("Ulimits", .arr (r.ulimits.map UlimitRecord.toJson))]).insertAll r.resources.entries

/-- The section on the process and its image. -/
def configSection (r : ContainerRequest) : Json :=
  .ofFields [
    ("Image", .str r.image),
    ("Env", .ofStrings (r.environment.entries.map fun e => e.1 ++ "=" ++ e.2)),
    ("Labels", .ofStringDict r.labels),
    ("Healthcheck", (r.healthcheck.map Healthcheck.toJson).getD .null),
    ("User", .str (r.user.getD ""))]

def describe (r : ContainerRequest) (image : Option Image) : Json :=
  let words := processWords r image
  .ofFields [
    ("Name", .str r.name),
    ("Image", .str ((image.map (·.id)).getD "")),
    ("Path", .ofString? words.head?),
    ("Args", .ofStrings words.tail),
    ("State", .ofFields [("Status", .str "created")]),
    ("Config", configSection r),
    ("HostConfig", .ofDict (hostSection r)),
    ("Mounts", .arr (r.mounts.map reportedMount ++ r.volumes.map reportedVolume))]

end Shipshape.Memory
