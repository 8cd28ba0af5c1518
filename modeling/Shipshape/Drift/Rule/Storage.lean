import Shipshape.Drift.Comparison
import Shipshape.Volume.Canonical

/-!
# Rules on storage

Volumes, volumes of other containers, and file systems in memory.
-/

namespace Shipshape.Comparison

/-! ## File systems in memory -/

/-- The desired file systems in memory. -/
def desiredTmpfs (c : Comparison) : List String :=
  sortedTexts (c.spec.tmpfs.filter (· != ""))

/-- A file system in memory with its options. -/
def tmpfsEntry (path options : String) : String :=
  if options == "" then path else path ++ ":" ++ options

/-- The live file systems in memory, which engines report as a list or as an object. -/
def liveTmpfs (c : Comparison) : List String :=
  let entries := match c.live.hostValue? "Tmpfs" with
    | some (.obj d) => d.map fun (path, options) => tmpfsEntry path (Json.plainText options)
    | v => (v.getD .null).plainTexts
  sortedTexts (entries.filter (· != ""))

/-- Whether the file systems in memory differ. -/
def tmpfsDiffers (c : Comparison) : Bool :=
  c.desiredTmpfs != c.liveTmpfs

/-- Both sides' file systems in memory. -/
def tmpfsSnapshot (c : Comparison) : Snapshot :=
  ⟨.ofStrings c.liveTmpfs, .ofStrings c.desiredTmpfs⟩

/-! ## Volumes -/

/-- The live volumes: engines report them as mounts, as entries, or both. -/
def liveVolumes (c : Comparison) : Except Error (List Volume) := do
  let binds := ((c.live.hostValue? "Binds").getD .null).items
  let volumes ← (c.live.mounts ++ binds).mapM Volume.ofLive
  return SortedSet.ofList volumes.reduceOption

def desiredVolumes (c : Comparison) : Except Error (List Volume) :=
  Volume.setOfDeclared c.spec.volumes

/-- What counts of a volume, as a text. -/
def volumeKey (mode : VolumeMatch) (v : Volume) : String :=
  match mode with
  | .path => v.source ++ ":" ++ v.destination
  | .strict => v.toBind

/-- What counts of a set of volumes. -/
def volumeKeys (mode : VolumeMatch) (volumes : List Volume) : List String :=
  SortedSet.ofList (volumes.map (volumeKey mode))

def volumesDiffer (c : Comparison) : Except Error Bool := do
  let desired ← c.desiredVolumes
  let live ← c.liveVolumes
  return volumeKeys c.volumeMatch desired != volumeKeys c.volumeMatch live

/-- One side's volumes, or why there are none. -/
def shownVolumes : Except Error (List Volume) → Json
  | .ok volumes => .ofStrings (volumeKeys .strict volumes)
  | .error e => .str e.message

def volumesSnapshot (c : Comparison) : Snapshot :=
  ⟨shownVolumes c.liveVolumes, shownVolumes c.desiredVolumes⟩

/-! ## Volumes of other containers -/

/-- The containers whose volumes the live container shares. -/
def liveVolumesFrom (c : Comparison) : List String :=
  sortedTexts (c.live.hostTexts "VolumesFrom")

/-- Whether the volumes of other containers are shared. -/
def volumesFromDiffer (c : Comparison) : Bool :=
  sortedTexts c.spec.volumesFrom != c.liveVolumesFrom

/-- Both sides' containers whose volumes are shared. -/
def volumesFromSnapshot (c : Comparison) : Snapshot :=
  ⟨.ofStrings c.liveVolumesFrom, .ofStrings (sortedTexts c.spec.volumesFrom)⟩

end Shipshape.Comparison
