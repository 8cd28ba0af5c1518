import Shipshape.Drift.Rule.Image
import Shipshape.Drift.Rule.Privilege
import Shipshape.Drift.Rule.Runtime
import Shipshape.Drift.Rule.Storage
import Shipshape.Drift.Secret
import Shipshape.Drift.Trace

/-!
# Drift

The attributes in which a live container differs from its specification. Every attribute is looked at,
in the order of `Attribute.all`; a specification that makes no sense is refused before any of them is.
-/

namespace Shipshape

def Comparison.differs (c : Comparison) : Attribute → Except Error Bool
  | .capAdd => .ok c.capAddDiffers
  | .securityOpt => .ok c.securityOptDiffers
  | .image => .ok c.imageDiffers
  | .ipcMode => .ok c.ipcModeDiffers
  | .labels => .ok c.labelsDiffer
  | .privileged => .ok c.privilegedDiffers
  | .pidMode => .ok c.pidModeDiffers
  | .cgroupnsMode => .ok c.cgroupnsModeDiffers
  | .tmpfs => .ok c.tmpfsDiffers
  | .volumes => c.volumesDiffer
  | .volumesFrom => .ok c.volumesFromDiffer
  | .environment => c.environmentDiffers
  | .state => .ok c.stateDiffers
  | .dimensions => c.dimensionsDiffer
  | .command => c.commandDiffers
  | .healthcheck => c.healthcheckDiffers
  | .restartPolicy => .ok c.restartPolicyDiffers
  | .user => .ok c.userDiffers

def Comparison.snapshot (c : Comparison) : Attribute → Snapshot
  | .capAdd => c.capAddSnapshot
  | .securityOpt => c.securityOptSnapshot
  | .image => c.imageSnapshot
  | .ipcMode => c.ipcModeSnapshot
  | .labels => c.labelsSnapshot
  | .privileged => c.privilegedSnapshot
  | .pidMode => c.pidModeSnapshot
  | .cgroupnsMode => c.cgroupnsModeSnapshot
  | .tmpfs => c.tmpfsSnapshot
  | .volumes => c.volumesSnapshot
  | .volumesFrom => c.volumesFromSnapshot
  | .environment => c.environmentSnapshot
  | .state => c.stateSnapshot
  | .dimensions => c.dimensionsSnapshot
  | .command => c.commandSnapshot
  | .healthcheck => c.healthcheckSnapshot
  | .restartPolicy => c.restartPolicySnapshot
  | .user => c.userSnapshot

/-- An attribute that differs, with both sides. -/
structure DriftEntry where
  key : Attribute
  shown : Snapshot

/-- The attributes that differ. -/
structure Drift where
  entries : List DriftEntry := []
  /-- A restart does not mend the differences. -/
  needsRecreate : Bool := false
  /-- Why the container has to be made anew. -/
  recreateReasons : List String := []

namespace Drift

def changed (d : Drift) : Bool := !d.entries.isEmpty

/-- The attributes that differ, in the order of comparison. -/
def keys (d : Drift) : List Attribute := d.entries.map (·.key)

def contains (d : Drift) (a : Attribute) : Bool := d.keys.contains a

def only (d : Drift) (a : Attribute) : Bool := d.keys == [a]

/-- Adds an attribute; another user always needs a new container. -/
def push (d : Drift) (e : DriftEntry) : Drift :=
  let d := { d with entries := d.entries ++ [e] }
  if e.key = .user then
    { d with needsRecreate := true, recreateReasons := d.recreateReasons ++ [e.key.name] }
  else d

end Drift

/-- Refuses a specification that cannot be compared at all. -/
def Spec.validate (s : Spec) : Except Error Unit := do
  Dimension.validate s.dimensions
  discard (Healthcheck.ofDeclared s.healthcheck)
  if let some env := s.environment then discard (Environment.ofDeclared env)
  discard (Volume.setOfDeclared s.volumes)

/-- How specifications and live containers are compared. -/
structure Comparator where
  defaults : EngineDefaults
  volumeMatch : VolumeMatch := .path
  deriving DecidableEq, Repr

namespace Comparator

/-- The comparator for the engine of a specification. -/
def ofSpec (s : Spec) (m : VolumeMatch) : Comparator := ⟨.ofSpec s, m⟩

def beside (c : Comparator) (s : Spec) (live : Inspection) (image : Option Image) : Comparison :=
  ⟨s, live, image, c.defaults, c.volumeMatch⟩

/-- The line on an attribute that differs. Secrets are hidden in it. -/
def driftLine (e : DriftEntry) : String :=
  let shown := Secret.redact e.key e.shown
  e.key.name ++ " differs: expected=" ++ shown.desired.compact ++ " actual=" ++ shown.current.compact

/-- Looks at one attribute: what it adds to the drift, and what is noted about it. -/
def lookAt (c : Comparison) (d : Drift × List Note) (a : Attribute) :
    Except Error (Drift × List Note) := do
  if ← c.differs a then
    let e : DriftEntry := ⟨a, c.snapshot a⟩
    return (d.1.push e, d.2 ++ [.decision (driftLine e)])
  else return (d.1, d.2 ++ [.detail (a.name ++ " matches")])

/-- Compares all attributes: the drift, and what is noted on the way. -/
def compare (c : Comparator) (s : Spec) (live : Inspection) (image : Option Image) :
    Except Error (Drift × List Note) := do
  s.validate
  Attribute.all.foldlM (lookAt (c.beside s live image)) ({}, [])

end Comparator

end Shipshape
