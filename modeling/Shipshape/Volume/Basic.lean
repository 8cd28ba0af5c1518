import Shipshape.SortedSet

/-!
# Volumes

A volume of a container in its canonical form: what is mounted, where, whether it can be written, and
how mounts propagate. Two declarations of the same volume have the same canonical form.
-/

namespace Shipshape

/-- Whether a volume can be written. -/
inductive Access where
  | readWrite
  | readOnly
  deriving DecidableEq, Repr, Ord

/-- The option of an access mode. -/
def Access.name : Access → String
  | .readWrite => "rw"
  | .readOnly => "ro"

/-- The access mode of a flag that allows writing. -/
def Access.ofWritable (writable : Bool) : Access :=
  if writable then .readWrite else .readOnly

/-- A volume in canonical form. -/
structure Volume where
  /-- A host path without trailing slashes, or the name of a volume. -/
  source : String
  /-- A path inside the container without trailing slashes. -/
  destination : String
  access : Access
  /-- The propagation without the mark for recursion; private propagation is empty. -/
  propagation : String
  deriving DecidableEq, Repr

namespace Volume

/-- Volumes are ordered by source, destination, access and propagation. -/
instance : Ord Volume where
  compare v w :=
    ((compare v.source w.source).then (compare v.destination w.destination)).then
      ((compare v.access w.access).then (compare v.propagation w.propagation))

/-- The mount of terminals that engines add on their own. -/
def isTerminalMount (v : Volume) : Bool :=
  v.destination == "/dev/pts" && (v.source == "" || v.source == "devpts")

/-- The volume as an entry `source:destination:options`. -/
def toBind (v : Volume) : String :=
  v.source ++ ":" ++ v.destination ++ ":" ++ v.access.name ++
    (if v.propagation == "" then "" else "," ++ v.propagation)

/-- The two ends of a volume, without access and propagation. -/
def path (v : Volume) : String × String :=
  (v.source, v.destination)

end Volume

/-- A mount as engines list it. -/
structure Mount where
  /-- The host path, or the path where a named volume is stored. -/
  source : String := ""
  destination : String := ""
  writable : Bool := true
  propagation : Option String := none
  /-- What is mounted: `bind`, `volume`, `devpts`, … -/
  kind : Option String := none
  /-- The name of a named volume. -/
  name : Option String := none
  deriving DecidableEq, Repr

/-- A declared volume, in one of its two forms. -/
inductive VolumeDeclaration where
  /-- An entry `source:destination[:options]`. -/
  | bind (entry : String)
  | mount (record : Mount)
  deriving DecidableEq, Repr

end Shipshape
