import Shipshape.Error
import Shipshape.Json.Decode
import Shipshape.Json.Printer
import Shipshape.Text.Blank
import Shipshape.Text.Pieces
import Shipshape.Volume.Basic

/-!
# The canonical form of a volume

Trailing slashes go; a path in the storage of named volumes becomes the name; propagation loses the mark
for recursion, and private propagation, the default, becomes empty. Blank entries and the terminal mount
that engines add on their own have no canonical form and take part in no comparison.
-/

namespace Shipshape

namespace Volume

/-- A path without trailing slashes; the root keeps its slash. -/
def dropTrailingSlashes (path : List Char) : List Char :=
  let kept := Text.dropEndWhile (· == '/') path
  if kept.isEmpty && path.head? = some '/' then ['/'] else kept

def storageStart : List Char := "/var/lib/containers/storage/volumes/".toList

def storageEnd : List Char := "/_data".toList

def storedName? (path : List Char) : Option (List Char) := do
  let name ← Text.dropEnd? storageEnd (← Text.dropStart? storageStart path)
  if name.isEmpty || name.contains '/' then none else some name

/-- Propagation without the mark for recursion; private propagation is empty. -/
def plainPropagation (mode : List Char) : List Char :=
  let mode := (Text.dropStart? ['r'] mode).getD mode
  if mode = "private".toList then [] else mode

/-- The canonical form of a volume with these parts. -/
def normal? (source destination : List Char) (access : Access) (propagation : List Char) :
    Option Volume :=
  let source := dropTrailingSlashes source
  let volume : Volume :=
    { source := .ofList ((storedName? source).getD source)
      destination := .ofList (dropTrailingSlashes destination)
      access
      propagation := .ofList (plainPropagation propagation) }
  if volume.isTerminalMount then none else some volume

def propagationModes : List String :=
  ["shared", "rshared", "slave", "rslave", "private", "rprivate"]

/-- The options of an entry: what stands between commas, and is not empty. -/
def options (cs : List Char) : List String :=
  ((cs.splitOnP (· == ',')).filter (!·.isEmpty)).map .ofList

def optionsAccess (options : List String) : Access :=
  .ofWritable (!options.contains "ro")

/-- The propagation among options; the last one counts. -/
def optionsPropagation (options : List String) : String :=
  (options.reverse.find? propagationModes.contains).getD ""

/-- The canonical form of an entry `source:destination[:options]`; `none` for a blank one and for the
terminal mount. -/
def ofBind (entry : String) : Except Error (Option Volume) :=
  let entry := Text.trimChars entry.toList
  if entry.isEmpty then .ok none
  else match Text.splitFirst? ':' entry with
    | none => .error (.malformedVolume (.ofList entry))
    | some (source, rest) =>
      let (destination, opts) := (Text.splitFirst? ':' rest).getD (rest, [])
      if destination.isEmpty then .error (.malformedVolume (.ofList entry))
      else
        let opts := options opts
        .ok (normal? source destination (optionsAccess opts) (optionsPropagation opts).toList)

/-- What a mount mounts: a named volume is known by its name, everything else by its source. -/
def mountSource (m : Mount) : String :=
  match m.kind, m.name with
  | some "volume", some name => if name == "" then m.source else name
  | _, _ => m.source

/-- The canonical form of a mount; `none` for terminals and for a mount without ends. -/
def ofMount? (m : Mount) : Option Volume :=
  if m.kind = some "devpts" then none
  else if m.source == "" && m.destination == "" then none
  else
    normal? (mountSource m).toList m.destination.toList (.ofWritable m.writable)
      (m.propagation.getD "").toList

def ofDeclared : VolumeDeclaration → Except Error (Option Volume)
  | .bind entry => ofBind entry
  | .mount record => .ok (ofMount? record)

def setOfDeclared (declared : List VolumeDeclaration) : Except Error (List Volume) := do
  let volumes ← declared.mapM ofDeclared
  return SortedSet.ofList volumes.reduceOption

end Volume

namespace Mount

def fieldNames : List String := ["Source", "Destination", "RW", "Propagation", "Type", "Name"]

def ofJson? (v : Json) : Option Mount := do
  let r ← v.record? fieldNames
  return {
    source := ← r.withDefault? "Source" "" Json.string?
    destination := ← r.withDefault? "Destination" "" Json.string?
    writable := ← r.withDefault? "RW" true Json.bool?
    propagation := ← r.optional? "Propagation" Json.string?
    kind := ← r.optional? "Type" Json.string?
    name := ← r.optional? "Name" Json.string? }

/-- The mount as a record; what is not set is left out. -/
def toJson (m : Mount) : Json :=
  let optional (k : String) (v : Option String) : List (String × Json) :=
    (v.map fun s => (k, Json.str s)).toList
  .ofFields ([("Source", .str m.source), ("Destination", .str m.destination), ("RW", .bool m.writable)] ++
    optional "Propagation" m.propagation ++ optional "Type" m.kind ++ optional "Name" m.name)

end Mount

namespace VolumeDeclaration

def ofJson? : Json → Option VolumeDeclaration
  | .str entry => some (.bind entry)
  | v => (Mount.ofJson? v).map .mount

/-- The declared volume in its own form. -/
def toJson : VolumeDeclaration → Json
  | .bind entry => .str entry
  | .mount record => record.toJson

end VolumeDeclaration

/-- The canonical form of a volume that an engine reports, as an entry or as a mount. -/
def Volume.ofLive : Json → Except Error (Option Volume)
  | .str entry => ofBind entry
  | .null => .ok none
  | .obj fields =>
    match Mount.ofJson? (.obj fields) with
    | some record => .ok (ofMount? record)
    | none => .error .unreadableMount
  | other => .error (.malformedVolume other.compact)

end Shipshape
