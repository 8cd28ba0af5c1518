import Shipshape.Create.Basic
import Shipshape.Name
import Shipshape.Volume.Canonical

/-!
# The request for a container

What is asked depends on the engine. Docker takes volumes as entries, creates what is missing for them on its own,
and takes care of restarts. Podman takes host paths and named volumes apart, has to be asked for one capability
that containers rely on, and leaves restarts to the service supervisor if that was asked for.
-/

namespace Shipshape.Create

namespace Docker

def request (s : Spec) : Except Error ContainerRequest := do
  let r ← base s
  let volumes ← s.volumes.mapM Volume.ofDeclared
  return { r with
    binds := volumes.reduceOption.map Volume.toBind
    restartPolicy := restartPolicy? s }

end Docker

namespace Podman

/-- Whether the service supervisor owns the container's restarts. -/
def supervised (s : Spec) : Bool :=
  s.restartViaSupervisor && s.restartPolicy != some "oneshot"

/-- A volume as Podman takes it. -/
inductive Storage where
  | mount (m : MountRequest)
  | named (v : NamedVolumeRequest)
  deriving DecidableEq, Repr

/-- The propagation of a mount for which none is declared. -/
def defaultPropagation : String := "rprivate"

def bindMount (source target : String) (readOnly : Bool) (propagation : Option String) : Storage :=
  .mount ⟨.bind, some source, target, readOnly, some (propagation.getD defaultPropagation)⟩

def terminalMount (target : String) : Storage :=
  .mount ⟨.devpts, none, target, false, none⟩

def options (cs : List Char) : List String :=
  (cs.splitOnP (· == ',')).map fun o => .ofList (Text.trimChars o)

def isPropagation (option : String) : Bool :=
  ["shared", "slave", "private"].any fun mode => mode.toList.isSuffixOf option.toList

def ofParts (source destination opts : List Char) : Storage :=
  let target := String.ofList destination
  if source.head? = some '/' then
    bindMount (.ofList source) target ((options opts).contains "ro") ((options opts).find? isPropagation)
  else if source = "devpts".toList then terminalMount target
  else .named ⟨.ofList source, target, if opts.isEmpty then "rw" else .ofList opts⟩

/-- The storage of an entry `source:destination[:options]`; an empty one is none. -/
def ofBind (entry : String) : Except Error (Option Storage) :=
  if entry == "" then .ok none
  else match Text.splitFirst? ':' entry.toList with
    | none => .error (.malformedVolume entry)
    | some (source, rest) =>
      let (destination, opts) := (Text.splitFirst? ':' rest).getD (rest, [])
      if destination.isEmpty then .error (.malformedVolume entry)
      else .ok (some (ofParts source destination opts))

/-- The storage of a mount; one without a source is none. -/
def ofMount? (m : Mount) : Option Storage :=
  let mode := (Access.ofWritable m.writable).name
  match m.kind.getD "bind", m.name.filter (· != "") with
  | "volume", some name => some (.named ⟨name, m.destination, mode⟩)
  | kind, _ =>
    if kind == "devpts" || m.source == "devpts" then some (terminalMount m.destination)
    else if m.source.toList.head? = some '/' then
      some (bindMount m.source m.destination (!m.writable) (m.propagation.filter (· != "")))
    else if m.source != "" then some (.named ⟨m.source, m.destination, mode⟩)
    else none

def ofDeclared : VolumeDeclaration → Except Error (Option Storage)
  | .bind entry => ofBind entry
  | .mount record => .ok (ofMount? record)

def storage (declared : List VolumeDeclaration) : Except Error (List Storage) := do
  return (← declared.mapM ofDeclared).reduceOption

/-- A name with every ASCII letter in upper case. -/
def upper (s : String) : String := .ofList (s.toList.map Char.toUpper)

def kernelUlimit (r : UlimitRecord) : UlimitRecord :=
  { r with name := "RLIMIT_" ++ upper r.name }

/-- The capability that containers rely on. -/
def auditCapability : String := "AUDIT_WRITE"

/-- The requested capabilities: also the one that containers rely on, unless it is requested already or the
container is privileged. -/
def capabilities (s : Spec) : List String :=
  let known := Capability.canonicalSet s.capAdd
  if s.privileged || (Capability.canonicalSet [auditCapability]).all known.contains then s.capAdd
  else s.capAdd ++ [auditCapability]

def request (s : Spec) : Except Error ContainerRequest := do
  let r ← base s
  let storage ← storage s.volumes
  return { r with
    ulimits := r.ulimits.map kernelUlimit
    mounts := storage.filterMap fun
      | .mount m => some m
      | .named _ => none
    volumes := storage.filterMap fun
      | .named v => some v
      | .mount _ => none
    restartPolicy := if supervised s then none else restartPolicy? s
    capAdd := capabilities s }

end Podman

/-- The request to the engine of a specification. -/
def request (s : Spec) : Except Error ContainerRequest :=
  match s.engine with
  | .docker => Docker.request s
  | .podman => Podman.request s

end Shipshape.Create
