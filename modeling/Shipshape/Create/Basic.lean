import Shipshape.CommandLine
import Shipshape.Dimension
import Shipshape.Engine.Request
import Shipshape.Spec.Action
import Shipshape.Text.Pieces

/-!
# From a specification to a request

What every engine is asked for: an image by its reference, which names a repository and a tag, and a container,
apart from storage and restarts.
-/

namespace Shipshape.Create

/-! ### Images -/

/-- The repository and the tag of a reference. A colon before a slash belongs to the address of a registry;
without a tag it is `latest`. -/
def splitReference (reference : String) : String × String :=
  match Text.splitLast? ':' reference.toList with
  | some (repository, tag) =>
    if tag.contains '/' then (reference, "latest") else (.ofList repository, .ofList tag)
  | none => (reference, "latest")

/-- The repository with the registry in front that a specification names for repositories without a slash. -/
def qualified (s : Spec) (repository : String) : String :=
  match s.authRegistry.filter (· != "") with
  | some registry => if repository.toList.contains '/' then repository else registry ++ "/" ++ repository
  | none => repository

def pullRequest (s : Spec) (reference : String) : PullRequest :=
  let (repository, tag) := splitReference reference
  { repository := qualified s repository
    tag
    auth := (s.authUsername.filter (· != "")).map fun username => ⟨username, s.authPassword.getD ""⟩
    tlsVerify := s.tlsVerify }

/-! ### Containers -/

/-- The restart policy as engines know it; a container that runs once is not restarted. -/
def restartPolicy? (s : Spec) : Option RestartPolicy :=
  (s.restartPolicy.filter (· != "")).map fun declared =>
    let name := if declared == "oneshot" then "no" else declared
    ⟨name, if name == "on-failure" then s.restartRetries.getD 0 else 0⟩

/-- The name in the environment that tells a container what it is. -/
def serviceNameKey : String := "SERVICE_NAME"

/-- A container's name as the name of a service: with hyphens in place of underscores. -/
def serviceName (name : String) : String :=
  .ofList (name.toList.map fun c => if c = '_' then '-' else c)

def environment (s : Spec) (name : String) : Except Error (Dict String) := do
  let declared ← (s.environment.map Environment.ofDeclared).getD (.ok ∅)
  return declared.insert serviceNameKey (serviceName name)

/-- The value of a limit: a number if its canonical text is one. -/
def resourceValue (text : String) : Json :=
  match Decimal.readSigned? text.toList with
  | some n => .int n
  | none => .str text

/-- A declared limit with the engine's field for it. -/
def resource? (s : Spec) (key field : String) : Except Error (Option (String × Json)) :=
  match s.dimensions.get? key with
  | none => .ok none
  | some v => do return some (field, resourceValue (← Dimension.canonicalText key v))

/-- The declared limits by the engine's fields, ulimits apart. -/
def resources (s : Spec) : Except Error (Dict Json) := do
  let declared ← (Dimension.hostFields.filter (·.1 != "ulimits")).mapM fun e => resource? s e.1 e.2
  return .ofList declared.reduceOption

def ulimits (s : Spec) : Except Error (List UlimitRecord) :=
  match s.dimensions.get? "ulimits" with
  | none => .ok []
  | some v => do return (← Ulimits.ofDeclared v).toRecords

/-- A command line in words, if there is one. -/
def words? (line : Option String) : Except Error (Option (List String)) :=
  line.mapM CommandLine.split

/-- The request for a container, apart from storage and restarts. -/
def base (s : Spec) : Except Error ContainerRequest := do
  let name ← s.requireName .startContainer
  let image ← s.requireImage .startContainer
  let ulimits ← ulimits s
  let command ← words? s.command
  let entrypoint ← words? s.entrypoint
  let environment ← environment s name
  let healthcheck ← Healthcheck.ofDeclared s.healthcheck
  let resources ← resources s
  return {
    name, image, command, entrypoint, environment, healthcheck, ulimits, resources
    labels := s.labels
    volumesFrom := s.volumesFrom
    tmpfs := s.tmpfs.filter (· != "")
    capAdd := s.capAdd
    securityOpt := s.securityOpt
    ipcMode := s.ipcMode.filter (· != "")
    pidMode := s.desiredPidMode
    cgroupnsMode := s.cgroupnsMode
    privileged := s.privileged
    networkMode := some "host"
    user := s.user.filter (· != "")
    tty := s.tty
    stopTimeout := some s.gracefulSeconds }

end Shipshape.Create
