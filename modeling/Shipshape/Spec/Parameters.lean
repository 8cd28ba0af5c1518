import Shipshape.Json.Parser
import Shipshape.Spec.Basic
import Shipshape.Volume.Canonical
import Shipshape.Yaml.Document

/-!
# Parameter sets

A specification is read from a flat object of parameters. A parameter that is `null` is not given. The
object `common_options` fills in parameters that are not given, and `_specified_options` replaces the
names of the options that count as given.
-/

namespace Shipshape.Spec

def sharedKey : String := "common_options"

/-- The parameter with the names of the options that count as given. -/
def specifiedKey : String := "_specified_options"

/-- The entries that are not `null`. -/
def given (d : Dict Json) : Dict Json :=
  d.filter fun e => !e.2.isNull

def sharedOptions (params : Dict Json) : Except Error (Dict Json) :=
  match params.get? sharedKey with
  | some (.obj shared) => .ok (.ofList shared)
  | some .null | none => .ok ∅
  | some other =>
    .error (.invalidParameters (sharedKey ++ " must be a mapping, got " ++ other.compact))

/-- The names that replace those of the options that were given. -/
def specifiedNames? (params : Dict Json) : Option (List String) :=
  match params.get? specifiedKey with
  | some (.arr items) => some (SortedSet.ofList (items.filterMap Json.string?))
  | _ => none

/-- The parameters of the object itself. -/
def ownParameters (params : Dict Json) : Dict Json :=
  given ((params.erase sharedKey).erase specifiedKey)

/-- The given parameters, completed by the given shared options for the names that are missing. -/
def layered (own shared : Dict Json) : Dict Json :=
  own.insertAll (shared.filter fun e => !own.contains e.1).entries

/-- The names that count as given: of a shared option also its name among the shared ones. -/
def givenNames (own shared : Dict Json) : List String :=
  SortedSet.ofList (own.keys ++ shared.keys ++ shared.keys.map sharedName)

/-- Reads the fields of a specification. -/
def ofFields? (params : Dict Json) : Option Spec := do
  let r : Json.Record := params.get?
  let text? (k : String) : Option (Option String) := r.optional? k Json.string?
  let texts? (k : String) : Option (List String) := r.withDefault? k [] Json.stringList?
  let flag? (k : String) (default : Bool) : Option Bool := r.withDefault? k default Json.bool?
  return {
    name := ← text? "name"
    image := ← text? "image"
    command := ← text? "command"
    entrypoint := ← text? "entrypoint"
    environment := ← r.optional? "environment" EnvironmentDeclaration.ofJson?
    volumes := ← r.withDefault? "volumes" [] (Json.list? VolumeDeclaration.ofJson?)
    volumesFrom := ← texts? "volumes_from"
    tmpfs := ← texts? "tmpfs"
    capAdd := ← texts? "cap_add"
    securityOpt := ← texts? "security_opt"
    ipcMode := ← text? "ipc_mode"
    pidMode := ← text? "pid_mode"
    pid := ← text? "pid"
    cgroupnsMode := ← text? "cgroupns_mode"
    privileged := ← flag? "privileged" false
    labels := ← r.withDefault? "labels" ∅ Json.stringDict?
    dimensions := ← r.withDefault? "dimensions" ∅ Json.fields?
    healthcheck := ← r.optional? "healthcheck" Json.fields?
    restartPolicy := ← text? "restart_policy"
    restartRetries := ← r.optional? "restart_retries" Json.unsigned32?
    state := ← r.withDefault? "state" .running (Json.word? DesiredState.ofName?)
    user := ← text? "user"
    detach := ← flag? "detach" true
    start := ← flag? "start" true
    deferStart := ← flag? "defer_start" false
    wait := ← flag? "wait" false
    removeOnExit := ← flag? "remove_on_exit" true
    ignoreMissing := ← flag? "ignore_missing" false
    tty := ← flag? "tty" false
    gracefulTimeout := ← r.optional? "graceful_timeout" Json.unsigned?
    clientTimeout := ← r.optional? "client_timeout" Json.unsigned?
    engine := ← r.withDefault? "container_engine" .docker (Json.word? EngineKind.ofName?)
    restartViaSupervisor := ← flag? "restart_via_supervisor" false
    authUsername := ← text? "auth_username"
    authPassword := ← text? "auth_password"
    authRegistry := ← text? "auth_registry"
    tlsVerify := ← flag? "tls_verify" false
    configCheckCommand := ← r.optional? "config_check_command" Json.stringList? }

/-- Reads a specification from a parameter set. -/
def ofParameters (v : Json) : Except Error Spec :=
  match v.fields? with
  | some params => do
    let shared := given (← sharedOptions params)
    let own := ownParameters params
    match ofFields? (layered own shared) with
    | some s => return { s with specified := (specifiedNames? params).getD (givenNames own shared) }
    | none => throw .unreadableParameters
  | none => .error (.invalidParameters "parameter set must be a mapping")

/-- Reads a specification from a JSON document. -/
def ofJsonText (text : String) : Except Error Spec :=
  match Json.read? text with
  | some v => ofParameters v
  | none => .error .unreadableDocument

/-- Reads a specification from a YAML document. -/
def ofYamlText (text : String) : Except Error Spec :=
  match Yaml.read? text with
  | some v => ofParameters v
  | none => .error .unreadableDocument

/-- The specification with other names of options that count as given. -/
def withSpecified (s : Spec) (names : List String) : Spec :=
  { s with specified := SortedSet.ofList names }

/-- The parameters that differ from their defaults. -/
def parameters (s : Spec) : Dict Json :=
  let text (k : String) (v : Option String) : List (String × Json) :=
    (v.map fun t => (k, Json.str t)).toList
  let number (k : String) (v : Option Nat) : List (String × Json) :=
    (v.map fun n => (k, Json.int n)).toList
  let flag (k : String) (default v : Bool) : List (String × Json) :=
    if v = default then [] else [(k, .bool v)]
  let items (k : String) (v : List Json) : List (String × Json) :=
    if v.isEmpty then [] else [(k, .arr v)]
  let texts (k : String) (v : List String) : List (String × Json) := items k (v.map .str)
  let fields (k : String) (v : Dict Json) : List (String × Json) :=
    if v.isEmpty then [] else [(k, .ofDict v)]
  .ofList (
    text "name" s.name ++ text "image" s.image ++ text "command" s.command ++
    text "entrypoint" s.entrypoint ++
    (s.environment.map fun e => ("environment", e.toJson)).toList ++
    items "volumes" (s.volumes.map VolumeDeclaration.toJson) ++
    texts "volumes_from" s.volumesFrom ++ texts "tmpfs" s.tmpfs ++ texts "cap_add" s.capAdd ++
    texts "security_opt" s.securityOpt ++
    text "ipc_mode" s.ipcMode ++ text "pid_mode" s.pidMode ++ text "pid" s.pid ++
    text "cgroupns_mode" s.cgroupnsMode ++ flag "privileged" false s.privileged ++
    fields "labels" (s.labels.mapValues .str) ++ fields "dimensions" s.dimensions ++
    (s.healthcheck.map fun h => ("healthcheck", Json.ofDict h)).toList ++
    text "restart_policy" s.restartPolicy ++ number "restart_retries" s.restartRetries ++
    (if s.state = .running then [] else [("state", .str s.state.name)]) ++
    text "user" s.user ++ flag "detach" true s.detach ++ flag "start" true s.start ++
    flag "defer_start" false s.deferStart ++ flag "wait" false s.wait ++
    flag "remove_on_exit" true s.removeOnExit ++ flag "ignore_missing" false s.ignoreMissing ++
    flag "tty" false s.tty ++ number "graceful_timeout" s.gracefulTimeout ++
    number "client_timeout" s.clientTimeout ++
    (if s.engine = .docker then [] else [("container_engine", .str s.engine.name)]) ++
    flag "restart_via_supervisor" false s.restartViaSupervisor ++
    text "auth_username" s.authUsername ++ text "auth_password" s.authPassword ++
    text "auth_registry" s.authRegistry ++ flag "tls_verify" false s.tlsVerify ++
    (s.configCheckCommand.map fun c => ("config_check_command", Json.ofStrings c)).toList)

end Shipshape.Spec
