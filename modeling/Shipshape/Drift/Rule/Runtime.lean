import Shipshape.Dimension
import Shipshape.Drift.Comparison
import Shipshape.Healthcheck
import Shipshape.Text.Pieces
import Shipshape.Ulimit

/-!
# Rules on the running container

Environment, state, resource limits, healthcheck and restarts.
-/

namespace Shipshape.Comparison

/-! ## Environment -/

/-- The desired environment as far as it is compared: what asks for diagnostics is not. -/
def desiredEnvironment (c : Comparison) : Except Error (Dict String) := do
  let declared ← (c.spec.environment.map Environment.ofDeclared).getD (.ok ∅)
  return declared.erase Spec.debugKey

/-- A live entry; one without an equals sign is a name with an empty value. -/
def liveEntry (entry : String) : String × String :=
  (Environment.splitEntry? entry).getD (entry, "")

def liveEnvironment (c : Comparison) : Dict String :=
  .ofList ((c.live.configTexts "Env").map liveEntry)

/-- Whether a desired name has another value, or none, in the live container. -/
def environmentDiffers (c : Comparison) : Except Error Bool := do
  return (← c.desiredEnvironment).entries.any fun e => c.liveEnvironment.get? e.1 != some e.2

/-- Both sides' values of the desired names. -/
def environmentSnapshot (c : Comparison) : Snapshot :=
  let desired := c.desiredEnvironment.toOption.getD ∅
  ⟨.ofDict (desired.mapEntries fun k _ => .ofString? (c.liveEnvironment.get? k)), .ofStringDict desired⟩

/-! ## State -/

def stateMatches (desired : DesiredState) (status : String) : Bool :=
  match desired with
  | .running | .started => status == "running"
  | .exited => ["exited", "created", "configured"].contains status
  | .paused => status == "paused"

def stateDiffers (c : Comparison) : Bool :=
  !stateMatches c.spec.state (c.live.status?.getD "")

def stateSnapshot (c : Comparison) : Snapshot :=
  ⟨.ofString? c.live.status?, .str c.spec.state.name⟩

/-! ## Resource limits -/

/-- The live value of a limit, from `HostConfig` or from `Resources` inside it. -/
def liveDimension (c : Comparison) (field : String) : Json :=
  ((c.live.hostValue? field).or
    (((c.live.hostValue? "Resources").bind (·.get? field)).filter (!·.isNull))).getD .null

/-- Whether the ulimits differ; what the host manages counts only if it was declared. -/
def ulimitsDiffer (c : Comparison) (declared : Json) : Except Error Bool := do
  let desired ← Ulimits.ofDeclared declared
  let live ← Ulimits.ofLive (some (c.liveDimension "Ulimits"))
  return desired.carryHostManaged live != live

/-- Whether a limit differs. One that is not declared must not be set, ulimits apart. -/
def dimensionDiffers (c : Comparison) (key field : String) : Except Error Bool :=
  match c.spec.dimensions.get? key with
  | some declared =>
    if key = "ulimits" then c.ulimitsDiffer declared
    else Dimension.differ key declared (c.liveDimension field)
  | none => .ok (key != "ulimits" && !(c.liveDimension field).isUnset)

/-- Whether one of the limits differs; the limits behind the first one that does are not looked at. -/
def anyDimensionDiffers (c : Comparison) : List (String × String) → Except Error Bool
  | [] => .ok false
  | (key, field) :: rest => do
    if ← c.dimensionDiffers key field then return true
    c.anyDimensionDiffers rest

/-- Whether neither side sets a limit, ulimits apart on the live side. -/
def noDimensions (c : Comparison) : Bool :=
  Dimension.allUnset c.spec.dimensions.values &&
    Dimension.allUnset
      ((Dimension.hostFields.filter (·.1 != "ulimits")).map fun e => c.liveDimension e.2)

/-- Whether the resource limits differ. -/
def dimensionsDiffer (c : Comparison) : Except Error Bool :=
  if c.noDimensions then .ok false else c.anyDimensionDiffers Dimension.hostFields

/-- Both sides' limits: of the live ones those that are declared or set. -/
def dimensionsSnapshot (c : Comparison) : Snapshot :=
  let shown := Dimension.hostFields.filter fun e =>
    c.spec.dimensions.contains e.1 || !(c.liveDimension e.2).isUnset
  ⟨.ofFields (shown.map fun e => (e.1, c.liveDimension e.2)), .ofDict c.spec.dimensions⟩

/-! ## Healthcheck -/

def liveHealthcheck (c : Comparison) : Option Healthcheck :=
  Healthcheck.ofLive? (c.live.configValue? "Healthcheck")

def healthcheckDiffers (c : Comparison) : Except Error Bool := do
  return (← Healthcheck.ofDeclared c.spec.healthcheck) != c.liveHealthcheck

def shownHealthcheck (h : Option Healthcheck) : Json :=
  (h.map Healthcheck.toJson).getD .null

def healthcheckSnapshot (c : Comparison) : Snapshot :=
  ⟨shownHealthcheck c.liveHealthcheck,
    shownHealthcheck ((Healthcheck.ofDeclared c.spec.healthcheck).toOption.getD none)⟩

/-! ## Restarts -/

/-- Whether a live restart policy is the desired one. Not to restart is met by every policy that leaves a
stopped container alone; an empty live name is `no`. -/
def restartPolicyMatches (desired live : String) : Bool :=
  if desired == "no" || desired == "oneshot" then ["", "no", "unless-stopped"].contains live
  else desired == (if live == "" then "no" else live)

/-- The live restart policy: its name and its number of attempts. -/
def liveRestartPolicy (c : Comparison) : String × Nat :=
  let policy := (c.live.hostValue? "RestartPolicy").getD .null
  let attempts := match policy.get? "MaximumRetryCount" with
    | some (.int n) => n.toNat
    | _ => 0
  ((policy.getD "Name").plainText, attempts)

def restartPolicyDiffers (c : Comparison) : Bool :=
  if c.defaults.restartDelegated then false
  else match c.spec.restartPolicy with
    | none => false
    | some desired =>
      !restartPolicyMatches desired c.liveRestartPolicy.1 ||
        (desired == "on-failure" && c.spec.restartRetries.any (· != c.liveRestartPolicy.2))

def restartPolicySnapshot (c : Comparison) : Snapshot :=
  ⟨.ofFields [("name", .str c.liveRestartPolicy.1), ("retries", .int c.liveRestartPolicy.2)],
    .ofFields [("name", .ofString? c.spec.restartPolicy),
      ("retries", (c.spec.restartRetries.map fun n => Json.int n).getD .null)]⟩

end Shipshape.Comparison
