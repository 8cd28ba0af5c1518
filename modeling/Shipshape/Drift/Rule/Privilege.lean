import Shipshape.Drift.Comparison
import Shipshape.Name

/-!
# Rules on privileges

Capabilities, security options, namespaces, privileged containers, and the user.
-/

namespace Shipshape.Comparison

/-! ## Capabilities -/

def liveCapabilities (c : Comparison) : List String :=
  c.live.hostTexts "CapAdd"

/-- Whether other capabilities are added than the desired ones. -/
def capAddDiffers (c : Comparison) : Bool :=
  !Capability.equivalent c.spec.capAdd c.liveCapabilities c.defaults.capabilities

def capAddSnapshot (c : Comparison) : Snapshot :=
  ⟨.ofStrings (Capability.canonicalSet c.liveCapabilities),
    .ofStrings (Capability.canonicalSet c.spec.capAdd)⟩

/-! ## Security options -/

/-- Whether the engine turns security options off by itself: in the host's namespaces, and for privileged
containers. -/
def securityOptOff (c : Comparison) : Bool :=
  c.spec.ipcMode == some "host" || c.spec.desiredPidMode == some "host" || c.spec.privileged

/-- The live security options, without those that the engine adds when none are asked for. -/
def liveSecurityOpt (c : Comparison) : List String :=
  let live := c.live.hostTexts "SecurityOpt"
  sortedTexts
    (if c.spec.securityOpt.isEmpty then live.filter fun o => !c.defaults.securityOptions.contains o
      else live)

def securityOptDiffers (c : Comparison) : Bool :=
  !c.securityOptOff && sortedTexts c.spec.securityOpt != c.liveSecurityOpt

/-- Both sides' security options. -/
def securityOptSnapshot (c : Comparison) : Snapshot :=
  ⟨.ofStrings c.liveSecurityOpt, .ofStrings (sortedTexts c.spec.securityOpt)⟩

/-! ## Namespaces -/

def ipcModeDiffers (c : Comparison) : Bool :=
  match c.spec.ipcMode with
  | none => false
  | some mode => (some mode).filter (· != "") != c.live.hostText? "IpcMode"

/-- Both sides' mode of the namespace for communication. -/
def ipcModeSnapshot (c : Comparison) : Snapshot :=
  ⟨.ofString? (c.live.hostText? "IpcMode"), .ofString? c.spec.ipcMode⟩

/-- The fields in which engines report the mode of the process namespace. -/
def pidModeFields : List String := ["PidMode", "PidNS", "Pidns", "pidns", "mode", "value"]

/-- The fields of such a field, if it is an object. -/
def pidModeInnerFields : List String := ["nsmode", "mode", "value"]

def firstSet? (d : Dict Json) (fields : List String) : Option Json :=
  fields.findSome? fun k => (d.get? k).filter (!·.isUnset)

/-- What the engine reports about the process namespace. -/
def livePidMode? (c : Comparison) : Option Json :=
  firstSet? c.live.mergedHostConfig pidModeFields

/-- The mode of a process namespace; `private` is the default. -/
def pidModeText (v : Option Json) : String :=
  let v := match v with
    | some (.obj inner) => firstSet? (.ofList inner) pidModeInnerFields
    | v => v
  match v.map Json.plainText with
  | none | some "" => "private"
  | some mode => mode

def desiredPidModeText (c : Comparison) : String :=
  pidModeText (c.spec.desiredPidMode.map .str)

/-- Whether the mode of the process namespace differs; it counts only if it was given. -/
def pidModeDiffers (c : Comparison) : Bool :=
  c.spec.anySpecified ["pid_mode", "pid"] && c.desiredPidModeText != pidModeText c.livePidMode?

/-- Both sides' mode of the process namespace. -/
def pidModeSnapshot (c : Comparison) : Snapshot :=
  ⟨.str (pidModeText c.livePidMode?), .str c.desiredPidModeText⟩

/-- The live mode of the namespace for control groups; `host` is the default. -/
def liveCgroupnsMode (c : Comparison) : String :=
  ((c.live.hostText? "CgroupnsMode").or (c.live.hostText? "CgroupMode")).getD "host"

/-- Whether the mode of the namespace for control groups differs. -/
def cgroupnsModeDiffers (c : Comparison) : Bool :=
  match c.spec.cgroupnsMode with
  | none => false
  | some mode => mode != c.liveCgroupnsMode

/-- Both sides' mode of the namespace for control groups. -/
def cgroupnsModeSnapshot (c : Comparison) : Snapshot :=
  ⟨.str c.liveCgroupnsMode, .ofString? c.spec.cgroupnsMode⟩

/-! ## Privileges and user -/

def livePrivileged (c : Comparison) : Bool :=
  ((c.live.hostValue? "Privileged").bind Json.bool?).getD false

/-- Whether exactly one side is privileged. -/
def privilegedDiffers (c : Comparison) : Bool :=
  c.spec.privileged != c.livePrivileged

def privilegedSnapshot (c : Comparison) : Snapshot :=
  ⟨.bool c.livePrivileged, .bool c.spec.privileged⟩

def liveUser (c : Comparison) : String :=
  User.canonical ((c.live.configValue? "User").bind Json.string?)

/-- Whether the user differs; it counts only if it was given. -/
def userDiffers (c : Comparison) : Bool :=
  c.spec.isSpecified "user" && User.canonical c.spec.user != c.liveUser

def userSnapshot (c : Comparison) : Snapshot :=
  ⟨.str c.liveUser, .str (User.canonical c.spec.user)⟩

end Shipshape.Comparison
