import Shipshape.Inspection
import Shipshape.Memory.Document
import Shipshape.Proofs.Create.Resources
import Shipshape.Proofs.Json

/-!
# What the document of a new container says

Each view of the document that describes a container just created (`Memory.describe`), in terms of the
request for it. The limits stand beside the other fields of the host's side and hide none of them
(`OnlyLimits`).

Proof outline. A record that is made from a list of fields holds the last field of each name
(`get?_ofFields`), which for the fixed names of a document is a computation. `get?_hostSection` leaves the
limits aside.
-/

namespace Shipshape

namespace Memory

def view (r : ContainerRequest) (image : Option Image) : Inspection := ⟨describe r image⟩

variable {r : ContainerRequest} {image : Option Image}

theorem view_status : (view r image).status? = some "created" := by
  rw [Inspection.status?, Inspection.state, Inspection.sectionOf, view, describe, Json.getD_ofFields]
  rfl

theorem view_imageId : (view r image).imageId? = some ((image.map (·.id)).getD "") := by
  rw [Inspection.imageId?, Inspection.field?, view, describe, Json.get?_ofFields]
  rfl

theorem view_path : (view r image).path? = (processWords r image).head? := by
  rw [Inspection.path?, Inspection.field?, view, describe, Json.get?_ofFields]
  cases processWords r image with
  | nil => rfl
  | cons word words => rfl

theorem view_arguments : (view r image).arguments = (processWords r image).tail := by
  rw [Inspection.arguments, Inspection.field?, view, describe, Json.get?_ofFields]
  exact Json.plainTexts_ofStrings _

theorem view_mounts :
    (view r image).mounts = r.mounts.map reportedMount ++ r.volumes.map reportedVolume := by
  rw [Inspection.mounts, Inspection.field?, view, describe, Json.get?_ofFields]
  rfl

/-! ### The section on the process -/

theorem view_config (k : String) : (view r image).config.get? k = (configSection r).get? k := by
  rw [Inspection.config, Inspection.sectionOf, view, describe, Json.getD_ofFields]
  rfl

theorem view_configImage : (view r image).configValue? "Image" = some (.str r.image) := by
  rw [Inspection.configValue?, view_config, configSection, Json.get?_ofFields]
  rfl

theorem view_configUser : (view r image).config.get? "User" = some (.str (r.user.getD "")) := by
  rw [view_config, configSection, Json.get?_ofFields]
  rfl

theorem view_configHealthcheck :
    (view r image).configValue? "Healthcheck" = r.healthcheck.map Healthcheck.toJson := by
  rw [Inspection.configValue?, view_config, configSection, Json.get?_ofFields]
  cases r.healthcheck with
  | none => rfl
  | some h => rfl

theorem view_labels : (view r image).labels = r.labels := by
  rw [Inspection.labels, Inspection.configValue?, view_config, configSection, Json.get?_ofFields]
  exact Json.plainTextDict_ofStringDict _

theorem view_env :
    (view r image).configTexts "Env" = r.environment.entries.map fun e => e.1 ++ "=" ++ e.2 := by
  rw [Inspection.configTexts, Inspection.configValue?, view_config, configSection, Json.get?_ofFields]
  exact Json.plainTexts_ofStrings _

theorem view_nestedHostConfig : (view r image).config.get? "HostConfig" = none := by
  rw [view_config, configSection, Json.get?_ofFields]
  rfl

/-! ### The section on the host's side -/

theorem view_hostConfig : (view r image).hostConfig = hostSection r := by
  rw [Inspection.hostConfig, Inspection.sectionOf, view, describe, Json.getD_ofFields]
  exact Json.fields_ofDict _

/-- The fields of the host's side that every request has. -/
def commonFields (r : ContainerRequest) : List (String × Json) :=
  [("Binds", .ofStrings r.binds),
    ("CapAdd", .ofStrings r.capAdd),
    ("SecurityOpt", .ofStrings r.securityOpt),
    ("Privileged", .bool r.privileged),
    ("VolumesFrom", .ofStrings r.volumesFrom),
    ("Tmpfs", .ofFields (r.tmpfs.map tmpfsField)),
    ("IpcMode", .ofString? r.ipcMode),
    ("PidMode", .ofString? r.pidMode),
    ("CgroupnsMode", .ofString? r.cgroupnsMode),
    ("NetworkMode", .ofString? r.networkMode),
    ("RestartPolicy", (r.restartPolicy.getD ⟨"", 0⟩).toJson),
    ("Ulimits", .arr (r.ulimits.map UlimitRecord.toJson))]

theorem get?_hostSection (k : String) : (hostSection r).get? k =
    (r.resources.get? k).or ((commonFields r).reverse.lookup k) := by
  rw [hostSection, Dict.get?_insertAll_entries]
  exact congrArg _ (Dict.get?_ofList _ _)

theorem get?_hostSection_of_common {s : Spec} (hr : Create.resources s = .ok r.resources) {k : String}
    (hk : k ∉ Create.limitFields.map Prod.snd) :
    (hostSection r).get? k = (commonFields r).reverse.lookup k := by
  have hnone : r.resources.get? k = none :=
    Dict.get?_eq_none_iff.2 fun hmem => hk (Create.mem_limitFields_of_resources hr hmem)
  rw [get?_hostSection, hnone]
  rfl

theorem get?_hostSection_of_limit {k : String} (hk : k ∈ Create.limitFields.map Prod.snd) :
    (hostSection r).get? k = r.resources.get? k := by
  have hnot : ∀ k ∈ Create.limitFields.map Prod.snd,
      k ∉ ["Ulimits", "RestartPolicy", "NetworkMode", "CgroupnsMode", "PidMode", "IpcMode", "Tmpfs",
        "VolumesFrom", "Privileged", "SecurityOpt", "CapAdd", "Binds"] := by decide
  have hnone : (commonFields r).reverse.lookup k = none := Dict.lookup_eq_none_iff.2 (hnot k hk)
  rw [get?_hostSection, hnone, Option.or_none]

section host

variable {s : Spec} (hr : Create.resources s = .ok r.resources)

include hr

theorem view_hostValue {k : String} (hk : k ∉ Create.limitFields.map Prod.snd) :
    (view r image).hostValue? k = ((commonFields r).reverse.lookup k).filter (!·.isNull) := by
  rw [Inspection.hostValue?, view_hostConfig, get?_hostSection_of_common hr hk]

theorem view_hostTexts {k : String} {l : List String} (hk : k ∉ Create.limitFields.map Prod.snd)
    (hl : (commonFields r).reverse.lookup k = some (.ofStrings l)) :
    (view r image).hostTexts k = l := by
  rw [Inspection.hostTexts, view_hostValue hr hk, hl]
  exact Json.plainTexts_ofStrings l

end host

theorem view_mergedHostConfig : (view r image).mergedHostConfig = hostSection r := by
  have hfields : ((none : Option Json).getD .null).fields = ∅ := rfl
  rw [Inspection.mergedHostConfig, view_nestedHostConfig, view_hostConfig, hfields,
    Dict.entries_empty, Dict.insertAll, List.foldl_nil]

end Memory

end Shipshape
