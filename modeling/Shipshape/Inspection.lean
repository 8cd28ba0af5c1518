import Shipshape.Json.Decode
import Shipshape.Json.Printer

/-!
# What an engine reports

Engines report the same configuration of a container in different layouts: a field that is not set is missing or
`null` or empty, and some fields move between sections. These views take such differences away, so that a
comparison only sees values.
-/

namespace Shipshape

/-! ## Containers -/

/-- The document in which an engine describes a container. -/
structure Inspection where
  document : Json

namespace Inspection

/-- A section of the document; a missing one is empty. -/
def sectionOf (i : Inspection) (name : String) : Dict Json :=
  (i.document.getD name).fields

/-- A field at the top of the document that is set. -/
def field? (i : Inspection) (key : String) : Option Json :=
  (i.document.get? key).filter (!·.isNull)

/-- The section on the process and its image. -/
def config (i : Inspection) : Dict Json := i.sectionOf "Config"

def hostConfig (i : Inspection) : Dict Json := i.sectionOf "HostConfig"

def state (i : Inspection) : Dict Json := i.sectionOf "State"

/-- The host's section together with the one nested in `Config`, whose fields win. -/
def mergedHostConfig (i : Inspection) : Dict Json :=
  i.hostConfig.insertAll ((i.config.get? "HostConfig").getD .null).fields.entries

/-- A field of `Config` that is set. -/
def configValue? (i : Inspection) (key : String) : Option Json :=
  (i.config.get? key).filter (!·.isNull)

/-- A field of `HostConfig` that is set. -/
def hostValue? (i : Inspection) (key : String) : Option Json :=
  (i.hostConfig.get? key).filter (!·.isNull)

/-- A text of `HostConfig`; an empty one is not set. -/
def hostText? (i : Inspection) (key : String) : Option String :=
  ((i.hostValue? key).bind Json.string?).filter (· != "")

/-- The texts of a list of `HostConfig`; a missing list is empty. -/
def hostTexts (i : Inspection) (key : String) : List String :=
  ((i.hostValue? key).getD .null).plainTexts

/-- The texts of a list of `Config`; a missing list is empty. -/
def configTexts (i : Inspection) (key : String) : List String :=
  ((i.configValue? key).getD .null).plainTexts

def mounts (i : Inspection) : List Json :=
  ((i.field? "Mounts").getD .null).items

/-- The status: `running`, `created`, `exited`, … -/
def status? (i : Inspection) : Option String :=
  (i.state.get? "Status").bind Json.string?

/-- The health; a container without a healthcheck has none. -/
def health? (i : Inspection) : Option String :=
  ((i.state.get? "Health").bind (·.get? "Status")).bind Json.string?

def isRunning (i : Inspection) : Bool :=
  i.status? == some "running"

/-- The image that the container was created from. -/
def imageId? (i : Inspection) : Option String :=
  (i.field? "Image").bind Json.string?

/-- The executable of the main process. -/
def path? (i : Inspection) : Option String :=
  (i.field? "Path").bind Json.string?

/-- The arguments of the main process. -/
def arguments (i : Inspection) : List String :=
  ((i.field? "Args").getD .null).plainTexts

def labels (i : Inspection) : Dict String :=
  ((i.configValue? "Labels").getD .null).plainTextDict

end Inspection

/-! ## Images -/

/-- What is known about a local image. -/
structure Image where
  id : String
  labels : Dict String := ∅
  entrypoint : List String := []
  command : List String := []
  deriving DecidableEq, Repr

namespace Image

def fieldNames : List String := ["Id", "Labels", "Entrypoint", "Cmd"]

/-- Reads an image; lists that engines report as `null` are empty. -/
def ofJson? (v : Json) : Option Image := do
  let r ← v.record? fieldNames
  return {
    id := ← r.required? "Id" Json.string?
    labels := (← r.optional? "Labels" Json.stringDict?).getD ∅
    entrypoint := (← r.optional? "Entrypoint" Json.stringList?).getD []
    command := (← r.optional? "Cmd" Json.stringList?).getD [] }

def toJson (i : Image) : Json :=
  .ofFields [("Id", .str i.id), ("Labels", .ofStringDict i.labels),
    ("Entrypoint", .ofStrings i.entrypoint), ("Cmd", .ofStrings i.command)]

end Image

end Shipshape
