import Shipshape.Json.Basic

/-!
# Outcomes

What an invocation hands back: whether it changed anything, and what its reader may want to know.
-/

namespace Shipshape

/-- How the starts of an invocation went. -/
structure StartReport where
  attempted : Bool := false
  /-- 0 if every start succeeded, 1 if one failed. -/
  code : Option Int := none
  /-- What the last failed start said. -/
  error : String := ""
  deriving DecidableEq, Repr

namespace StartReport

def succeeded (r : StartReport) : StartReport :=
  { r with attempted := true, code := some 0 }

/-- A start succeeded while the container was waited for; an earlier failure stays. -/
def selfStarted (r : StartReport) : StartReport :=
  { r with attempted := true, code := some (r.code.getD 0) }

def failed (r : StartReport) (reason : String) : StartReport :=
  { r with attempted := true, code := some 1, error := reason }

/-- The report as a record; what is not set is left out. -/
def toJson (r : StartReport) : Json :=
  .ofFields ([("attempted", .bool r.attempted)] ++ (r.code.map fun n => ("rc", Json.int n)).toList ++
    if r.error == "" then [] else [("stderr", .str r.error)])

end StartReport

/-- What an invocation hands back. -/
structure Outcome where
  changed : Bool := false
  /-- What an action was asked for, such as the attributes of a volume. -/
  result : Option Json := none
  /-- The diff of what differs. -/
  diff : Option String := none
  debug : List String := []
  needsRecreate : Bool := false
  recreateReasons : List String := []
  start : StartReport := {}
  /-- The exit code of a container that was run to its end. -/
  exitCode : Option Int := none
  stdout : Option String := none
  stderr : Option String := none

namespace Outcome

/-- The name under which the containers that changed are collected. -/
def changedContainersKey : String := "changed_containers"

/-- The outcome as a record; what is not set is left out. -/
def toJson (o : Outcome) : Json :=
  let text (k : String) (v : Option String) : List (String × Json) :=
    (v.map fun t => (k, Json.str t)).toList
  let texts (k : String) (v : List String) : List (String × Json) :=
    if v.isEmpty then [] else [(k, .ofStrings v)]
  .ofFields (
    [("changed", .bool o.changed)] ++ (o.result.map fun v => ("result", v)).toList ++
    text "diff" o.diff ++ texts "debug" o.debug ++
    (if o.needsRecreate then [("needs_recreate", .bool true)] else []) ++
    texts "recreate_reasons" o.recreateReasons ++
    (if o.start = {} then [] else [("start", o.start.toJson)]) ++
    (o.exitCode.map fun n => ("rc", Json.int n)).toList ++
    text "stdout" o.stdout ++ text "stderr" o.stderr)

/-- A name with underscores in place of hyphens. -/
def factName (name : String) : String :=
  .ofList (name.toList.map fun c => if c = '-' then '_' else c)

/-- Adds a container to the list of those that changed, once. -/
def addChanged (facts : Dict Json) (name : String) : Dict Json :=
  let known := match facts.get? changedContainersKey with
    | some (.arr items) => items
    | _ => []
  let name : Json := .str (factName name)
  let items := if known.any name.same then known else known ++ [name]
  facts.insert changedContainersKey (.arr items)

/-- Adds the container to the list of those that changed, if this outcome changed it. -/
def recordIn (o : Outcome) (facts : Dict Json) (name : String) : Dict Json :=
  if o.changed then addChanged facts name else facts

end Outcome

end Shipshape
