import Shipshape.Memory.World

/-!
# Scenarios

The state of a world in memory, and changes to it, as documents. A field that is missing leaves its part of
the world as it is; a field that does not exist makes the document invalid, and the fields after it are not
applied.
-/

namespace Shipshape

/-- Reads a fault: an object with an explanation, and a status if there is one. -/
def Fault.ofJson? (v : Json) : Option Fault := do
  let r := fun k => v.get? k
  return {
    status := ← Json.Record.optional? r "status" Json.unsigned16?
    explanation := ← Json.Record.required? r "explanation" Json.string? }

/-- Reads the result of a command. -/
def ExecResult.ofJson? (v : Json) : Option ExecResult := do
  let r ← Json.record? ["exit_code", "output"] v
  return {
    exitCode := ← Json.Record.required? r "exit_code" Json.signed?
    output := ← Json.Record.required? r "output" Json.string? }

/-- Reads what becomes of a command: what has an explanation is a fault. -/
def ExecResult.orFault? (v : Json) : Option (Except Fault ExecResult) :=
  if (v.get? "explanation").isSome then (Fault.ofJson? v).map .error
  else (ExecResult.ofJson? v).map .ok

namespace World

/-- The containers with some of them changed; `null` removes one. -/
def mergeContainers (present : Dict Json) (changes : Dict Json) : Dict Json :=
  changes.entries.foldl
    (fun d e => if e.2.isNull then d.erase e.1 else d.insert e.1 e.2) present

def setField? (w : World) (key : String) (v : Json) : Option World :=
  let engine (change : MemoryEngine → MemoryEngine) : World := { w with engine := change w.engine }
  match key with
  | "containers" => v.fields?.map fun d =>
    engine fun m => { m with containers := mergeContainers m.containers d }
  | "images" => (v.dict? Image.ofJson?).map fun d => engine ({ · with images := d })
  | "registry" => (v.dict? Image.ofJson?).map fun d => engine ({ · with registry := d })
  | "volumes" => (v.dict? VolumeRecord.ofJson?).map fun d => engine ({ · with volumes := d })
  | "failing_starts" => v.unsigned?.map fun n => engine ({ · with failingStarts := n })
  | "ignored_starts" => v.unsigned?.map fun n => engine ({ · with ignoredStarts := n })
  | "polls_until_healthy" => v.unsigned?.map fun n => engine ({ · with pollsUntilHealthy := n })
  | "health_on_start" =>
    (v.nullable? Json.string?).map fun h => engine ({ · with healthOnStart := h })
  | "in_use" => v.stringList?.map fun l => engine ({ · with inUse := l })
  | "logs" => v.stringList?.map fun l => engine ({ · with logs := l })
  | "exit_code" => v.signed?.map fun n => engine ({ · with exitCode := n })
  | "exec" => (v.list? ExecResult.orFault?).map fun l => engine ({ · with execResults := l })
  | "fail" => (v.dict? (Json.list? (Json.nullable? Fault.ofJson?))).map fun d => { w with faults := d }
  | _ => none

/-- Applies fields one after the other, up to the first that is invalid: whether there was none, and the world
then. -/
def setFields (w : World) : List (String × Json) → Bool × World
  | [] => (true, w)
  | (key, v) :: fields =>
    match w.setField? key v with
    | some w => w.setFields fields
    | none => (false, w)

/-- Applies a scenario: whether it is valid, and the world afterwards. What stands before an invalid field stays
applied. -/
def update (w : World) (scenario : Json) : Bool × World :=
  match scenario.fields? with
  | some fields => w.setFields fields.entries
  | none => (false, w)

/-- The status and the health of every container. -/
def containerStates (w : World) : Json :=
  .ofDict (w.engine.containers.mapValues fun document =>
    let i : Inspection := ⟨document⟩
    .arr [.ofString? i.status?, .ofString? i.health?])

end World

/-- A call as a list: its name and what it is about. -/
def Call.toJson : Call → Json
  | .engine c => .arr (.str c.name :: c.arguments)
  | .unit c name => .arr [.str ("unit." ++ c.name), .str name]
  | .hostPath path => .arr [.str "host_path", .str path]

/-- Whether a call goes to the engine or to the supervisor. -/
def Call.isRemote : Call → Bool
  | .engine _ | .unit .. => true
  | .hostPath _ => false

end Shipshape
