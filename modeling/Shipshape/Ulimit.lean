import Shipshape.Error
import Shipshape.Json.Decode
import Shipshape.Json.Printer
import Shipshape.Name

/-!
# Ulimits

Limits on the processes of a container. They are declared as an object from names to `soft` and `hard`,
and engines report a list of records; some use short names (`nofile`), others the names of the kernel
(`RLIMIT_NOFILE`).
-/

namespace Shipshape

/-- The soft and the hard value of a limit; `-1` is no limit. -/
structure LimitPair where
  soft : Int
  hard : Int
  deriving DecidableEq, Repr

/-- Limits by their canonical names. -/
abbrev Ulimits := Dict LimitPair

/-- A limit as engines list it. -/
structure UlimitRecord where
  name : String
  soft : Int
  hard : Int
  deriving DecidableEq, Repr

namespace UlimitRecord

def fieldNames : List String := ["Name", "Soft", "Hard"]

def ofJson? (v : Json) : Option UlimitRecord := do
  let r ← v.record? fieldNames
  return {
    name := ← r.required? "Name" Json.string?
    soft := ← r.required? "Soft" Json.signed?
    hard := ← r.required? "Hard" Json.signed? }

def toJson (r : UlimitRecord) : Json :=
  .ofFields [("Name", .str r.name), ("Soft", .int r.soft), ("Hard", .int r.hard)]

end UlimitRecord

namespace Ulimits

/-- The canonical form of a limit's name. -/
def canonicalName (name : String) : String := Name.canonical "rlimit_".toList name

/-- A value of a declared limit: a number, a text that is one, or `unlimited`. -/
def declaredValue (key : String) (v : Json) : Except Error Int :=
  let invalid : Except Error Int := .error (.dimensionValue key v.compact)
  match v with
  | .int n => if Decimal.isSigned n then .ok n else invalid
  | .str s =>
    if Text.lower s = "unlimited" then .ok (-1)
    else match Decimal.readSigned? (Text.trimChars s.toList) with
      | some n => .ok n
      | none => invalid
  | _ => invalid

/-- A declared limit; one of the two values stands for both. -/
def declaredPair (key : String) (limit : Json) : Except Error LimitPair := do
  let soft ← (limit.get? "soft").mapM (declaredValue key)
  let hard ← (limit.get? "hard").mapM (declaredValue key)
  match soft, hard with
  | some s, some h => return ⟨s, h⟩
  | some v, none | none, some v => return ⟨v, v⟩
  | none, none => throw (.dimensionValue key limit.compact)

def ofDeclared : Json → Except Error Ulimits
  | .null => .ok ∅
  | .obj limits => do
    let pairs ← limits.mapM fun e => do
      return (canonicalName e.1, ← declaredPair ("ulimits." ++ e.1) e.2)
    return .ofList pairs
  | other => .error (.dimensionValue "ulimits" other.compact)

/-- The limits that an engine reports; `null` is none. -/
def ofLive : Option Json → Except Error Ulimits
  | none | some .null => .ok ∅
  | some v =>
    match Json.list? UlimitRecord.ofJson? v with
    | some records => .ok (.ofList (records.map fun r => (canonicalName r.name, ⟨r.soft, r.hard⟩)))
    | none => .error .unreadableUlimits

/-- The limits that the host manages: a container has them without being asked. -/
def hostManaged : List String := ["nproc", "RLIMIT_NPROC"]

/-- The desired limits together with the live values of the limits that the host manages and that nobody
asked for. -/
def carryHostManaged (desired live : Ulimits) : Ulimits :=
  (hostManaged.map canonicalName).foldl
    (fun d name =>
      if d.contains name then d
      else match live.get? name with
        | some limit => d.insert name limit
        | none => d)
    desired

/-- The records that are handed to an engine. -/
def toRecords (limits : Ulimits) : List UlimitRecord :=
  limits.entries.map fun e => ⟨e.1, e.2.soft, e.2.hard⟩

end Ulimits

end Shipshape
