import Shipshape.Error
import Shipshape.Json.Printer
import Shipshape.Text.Blank

/-!
# Healthchecks

A healthcheck is declared in seconds and reported in nanoseconds. The test `NONE` turns it off, which is
the same as having none.
-/

namespace Shipshape

/-- A healthcheck in canonical form; its durations are in nanoseconds. -/
structure Healthcheck where
  test : List String
  interval : Nat
  timeout : Nat
  startPeriod : Nat
  retries : Nat
  deriving DecidableEq, Repr

namespace Healthcheck

/-- The options of a declared healthcheck, all of which must be given. -/
def optionNames : List String := ["test", "interval", "timeout", "start_period", "retries"]

/-- The test that turns a healthcheck off. -/
def disabled : String := "NONE"

def nanosPerSecond : Nat := 1000000000

/-- The declared value of an option is no number. -/
def notInteger (key : String) (v : Json) : Error :=
  .healthcheckValue key "an integer" v.compact

/-- A declared number: a fraction is cut off, and a number that is too large becomes the largest one. -/
def declaredNumber (key : String) (v : Json) : Except Error Nat :=
  let number? : Option Nat := match v with
    | .int n => if 0 ≤ n then some n.toNat else none
    | .float x =>
      if x.negative && !x.isZero then none
      else some (min x.truncate.toNat (Decimal.unsignedLimit - 1))
    | .str s => Decimal.readUnsigned? (Text.trimChars s.toList)
    | _ => none
  match number? with
  | some n => .ok n
  | none => .error (notInteger key v)

def declaredDuration (key : String) (v : Json) : Except Error Nat := do
  let seconds ← declaredNumber key v
  if seconds * nanosPerSecond < Decimal.unsignedLimit then return seconds * nanosPerSecond
  else throw (notInteger key v)

/-- A declared test; none if it turns the healthcheck off. -/
def declaredTest? : Json → Option (List String)
  | .arr items =>
    let words := items.map Json.plainText
    if words = [disabled] then none else some words
  | .str s => if s = disabled then none else some ["CMD-SHELL", s]
  | other => some ["CMD-SHELL", other.plainText]

/-- The declared healthcheck. An empty declaration is no healthcheck; in every other one exactly the options
of `optionNames` are given. -/
def ofDeclared (declared : Option (Dict Json)) : Except Error (Option Healthcheck) := do
  let raw := declared.getD ∅
  if raw.isEmpty then return none
  let unsupported := raw.keys.filter fun k => !optionNames.contains k
  if !unsupported.isEmpty then throw (.unsupportedHealthcheckOption unsupported)
  let missing := optionNames.filter fun k => !raw.contains k
  if !missing.isEmpty then throw (.missingHealthcheckOption missing)
  let value (k : String) : Json := (raw.get? k).getD .null
  match declaredTest? (value "test") with
  | none => return none
  | some test =>
    let interval ← declaredDuration "interval" (value "interval")
    let timeout ← declaredDuration "timeout" (value "timeout")
    let startPeriod ← declaredDuration "start_period" (value "start_period")
    let retries ← declaredNumber "retries" (value "retries")
    return some { test, interval, timeout, startPeriod, retries }

/-- A number of a live healthcheck; a missing one is zero. -/
def liveNumber (record : Json) (key : String) : Nat :=
  match record.get? key with
  | some (.int n) => n.toNat
  | _ => 0

/-- The healthcheck that an engine reports. -/
def ofLive? (v : Option Json) : Option Healthcheck :=
  match v with
  | some (.obj fields) =>
    let record : Json := .obj fields
    let test := (record.getD "Test").plainTexts
    if test = [] || test = [disabled] then none
    else some {
      test
      interval := liveNumber record "Interval"
      timeout := liveNumber record "Timeout"
      startPeriod := liveNumber record "StartPeriod"
      retries := liveNumber record "Retries" }
  | _ => none

/-- The healthcheck in the form of the engine's record. -/
def toJson (h : Healthcheck) : Json :=
  .ofFields [("Test", .ofStrings h.test), ("Interval", .int h.interval), ("Timeout", .int h.timeout),
    ("StartPeriod", .int h.startPeriod), ("Retries", .int h.retries)]

end Healthcheck

end Shipshape
