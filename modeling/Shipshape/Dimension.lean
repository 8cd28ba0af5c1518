import Shipshape.Error
import Shipshape.Json.Printer
import Shipshape.Text.Blank

/-!
# Resource limits

A limit is a number, or a number with a unit (`b`, `k`, `m`, `g` in either case, powers of 1024), or a
text that is no size, such as a range of processors. Limits are compared by their number of bytes, and
texts as they are written.
-/

namespace Shipshape.Dimension

/-- The limits that can be declared, each with the field in which engines report it. -/
def hostFields : List (String × String) :=
  [("mem_limit", "Memory"),
   ("mem_reservation", "MemoryReservation"),
   ("memswap_limit", "MemorySwap"),
   ("cpu_period", "CpuPeriod"),
   ("cpu_quota", "CpuQuota"),
   ("cpu_shares", "CpuShares"),
   ("cpuset_cpus", "CpusetCpus"),
   ("cpuset_mems", "CpusetMems"),
   ("kernel_memory", "KernelMemory"),
   ("blkio_weight", "BlkioWeight"),
   ("ulimits", "Ulimits")]

/-- The field in which engines report a limit. -/
def hostField? (key : String) : Option String :=
  hostFields.lookup key

/-- Refuses unknown limits, and limits that are `null`. -/
def validate (dimensions : Dict Json) : Except Error Unit :=
  let unsupported := dimensions.keys.filter fun k => (hostField? k).isNone
  if !unsupported.isEmpty then .error (.unsupportedDimension unsupported)
  else match dimensions.entries.find? fun e => e.2.isNull with
    | some (key, _) => .error (.removedDimension key)
    | none => .ok ()

def allUnset (values : List Json) : Bool :=
  values.all Json.isUnset

def unitBytes? (unit : Char) : Option Nat :=
  match unit with
  | 'b' => some 1
  | 'k' => some 1024
  | 'm' => some (1024 * 1024)
  | 'g' => some (1024 * 1024 * 1024)
  | _ => none

/-- The number of bytes of a size with a unit: what stands before the unit, and the unit in lower case. -/
def bytesOf (key : String) (raw number : List Char) (unit : Char) : Except Error String :=
  match unitBytes? unit with
  | none => .error (.dimensionUnit unit (.ofList raw))
  | some bytes =>
    match Decimal.readUnsigned? (Text.trimChars number) with
    | none => .error (.dimensionValue key (.ofList raw))
    | some n =>
      if n * bytes < Decimal.unsignedLimit then .ok (Decimal.natText (n * bytes))
      else .error (.dimensionValue key (.ofList raw))

/-- The canonical text of a limit: a size with a unit becomes its number of bytes, and everything else is
kept as it is written. -/
def canonicalText (key : String) : Json → Except Error String
  | .null => .error (.removedDimension key)
  | .int n => .ok (Decimal.intText n)
  | .float x => .ok x.text
  | .str s =>
    let raw := Text.trimChars s.toList
    match raw.getLast? with
    | none => .ok ""
    | some last =>
      if last.isDigit then .ok (.ofList raw) else bytesOf key raw raw.dropLast last.toLower
  | other => .error (.dimensionValue key other.compact)

def differ (key : String) (desired live : Json) : Except Error Bool := do
  if desired.isNull || live.isNull then throw (.removedDimension key)
  return (← canonicalText key desired) != (← canonicalText key live)

end Shipshape.Dimension
