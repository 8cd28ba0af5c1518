import Shipshape.Decimal.Integer
import Shipshape.Json.Basic

/-!
# Typed values from JSON

A decoder takes a JSON value to a value of a type, or refuses it. A record may be given as an object or
as the array of its fields in the order of their declaration; unknown fields of an object are ignored.
-/

namespace Shipshape.Json

variable {α : Type}

/-- A whole number that satisfies a condition. -/
def intWhere? (p : Int → Bool) : Json → Option Int
  | .int n => if p n then some n else none
  | _ => none

/-- An unsigned number of 64 bits. -/
def unsigned? (v : Json) : Option Nat :=
  (v.intWhere? Decimal.isUnsigned).map Int.toNat

/-- An unsigned number of 32 bits. -/
def unsigned32? (v : Json) : Option Nat :=
  (v.intWhere? fun n => 0 ≤ n && n < 4294967296).map Int.toNat

/-- An unsigned number of 16 bits. -/
def unsigned16? (v : Json) : Option Nat :=
  (v.intWhere? fun n => 0 ≤ n && n < 65536).map Int.toNat

def signed? (v : Json) : Option Int :=
  v.intWhere? Decimal.isSigned

/-- An array whose items all decode. -/
def list? (decode : Json → Option α) (v : Json) : Option (List α) := do
  (← v.items?).mapM decode

/-- An object whose values all decode. -/
def dict? (decode : Json → Option α) (v : Json) : Option (Dict α) := do
  let entries ← (← v.fields?).entries.mapM fun e => (decode e.2).map fun x => (e.1, x)
  return .ofList entries

/-- `null`, or a value that decodes. -/
def nullable? (decode : Json → Option α) : Json → Option (Option α)
  | .null => some none
  | v => (decode v).map some

def stringList? : Json → Option (List String) := list? string?

def stringDict? : Json → Option (Dict String) := dict? string?

/-- A word of an enumeration, written as a string or as an object with that one field, which is `null`. -/
def word? (meaning : String → Option α) : Json → Option α
  | .str s => meaning s
  | .obj [(k, .null)] => meaning k
  | _ => none

/-- The fields of a record by their names. -/
abbrev Record := String → Option Json

/-- The fields of a record with the given names, from an object or from an array that is not too long. -/
def record? (names : List String) : Json → Option Record
  | .obj l => some (Dict.ofList l).get?
  | .arr l => if l.length ≤ names.length then some fun k => (names.zip l).lookup k else none
  | _ => none

namespace Record

def required? (r : Record) (k : String) (decode : Json → Option α) : Option α :=
  (r k).bind decode

def withDefault? (r : Record) (k : String) (default : α) (decode : Json → Option α) : Option α :=
  match r k with
  | none => some default
  | some v => decode v

/-- A field that may be missing or `null`. -/
def optional? (r : Record) (k : String) (decode : Json → Option α) : Option (Option α) :=
  r.withDefault? k none (nullable? decode)

end Record

end Shipshape.Json
