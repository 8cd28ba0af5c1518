import Shipshape.Decimal.Binary64
import Shipshape.Dict

/-!
# JSON values

Whole numbers are kept apart from floating point numbers, as their written form does. An object is a
dictionary, written as the list of its fields; of two fields of one name the later one counts.
-/

namespace Shipshape

open Decimal (Binary64)

inductive Json where
  | null
  | bool (b : Bool)
  | int (n : Int)
  | float (x : Binary64)
  | str (s : String)
  | arr (items : List Json)
  | obj (fields : List (String × Json))
  deriving Inhabited

namespace Json

mutual

/-- Whether two values are equal. Fields and items are compared in order; a whole number never equals a
floating point number, and the two floating point zeros are equal. -/
def same : Json → Json → Bool
  | .null, .null => true
  | .bool a, .bool b => a == b
  | .int a, .int b => a == b
  | .float a, .float b => a.sameValue b
  | .str a, .str b => a == b
  | .arr a, .arr b => sameItems a b
  | .obj a, .obj b => sameFields a b
  | _, _ => false

/-- Whether two lists hold equal values. -/
def sameItems : List Json → List Json → Bool
  | [], [] => true
  | a :: as, b :: bs => same a b && sameItems as bs
  | _, _ => false

/-- Whether two lists of fields hold the same names with equal values. -/
def sameFields : List (String × Json) → List (String × Json) → Bool
  | [], [] => true
  | (k, a) :: as, (l, b) :: bs => k == l && same a b && sameFields as bs
  | _, _ => false

end

/-- Whether the value is `null`. -/
def isNull : Json → Bool
  | .null => true
  | _ => false

def string? : Json → Option String
  | .str s => some s
  | _ => none

def bool? : Json → Option Bool
  | .bool b => some b
  | _ => none

def items? : Json → Option (List Json)
  | .arr l => some l
  | _ => none

def fields? : Json → Option (Dict Json)
  | .obj l => some (.ofList l)
  | _ => none

/-- The fields of an object; no other value has any. -/
def fields (v : Json) : Dict Json :=
  v.fields?.getD ∅

/-- The items of an array; no other value has any. -/
def items (v : Json) : List Json :=
  v.items?.getD []

/-- The field of an object by its name. -/
def get? (v : Json) (k : String) : Option Json :=
  v.fields.get? k

/-- The field of an object by its name; a missing one is `null`. -/
def getD (v : Json) (k : String) : Json :=
  (v.get? k).getD .null

/-- The object with the fields of a dictionary. -/
def ofDict (d : Dict Json) : Json :=
  .obj d.entries

/-- The object with these fields; of two fields of one name the later one stays. -/
def ofFields (l : List (String × Json)) : Json :=
  .ofDict (.ofList l)

def ofStrings (l : List String) : Json :=
  .arr (l.map .str)

def ofStringDict (d : Dict String) : Json :=
  .ofDict (d.mapValues .str)

/-- A text, or `null` in its absence. -/
def ofString? : Option String → Json
  | some s => .str s
  | none => .null

/-- The object with one field written. -/
def setField (v : Json) (k : String) (x : Json) : Json :=
  .ofDict (v.fields.insert k x)

end Json

end Shipshape
