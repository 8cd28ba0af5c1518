import Shipshape.Error
import Shipshape.Json.Decode
import Shipshape.Json.Printer
import Shipshape.Text.Pieces

/-!
# Environments

The environment of a container is a dictionary. It is declared as an object, whose values may be of
any type, or as a list of entries `KEY=VALUE`, and engines report it as such a list.
-/

namespace Shipshape

/-- A declared environment. -/
inductive EnvironmentDeclaration where
  | object (values : Dict Json)
  /-- Entries `KEY=VALUE`. -/
  | entries (items : List String)

namespace Environment

/-- The name and the value of an entry; the first equals sign stands between them. -/
def splitEntry? (entry : String) : Option (String × String) :=
  (Text.splitFirst? '=' entry.toList).map fun p => (.ofList p.1, .ofList p.2)

/-- The name and the value of an entry. -/
def readEntry (entry : String) : Except Error (String × String) :=
  match splitEntry? entry with
  | some p => .ok p
  | none => .error (.environmentEntry entry)

/-- The environment of a list of entries; of two entries for one name the later one counts. -/
def ofEntries (entries : List String) : Except Error (Dict String) := do
  return .ofList (← entries.mapM readEntry)

/-- The declared environment; the value `null` is the empty text. -/
def ofDeclared : EnvironmentDeclaration → Except Error (Dict String)
  | .object values => .ok (values.mapValues Json.plainText)
  | .entries items => ofEntries items

end Environment

namespace EnvironmentDeclaration

/-- Reads a declared environment. -/
def ofJson? : Json → Option EnvironmentDeclaration
  | .obj values => some (.object (.ofList values))
  | v => (Json.stringList? v).map .entries

/-- The declared environment in its own form. -/
def toJson : EnvironmentDeclaration → Json
  | .object values => .ofDict values
  | .entries items => .ofStrings items

/-- The value of one name, whatever the other entries are; in a list the first entry for the name
counts. -/
def value? (e : EnvironmentDeclaration) (key : String) : Option String :=
  match e with
  | .object values => (values.get? key).map Json.plainText
  | .entries items => (items.filterMap Environment.splitEntry?).lookup key

end EnvironmentDeclaration

end Shipshape
