import Shipshape.Decimal.Integer
import Shipshape.Decimal.Shortest
import Shipshape.Json.Basic
import Shipshape.Text.Quoted

/-!
# Writing JSON

The compact form has no blanks at all; the indented form puts every item and every field on a line of
its own, two blanks further in than the bracket that opens it. Where a plain text is wanted, a string is taken as it is,
and some values stand for "not set".
-/

namespace Shipshape.Json

/-- The characters that stand for `c` inside a JSON string. Only the quote, the backslash and the
characters below the space are escaped. -/
def escapeChar (c : Char) : List Char :=
  match c with
  | '"' => ['\\', '"']
  | '\\' => ['\\', '\\']
  | '\x08' => ['\\', 'b']
  | '\x0c' => ['\\', 'f']
  | '\n' => ['\\', 'n']
  | '\r' => ['\\', 'r']
  | '\t' => ['\\', 't']
  | c =>
    if c.toNat < 0x20 then
      ['\\', 'u', '0', '0'] ++ List.replicate (if c.toNat < 0x10 then 1 else 0) '0' ++
        Text.hexDigits c.toNat
    else [c]

def stringText (s : String) : String :=
  .ofList ('"' :: s.toList.flatMap escapeChar ++ ['"'])

mutual

def compact : Json → String
  | .null => "null"
  | .bool b => if b then "true" else "false"
  | .int n => Decimal.intText n
  | .float x => x.text
  | .str s => stringText s
  | .arr items => "[" ++ ",".intercalate (compactItems items) ++ "]"
  | .obj fields => "\x7b" ++ ",".intercalate (compactFields fields) ++ "\x7d"

def compactItems : List Json → List String
  | [] => []
  | v :: vs => compact v :: compactItems vs

def compactFields : List (String × Json) → List String
  | [] => []
  | (k, v) :: fs => (stringText k ++ ":" ++ compact v) :: compactFields fs

end

def lineStart (level : Nat) : String :=
  .ofList ('\n' :: List.replicate (2 * level) ' ')

/-- Parts between brackets, each on a line of its own. -/
def bracketed (open_ close : String) (level : Nat) (parts : List String) : String :=
  if parts.isEmpty then open_ ++ close
  else
    open_ ++ ",".intercalate (parts.map fun p => lineStart (level + 1) ++ p) ++ lineStart level ++ close

mutual

/-- The indented form, for a value that stands at a level of indentation. -/
def indentedAt : Nat → Json → String
  | level, .arr items => bracketed "[" "]" level (indentedItems level items)
  | level, .obj fields => bracketed "\x7b" "\x7d" level (indentedFields level fields)
  | _, .null => compact .null
  | _, .bool b => compact (.bool b)
  | _, .int n => compact (.int n)
  | _, .float x => compact (.float x)
  | _, .str s => compact (.str s)

def indentedItems : Nat → List Json → List String
  | _, [] => []
  | level, v :: vs => indentedAt (level + 1) v :: indentedItems level vs

def indentedFields : Nat → List (String × Json) → List String
  | _, [] => []
  | level, (k, v) :: fs =>
    (stringText k ++ ": " ++ indentedAt (level + 1) v) :: indentedFields level fs

end

def indented (v : Json) : String :=
  indentedAt 0 v

/-! ### Values as plain texts -/

/-- A string without its quotes; `null` is the empty text, and every other value its compact form. -/
def plainText : Json → String
  | .str s => s
  | .null => ""
  | v => v.compact

/-- The texts of the items of an array; a single string is a list of one, and every other value is
empty. -/
def plainTexts : Json → List String
  | .arr items => items.map plainText
  | .str s => [s]
  | _ => []

/-- The texts of the fields of an object; every other value is empty. -/
def plainTextDict (v : Json) : Dict String :=
  v.fields.mapValues plainText

/-- The values with which an engine says that something is not set. -/
def isUnset : Json → Bool
  | .null => true
  | .bool b => !b
  | .int n => n == 0
  | .float x => x.isZero
  | .str s => s == ""
  | .arr items => items.isEmpty
  | .obj fields => fields.isEmpty

end Shipshape.Json
