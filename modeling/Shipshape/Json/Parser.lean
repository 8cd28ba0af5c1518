import Shipshape.Json.Token

/-!
# Reading JSON

The reader takes one token at a time and keeps the arrays and objects that are still open on a stack.
It accepts the grammar of JSON and nothing else; of two fields of one name the later one stays.
-/

namespace Shipshape.Json

/-- An array or object that is still open. -/
inductive Frame where
  /-- The items so far, in reverse order. -/
  | array (items : List Json)
  /-- The fields so far, and the name whose value comes next. -/
  | object (fields : Dict Json) (name : String)

/-- What the reader expects. -/
inductive ReadMode where
  /-- A value. -/
  | value
  /-- The first item of an array, or its end. -/
  | firstItem
  /-- The first name of an object, or its end. -/
  | firstName
  /-- A name. -/
  | name (fields : Dict Json)
  /-- A colon. -/
  | colon (fields : Dict Json) (name : String)
  /-- What follows a value. -/
  | after (v : Json)

/-- Arrays and objects are at most this deep in one another. -/
def maxDepth : Nat := 127

/-- The reader's state. -/
structure ReadState where
  mode : ReadMode
  stack : List Frame

/-- Opens an array or object, unless it is too deep. -/
def ReadState.opened? (s : ReadState) (mode : ReadMode) : Option ReadState :=
  if s.stack.length < maxDepth then some { s with mode } else none

/-- A step at a place where a value stands. -/
def readValue? (s : ReadState) : Token → Option ReadState
  | .openBracket => s.opened? .firstItem
  | .openBrace => s.opened? .firstName
  | .scalar v => some { s with mode := .after v }
  | _ => none

def readAfter? (v : Json) (stack : List Frame) (t : Token) : Option ReadState :=
  match stack, t with
  | .array items :: rest, .comma => some ⟨.value, .array (v :: items) :: rest⟩
  | .array items :: rest, .closeBracket => some ⟨.after (.arr (v :: items).reverse), rest⟩
  | .object fields name :: rest, .comma => some ⟨.name (fields.insert name v), rest⟩
  | .object fields name :: rest, .closeBrace => some ⟨.after (.ofDict (fields.insert name v)), rest⟩
  | _, _ => none

def readStep? (s : ReadState) (t : Token) : Option ReadState :=
  match s.mode, t with
  | .value, t => readValue? s t
  | .firstItem, .closeBracket => some { s with mode := .after (.arr []) }
  | .firstItem, t => readValue? { s with stack := .array [] :: s.stack } t
  | .firstName, .closeBrace => some { s with mode := .after (.ofDict ∅) }
  | .firstName, .scalar (.str k) => some { s with mode := .colon ∅ k }
  | .name fields, .scalar (.str k) => some { s with mode := .colon fields k }
  | .colon fields k, .colon => some ⟨.value, .object fields k :: s.stack⟩
  | .after v, t => readAfter? v s.stack t
  | _, _ => none

def read? (s : String) : Option Json := do
  let state ← (← scan? s.toList).foldlM readStep? ⟨.value, []⟩
  match state with
  | ⟨.after v, []⟩ => some v
  | _ => none

end Shipshape.Json
