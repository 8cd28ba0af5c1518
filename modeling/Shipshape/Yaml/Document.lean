import Shipshape.Yaml.Scalar
import Shipshape.Yaml.Text

/-!
# The value of a YAML text

The tokens of a text are read one after the other, and the collections that are still open are kept on a
stack. What is expected and does not come is nothing: its value is null, and its name the empty text. A name is
a scalar, taken as it is written; of two values for one name the later one stays.
-/

namespace Shipshape.Yaml

/-- What stands at a place for a value or a name. -/
inductive Node where
  | plain (s : String)
  | quoted (s : String)
  | collection (v : Json)

def Node.missing : Node := .plain ""

/-- The value of a node; none for a number that is out of range. -/
def Node.value? : Node → Option Json
  | .plain s => plainValue? s
  | .quoted s => some (.str s)
  | .collection v => some v

/-- The name that a node is; a collection is none. -/
def Node.name? : Node → Option String
  | .plain s | .quoted s => some s
  | .collection _ => none

/-- What comes next in a block sequence: its items are listed with the last one first. -/
structure Items where
  done : List Json := []
  /-- Whether an item was marked and has not come yet. -/
  isExpected : Bool := false

/-- The items, with what is left out. -/
def Items.all (i : Items) : List Json :=
  if i.isExpected then .null :: i.done else i.done

def Items.mark (i : Items) : Items := ⟨i.all, true⟩

def Items.toJson (i : Items) : Json := .arr i.all.reverse

/-- A place in a block mapping. -/
inductive BlockPlace where
  /-- In front of an entry. -/
  | start
  /-- Behind the mark of a name. -/
  | name
  /-- Behind a name. -/
  | named (k : String)
  /-- Behind the mark of a value. -/
  | value (k : String)
  /-- Inside a value that is a sequence with the items in the column of the names. -/
  | items (k : String) (i : Items)

/-- A place in a flow collection. In a sequence, an entry with a name is a mapping of its own. -/
inductive FlowPlace where
  /-- Behind the opening bracket or a comma. -/
  | start
  /-- Behind an entry. -/
  | done
  /-- Behind the mark of a name. -/
  | name
  /-- Behind a name. -/
  | named (k : String)
  /-- Behind the mark of a value. -/
  | value (k : String)

/-- A collection that is open. -/
inductive Frame where
  | sequence (i : Items)
  | mapping (fields : Dict Json) (place : BlockPlace)
  | flowSequence (done : List Json) (place : FlowPlace)
  | flowMapping (fields : Dict Json) (place : FlowPlace)

/-- How far the document is read. -/
inductive Progress where
  /-- Nothing has come. -/
  | start
  /-- Its mark has come. -/
  | marked
  /-- Its value has come. -/
  | done (v : Json)

/-- The reader's state; the innermost collection comes first. -/
structure Reader where
  progress : Progress := .start
  frames : List Frame := []

/-- The fields of a block mapping, with what is left out. -/
def BlockPlace.complete (fields : Dict Json) : BlockPlace → Dict Json
  | .start => fields
  | .name => fields.insert "" .null
  | .named k | .value k => fields.insert k .null
  | .items k i => fields.insert k i.toJson

/-- The fields of a flow mapping, with what is left out. -/
def FlowPlace.complete (fields : Dict Json) : FlowPlace → Dict Json
  | .start | .done => fields
  | .name => fields.insert "" .null
  | .named k | .value k => fields.insert k .null

/-- The items of a flow sequence, with what is left out. -/
def FlowPlace.completeItems (done : List Json) : FlowPlace → List Json
  | .start | .done | .name => done
  | .named k | .value k => .ofFields [(k, .null)] :: done

/-- How many collections a frame stands for. -/
def Frame.depth : Frame → Nat
  | .mapping _ (.items ..) => 2
  | .flowSequence _ .name | .flowSequence _ (.named _) | .flowSequence _ (.value _) => 2
  | _ => 1

/-- Collections are at most this deep in one another. -/
def maxDepth : Nat := 128

namespace Reader

/-- How many collections are open. -/
def depth (r : Reader) : Nat :=
  r.frames.foldl (fun n f => n + f.depth) 0

/-- The reader itself, if no more collections are open than may be. -/
def within? (r : Reader) : Option Reader :=
  if r.depth ≤ maxDepth then some r else none

def give? (r : Reader) (n : Node) : Option Reader := do
  match r.frames with
  | [] => return { r with progress := .done (← n.value?) }
  | .sequence i :: rest => return { r with frames := .sequence ⟨(← n.value?) :: i.done, false⟩ :: rest }
  | .mapping fields place :: rest =>
    match place with
    | .name => return { r with frames := .mapping fields (.named (← n.name?)) :: rest }
    | .value k => return { r with frames := .mapping (fields.insert k (← n.value?)) .start :: rest }
    | .items k i =>
      return { r with frames := .mapping fields (.items k ⟨(← n.value?) :: i.done, false⟩) :: rest }
    | .start | .named _ => none
  | .flowSequence done place :: rest =>
    match place with
    | .start => return { r with frames := .flowSequence ((← n.value?) :: done) .done :: rest }
    | .name => return { r with frames := .flowSequence done (.named (← n.name?)) :: rest }
    | .value k =>
      return { r with frames := .flowSequence (.ofFields [(k, ← n.value?)] :: done) .done :: rest }
    | .done | .named _ => none
  | .flowMapping fields place :: rest =>
    match place with
    | .start => return { r with frames := .flowMapping (fields.insert (← n.name?) .null) .done :: rest }
    | .name => return { r with frames := .flowMapping fields (.named (← n.name?)) :: rest }
    | .value k => return { r with frames := .flowMapping (fields.insert k (← n.value?)) .done :: rest }
    | .done | .named _ => none

/-- The reader behind a collection, with the frames around it. -/
def close? (r : Reader) (v : Json) (rest : List Frame) : Option Reader :=
  { r with frames := rest }.give? (.collection v)

def node? (r : Reader) (t : Token) : Option Reader :=
  let enter (f : Frame) : Option Reader := { r with frames := f :: r.frames }.within?
  match t with
  | .plain s => r.give? (.plain s)
  | .quoted s => r.give? (.quoted s)
  | .sequenceStart => enter (.sequence {})
  | .mappingStart => enter (.mapping ∅ .start)
  | .openBracket => enter (.flowSequence [] .start)
  | .openBrace => enter (.flowMapping ∅ .start)
  | _ => none

/-- A step outside all collections. -/
def documentStep? (r : Reader) (t : Token) : Option Reader :=
  match r.progress, t with
  | .start, .documentStart => some { r with progress := .marked }
  | .marked, .documentStart => none
  | .marked, .documentEnd => some { r with progress := .done .null }
  | .done _, .documentEnd => some r
  | .done _, _ => none
  | _, t => r.node? t

def sequenceStep? (r : Reader) (i : Items) (rest : List Frame) (t : Token) : Option Reader :=
  match t with
  | .item => some { r with frames := .sequence i.mark :: rest }
  | .blockEnd => r.close? i.toJson rest
  | t => if i.isExpected then r.node? t else none

def mappingStep? (r : Reader) (fields : Dict Json) (place : BlockPlace) (rest : List Frame) (t : Token) :
    Option Reader :=
  let at_ (place : BlockPlace) : Reader := { r with frames := .mapping fields place :: rest }
  match place, t with
  | place, .name => some { r with frames := .mapping (place.complete fields) .name :: rest }
  | place, .blockEnd => r.close? (.ofDict (place.complete fields)) rest
  | .name, .value => some (at_ (.value ""))
  | .named k, .value => some (at_ (.value k))
  | _, .value => none
  | .value k, .item => (at_ (.items k ⟨[], true⟩)).within?
  | .items k i, .item => some (at_ (.items k i.mark))
  | .start, _ | .named _, _ => none
  | .name, t | .value _, t => r.node? t
  | .items _ i, t => if i.isExpected then r.node? t else none

/-- A step in a flow sequence. The token behind the mark of a name stands for an empty name if it cannot start
one. -/
def flowSequenceStep? (r : Reader) (done : List Json) (place : FlowPlace) (rest : List Frame) (t : Token) :
    Option Reader :=
  let at_ (place : FlowPlace) : Reader := { r with frames := .flowSequence done place :: rest }
  match place, t with
  | .name, .value | .name, .comma | .name, .closeBracket => some (at_ (.named ""))
  | .start, .comma => none
  | place, .comma => some { r with frames := .flowSequence (place.completeItems done) .start :: rest }
  | place, .closeBracket => r.close? (.arr (place.completeItems done).reverse) rest
  | .start, .name => (at_ .name).within?
  | .named k, .value => some (at_ (.value k))
  | .done, _ | .named _, _ => none
  | .start, t | .name, t | .value _, t => r.node? t

def flowMappingStep? (r : Reader) (fields : Dict Json) (place : FlowPlace) (rest : List Frame) (t : Token) :
    Option Reader :=
  let at_ (place : FlowPlace) : Reader := { r with frames := .flowMapping fields place :: rest }
  match place, t with
  | .start, .comma => none
  | place, .comma => some { r with frames := .flowMapping (place.complete fields) .start :: rest }
  | place, .closeBrace => r.close? (.ofDict (place.complete fields)) rest
  | .start, .name => some (at_ .name)
  | .name, .value => some (at_ (.value ""))
  | .named k, .value => some (at_ (.value k))
  | .done, _ | .named _, _ => none
  | .start, t | .name, t | .value _, t => r.node? t

def step? (r : Reader) (t : Token) : Option Reader :=
  match r.frames with
  | [] => r.documentStep? t
  | .sequence i :: rest => r.sequenceStep? i rest t
  | .mapping fields place :: rest => r.mappingStep? fields place rest t
  | .flowSequence done place :: rest => r.flowSequenceStep? done place rest t
  | .flowMapping fields place :: rest => r.flowMappingStep? fields place rest t

/-- The value of a text that ends here; an empty one is null. -/
def result? (r : Reader) : Option Json :=
  match r.frames, r.progress with
  | [], .done v => some v
  | [], _ => some .null
  | _ :: _, _ => none

end Reader

/-- Reads a YAML text, which holds one document. -/
def read? (s : String) : Option Json := do
  (← (← scan? s.toList).foldlM Reader.step? {}).result?

end Shipshape.Yaml
