/-!
# Tokens, indentation and names

Brackets around block collections, which a text shows by indentation only, are tokens like those that are
written, and so is the mark in front of a name, which is seldom written.

What a position in a YAML text says beside the characters that stand there. A block collection opens at the
column of its first item or name and ends before the first token that starts further left. A name shows itself
only by the mark of its value, so every place where one may have started is remembered until the next mark: if
it is that of a value, the marks in front of the name are put in at that place.
-/

namespace Shipshape.Yaml

/-- A token of a YAML text. -/
inductive Token where
  /-- A scalar without quotes. -/
  | plain (s : String)
  /-- A scalar in quotes. -/
  | quoted (s : String)
  /-- The beginning of a block sequence. -/
  | sequenceStart
  /-- The beginning of a block mapping. -/
  | mappingStart
  /-- The end of a block collection. -/
  | blockEnd
  /-- The mark in front of an item of a block sequence. -/
  | item
  /-- The mark in front of a name. -/
  | name
  /-- The mark in front of the value of a name. -/
  | value
  | openBracket | closeBracket | openBrace | closeBrace | comma
  /-- The mark in front of a document. -/
  | documentStart
  /-- The mark behind a document. -/
  | documentEnd
  deriving DecidableEq, Repr

/-- A position in a text. -/
structure Place where
  line : Nat
  column : Nat
  deriving DecidableEq, Repr

/-- A place where a name may have started, and how many tokens stand before it. -/
structure Candidate where
  place : Place
  before : Nat
  /-- Whether nothing but a name can stand there. -/
  isRequired : Bool

/-- The greatest length of a name that is not marked in front. -/
def maxNameLength : Nat := 1024

/-- Whether a name that started there may have its value at a place: it stands on one line and is not too
long. -/
def Candidate.reaches (c : Candidate) (at_ : Place) : Bool :=
  c.place.line = at_.line && at_.column ≤ c.place.column + maxNameLength

/-- The candidate, if it still counts at a place; `none` if a name had to stand there. -/
def Candidate.settle? (at_ : Place) : Option Candidate → Option (Option Candidate)
  | none => some none
  | some c => if c.reaches at_ then some (some c) else if c.isRequired then none else some none

/-- The layout of a text up to a place. -/
structure Layout where
  place : Place := ⟨0, 0⟩
  tokens : Array Token := #[]
  /-- The columns of the open block collections, the innermost first. -/
  blocks : List Nat := []
  /-- The candidate in the innermost flow collection, or outside all of them. -/
  candidate : Option Candidate := none
  /-- The candidates around the open flow collections, the innermost first. -/
  outer : List (Option Candidate) := []
  /-- Whether a name, or a block collection, may start. -/
  mayStart : Bool := true

namespace Layout

/-- Whether a flow collection is open; indentation says nothing there. -/
def inFlow (s : Layout) : Bool := !s.outer.isEmpty

/-- The first column inside the innermost block collection. -/
def leastColumn (s : Layout) : Nat :=
  match s.blocks with
  | [] => 0
  | c :: _ => c + 1

def push (s : Layout) (t : Token) : Layout :=
  { s with tokens := s.tokens.push t }

/-- Puts in a token behind the first `before` ones. -/
def insert (s : Layout) (before : Nat) (t : Token) : Layout :=
  { s with tokens := s.tokens.insertIdxIfInBounds before t }

/-- Opens a block collection at a column, behind the first `before` tokens, unless the innermost one is there
already. -/
def openBlock (s : Layout) (t : Token) (column before : Nat) : Layout :=
  if s.inFlow || column < s.leastColumn then s
  else { s.insert before t with blocks := column :: s.blocks }

/-- Closes the innermost block collections, as long as their columns satisfy a condition. -/
def closeBlocks (s : Layout) (ends : Nat → Bool) : Layout :=
  if s.inFlow then s
  else
    { s with
      tokens := s.tokens ++ (s.blocks.takeWhile ends).map fun _ => Token.blockEnd
      blocks := s.blocks.dropWhile ends }

/-- Closes all block collections. -/
def closeAllBlocks (s : Layout) : Layout :=
  s.closeBlocks fun _ => true

/-! ## Candidates -/

/-- Gives up the candidates that do not reach the place. -/
def settle? (s : Layout) : Option Layout := do
  return { s with
    candidate := ← Candidate.settle? s.place s.candidate
    outer := ← s.outer.mapM (Candidate.settle? s.place) }

/-- Gives up the candidate, unless a name has to stand there. -/
def forget? (s : Layout) : Option Layout :=
  match s.candidate with
  | none => some s
  | some c => if c.isRequired then none else some { s with candidate := none }

/-- Remembers the place as a candidate, if a name may start. In the column of the innermost block collection
nothing else can start. -/
def remember? (s : Layout) : Option Layout :=
  if s.mayStart then do
    let isRequired := !s.inFlow && s.blocks.head? = some s.place.column
    return { ← s.forget? with candidate := some ⟨s.place, s.tokens.size, isRequired⟩ }
  else some s

/-! ## Marks -/

/-- Opens a block collection at the place, unless it is open already. -/
def startBlock? (s : Layout) (t : Token) : Option Layout :=
  if s.inFlow then some s
  else if s.mayStart then some (s.openBlock t s.place.column s.tokens.size)
  else none

def item? (s : Layout) : Option Layout := do
  let s ← (← s.startBlock? .sequenceStart).forget?
  return { s.push .item with mayStart := true }

def name? (s : Layout) : Option Layout := do
  let s ← (← s.startBlock? .mappingStart).forget?
  return { s.push .name with mayStart := !s.inFlow }

/-- The mark of a value. What started at the candidate is a name. -/
def value? (s : Layout) : Option Layout := do
  match s.candidate with
  | some c =>
    let s := (s.insert c.before .name).openBlock .mappingStart c.place.column c.before
    return { s.push .value with candidate := none, mayStart := false }
  | none =>
    let s ← s.startBlock? .mappingStart
    return { s.push .value with mayStart := !s.inFlow }

/-- The bracket that opens a flow collection. -/
def enterFlow? (s : Layout) (t : Token) : Option Layout := do
  let s ← s.remember?
  return { s.push t with outer := s.candidate :: s.outer, candidate := none, mayStart := true }

/-- The bracket that closes a flow collection. -/
def leaveFlow? (s : Layout) (t : Token) : Option Layout := do
  let s ← s.forget?
  let s : Layout := { s.push t with mayStart := false }
  return match s.outer with
    | [] => s
    | c :: outer => { s with candidate := c, outer }

def comma? (s : Layout) : Option Layout := do
  return { (← s.forget?).push .comma with mayStart := true }

/-- The mark of a document, which closes all block collections. -/
def document? (s : Layout) (t : Token) : Option Layout := do
  return { (← s.closeAllBlocks.forget?).push t with mayStart := false }

def scalar? (s : Layout) : Option Layout := do
  return { ← s.remember? with mayStart := false }

def endLine (s : Layout) : Layout :=
  { s with mayStart := s.mayStart || !s.inFlow }

/-- The tokens of a text that ends here. -/
def finish? (s : Layout) : Option (List Token) := do
  return (← (← s.settle?).closeAllBlocks.forget?).tokens.toList

end Layout

end Shipshape.Yaml
