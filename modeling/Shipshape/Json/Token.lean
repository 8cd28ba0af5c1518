import Shipshape.Json.Number

/-!
# The tokens of a JSON text

One step of the scanner takes one character: it changes the mode and may emit tokens. A run of the
characters of numbers and words is one token, which is looked up or read as a number when it ends.
-/

namespace Shipshape.Json

/-- A token of a JSON text. -/
inductive Token where
  | openBrace | closeBrace | openBracket | closeBracket | comma | colon
  /-- A value other than an array or an object. -/
  | scalar (v : Json)

/-- What the scanner is in the middle of; the characters collected so far are in reverse order. -/
inductive ScanMode where
  /-- Between two tokens. -/
  | between
  /-- Inside a run of the characters of numbers and words. -/
  | run (seen : List Char)
  /-- Inside a string. -/
  | text (seen : List Char)
  /-- Behind a backslash. -/
  | escape (seen : List Char)
  /-- Inside a code: the first half of a pair if there was one, the digits so far and their value. -/
  | code (seen : List Char) (high : Option Nat) (count value : Nat)
  /-- Behind the first half of a pair. -/
  | high (seen : List Char) (high : Nat)
  /-- Behind the first half of a pair and a backslash. -/
  | highEscape (seen : List Char) (high : Nat)

/-- The characters that may stand between tokens. -/
def isSpacing (c : Char) : Bool :=
  c = ' ' || c = '\t' || c = '\n' || c = '\r'

/-- The characters of numbers and words. -/
def isRunChar (c : Char) : Bool :=
  c.isAlphanum || c = '+' || c = '-' || c = '.'

/-- The value of a hexadecimal digit. -/
def hexValue? (c : Char) : Option Nat :=
  if c.isDigit then some (c.toNat - '0'.toNat)
  else if 'a' ≤ c && c ≤ 'f' then some (c.toNat - 'a'.toNat + 10)
  else if 'A' ≤ c && c ≤ 'F' then some (c.toNat - 'A'.toNat + 10)
  else none

def runValue? (cs : List Char) : Option Json :=
  if cs = ['n', 'u', 'l', 'l'] then some .null
  else if cs = ['t', 'r', 'u', 'e'] then some (.bool true)
  else if cs = ['f', 'a', 'l', 's', 'e'] then some (.bool false)
  else readNumber? cs

/-- A step from between two tokens. -/
def startToken? (c : Char) : Option (ScanMode × List Token) :=
  if isSpacing c then some (.between, [])
  else if c = '"' then some (.text [], [])
  else if c = '\x7b' then some (.between, [.openBrace])
  else if c = '\x7d' then some (.between, [.closeBrace])
  else if c = '[' then some (.between, [.openBracket])
  else if c = ']' then some (.between, [.closeBracket])
  else if c = ',' then some (.between, [.comma])
  else if c = ':' then some (.between, [.colon])
  else if isRunChar c then some (.run [c], [])
  else none

/-- The character that a one-letter escape stands for. -/
def simpleEscape? (c : Char) : Option Char :=
  match c with
  | '"' => some '"'
  | '\\' => some '\\'
  | '/' => some '/'
  | 'b' => some '\x08'
  | 'f' => some '\x0c'
  | 'n' => some '\n'
  | 'r' => some '\r'
  | 't' => some '\t'
  | _ => none

/-- What follows a complete code: a character, the wait for the second half of a pair, or nothing, when a
half stands alone. -/
def endCode? (seen : List Char) (high : Option Nat) (value : Nat) : Option ScanMode :=
  match high with
  | none =>
    if 0xD800 ≤ value && value ≤ 0xDBFF then some (.high seen value)
    else if 0xDC00 ≤ value && value ≤ 0xDFFF then none
    else some (.text (Char.ofNat value :: seen))
  | some h =>
    if 0xDC00 ≤ value && value ≤ 0xDFFF then
      some (.text (Char.ofNat (0x10000 + (h - 0xD800) * 0x400 + (value - 0xDC00)) :: seen))
    else none

def scanStep? (mode : ScanMode) (c : Char) : Option (ScanMode × List Token) :=
  match mode with
  | .between => startToken? c
  | .run seen =>
    if isRunChar c then some (.run (c :: seen), [])
    else do
      let v ← runValue? seen.reverse
      let (mode, tokens) ← startToken? c
      return (mode, .scalar v :: tokens)
  | .text seen =>
    if c = '"' then some (.between, [.scalar (.str (.ofList seen.reverse))])
    else if c = '\\' then some (.escape seen, [])
    else if c.toNat < 0x20 then none
    else some (.text (c :: seen), [])
  | .escape seen =>
    if c = 'u' then some (.code seen none 0 0, [])
    else (simpleEscape? c).map fun x => (.text (x :: seen), [])
  | .code seen high count value => do
    let d ← hexValue? c
    if count = 3 then (endCode? seen high (value * 16 + d)).map fun mode => (mode, [])
    else some (.code seen high (count + 1) (value * 16 + d), [])
  | .high seen h => if c = '\\' then some (.highEscape seen h, []) else none
  | .highEscape seen h => if c = 'u' then some (.code seen (some h) 0 0, []) else none

def scanFrom? : ScanMode → List Char → Option (List Token)
  | .between, [] => some []
  | .run seen, [] => (runValue? seen.reverse).map fun v => [.scalar v]
  | _, [] => none
  | mode, c :: cs => do
    let (mode, tokens) ← scanStep? mode c
    return tokens ++ (← scanFrom? mode cs)

def scan? (cs : List Char) : Option (List Token) :=
  scanFrom? .between cs

end Shipshape.Json
