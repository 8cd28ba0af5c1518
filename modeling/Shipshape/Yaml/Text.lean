import Shipshape.Json.Token
import Shipshape.Yaml.Character
import Shipshape.Yaml.Layout

/-!
# From characters to tokens

One step takes one character, with the text behind it in view: it changes what the scanner is in the middle of
and the layout. Read are block and flow collections, plain and quoted scalars, comments and the marks of
documents; a text with anything else is refused.
-/

namespace Shipshape.Yaml

/-- The two kinds of quotes. -/
inductive Quote where
  | single
  | double
  deriving DecidableEq, Repr

/-- What the scanner is in the middle of. Collected characters are listed with the last one first, and a gap is
kept apart until it is known whether the scalar goes on behind it. -/
inductive Mode where
  | between
  | comment
  /-- Inside the mark of a document: how many of its characters are still to come. -/
  | document (left : Nat)
  | plain (seen gap : List Char)
  /-- Behind line breaks in a plain scalar, if it goes on. -/
  | plainBroken (seen : List Char) (breaks : Breaks)
  | quoted (quote : Quote) (seen gap : List Char)
  /-- Behind line breaks inside quotes. -/
  | quotedBroken (quote : Quote) (seen : List Char) (breaks : Breaks)
  /-- Behind the first of two single quotes. -/
  | doubled (seen : List Char)
  /-- Behind a backslash. -/
  | escape (seen : List Char)
  /-- Inside a hexadecimal code: how many digits are still to come, and the value so far. -/
  | code (seen : List Char) (left value : Nat)

/-- What the scanner is in the middle of, and the layout. -/
abbrev Scan := Mode × Layout

/-- The brackets and the comma of flow collections. -/
def isFlowMark (c : Char) : Bool :=
  c = ',' || c = '[' || c = ']' || c = '\x7b' || c = '\x7d'

/-- Characters that no token starts with. Those that have a meaning in other texts are not read. -/
def isReserved (c : Char) : Bool :=
  "&*!|>%@\t".toList.contains c || c.toNat = 0x60

def documentMark? : List Char → Option Token
  | '-' :: '-' :: '-' :: rest => if isGapOrEnd rest.head? then some .documentStart else none
  | '.' :: '.' :: '.' :: rest => if isGapOrEnd rest.head? then some .documentEnd else none
  | _ => none

/-- The mark of a document at the place; it stands at the beginning of a line. -/
def Layout.documentMark? (s : Layout) (text : List Char) : Option Token :=
  if s.place.column = 0 then Yaml.documentMark? text else none

def startStep? (s : Layout) (c : Char) (rest : List Char) : Option Scan := do
  let s := (← s.settle?).closeBlocks (s.place.column < ·)
  let isMark := s.inFlow || isGapOrEnd rest.head?
  let between (s : Layout) : Scan := (.between, s)
  match s.documentMark? (c :: rest) with
  | some t => return (.document 2, ← s.document? t)
  | none =>
    if c = '[' then (s.enterFlow? .openBracket).map between
    else if c = '\x7b' then (s.enterFlow? .openBrace).map between
    else if c = ']' then (s.leaveFlow? .closeBracket).map between
    else if c = '\x7d' then (s.leaveFlow? .closeBrace).map between
    else if c = ',' then s.comma?.map between
    else if c = '-' && isGapOrEnd rest.head? then s.item?.map between
    else if c = '?' && isMark then s.name?.map between
    else if c = ':' && isMark then s.value?.map between
    else if c = '\'' then return (.quoted .single [] [], ← s.scalar?)
    else if c = '"' then return (.quoted .double [] [], ← s.scalar?)
    else if isReserved c then none
    else return (.plain [c] [], ← s.scalar?)

/-- A step between tokens. Tabs are no indentation. -/
def betweenStep? (s : Layout) (c : Char) (rest : List Char) : Option Scan :=
  if c = ' ' || (c = '\t' && (s.inFlow || !s.mayStart)) then some (.between, s)
  else if c = '#' then some (.comment, s)
  else if isBreak c then some (.between, s.endLine)
  else startStep? s c rest

/-! ## Plain scalars -/

def Layout.endPlain (s : Layout) (seen : List Char) : Layout :=
  s.push (.plain (.ofList seen.reverse))

/-- Whether a plain scalar ends before a character. -/
def endsPlain (s : Layout) (c : Char) (next : Option Char) : Bool :=
  (c = ':' && isGapOrEnd next) || (s.inFlow && isFlowMark c)

/-- Whether a colon inside flow collections leaves it open where a plain scalar ends. -/
def isAmbiguous (s : Layout) (c : Char) (next : Option Char) : Bool :=
  s.inFlow && c = ':' && next.any fun d => d = '?' || isFlowMark d

def plainStep? (s : Layout) (seen gap : List Char) (c : Char) (rest : List Char) : Option Scan :=
  if isGap c then some (.plain seen (c :: gap), s)
  else if isBreak c then some (.plainBroken seen ⟨some c, []⟩, s)
  else if isAmbiguous s c rest.head? then none
  else if (c = '#' && !gap.isEmpty) || endsPlain s c rest.head? then
    betweenStep? (s.endPlain seen) c rest
  else some (.plain (c :: gap ++ seen) [], s)

/-- Whether a plain scalar does not go on in a line that starts with a character. -/
def endsBroken (s : Layout) (c : Char) (rest : List Char) : Bool :=
  (!s.inFlow && s.place.column < s.leastColumn) || (s.documentMark? (c :: rest)).isSome ||
    c = '#' || endsPlain s c rest.head?

/-- A step behind line breaks in a plain scalar. A line goes on with it if it is indented and neither a comment
nor a mark comes first. -/
def plainBrokenStep? (s : Layout) (seen : List Char) (breaks : Breaks) (c : Char) (rest : List Char) :
    Option Scan :=
  if isBreak c then some (.plainBroken seen (breaks.push c), s)
  else if isGap c then
    if c = '\t' && s.place.column < s.leastColumn then none else some (.plainBroken seen breaks, s)
  else if endsBroken s c rest then betweenStep? { s.endPlain seen with mayStart := true } c rest
  else if isAmbiguous s c rest.head? then none
  else some (.plain (c :: breaks.folded ++ seen) [], s)

/-! ## Quoted scalars -/

/-- The character of a one-letter escape between double quotes. -/
def simpleEscape? (c : Char) : Option Char :=
  match c with
  | '0' => some '\x00'
  | 'a' => some '\x07'
  | 'b' => some '\x08'
  | 't' | '\t' => some '\t'
  | 'n' => some '\n'
  | 'v' => some '\x0b'
  | 'f' => some '\x0c'
  | 'r' => some '\r'
  | 'e' => some '\x1b'
  | ' ' => some ' '
  | '"' => some '"'
  | '/' => some '/'
  | '\\' => some '\\'
  | 'N' => some '\u0085'
  | '_' => some '\u00a0'
  | 'L' => some '\u2028'
  | 'P' => some '\u2029'
  | _ => none

/-- How many hexadecimal digits an escape takes. -/
def codeLength? (c : Char) : Option Nat :=
  match c with
  | 'x' => some 2
  | 'u' => some 4
  | 'U' => some 8
  | _ => none

def Layout.endQuoted (s : Layout) (seen : List Char) : Layout :=
  s.push (.quoted (.ofList seen.reverse))

/-- A step inside quotes that is neither a gap nor a line break. -/
def textStep (s : Layout) (quote : Quote) (seen : List Char) (c : Char) (next : Option Char) : Scan :=
  match quote with
  | .single =>
    if c ≠ '\'' then (.quoted .single (c :: seen) [], s)
    else if next = some '\'' then (.doubled seen, s)
    else (.between, s.endQuoted seen)
  | .double =>
    if c = '"' then (.between, s.endQuoted seen)
    else if c = '\\' then (.escape seen, s)
    else (.quoted .double (c :: seen) [], s)

/-- A step inside quotes. A gap before a line break is dropped. -/
def quotedStep (s : Layout) (quote : Quote) (seen gap : List Char) (c : Char) (next : Option Char) :
    Scan :=
  if isBreak c then (.quotedBroken quote seen ⟨some c, []⟩, s)
  else if isGap c then (.quoted quote seen (c :: gap), s)
  else textStep s quote (gap ++ seen) c next

/-- A step behind line breaks inside quotes. The mark of a document cannot stand there. -/
def quotedBrokenStep? (s : Layout) (quote : Quote) (seen : List Char) (breaks : Breaks) (c : Char)
    (rest : List Char) : Option Scan :=
  if isBreak c then some (.quotedBroken quote seen (breaks.push c), s)
  else if isGap c then some (.quotedBroken quote seen breaks, s)
  else if (s.documentMark? (c :: rest)).isSome then none
  else some (textStep s quote (breaks.folded ++ seen) c rest.head?)

def escapeStep? (s : Layout) (seen : List Char) (c : Char) : Option Scan :=
  if isBreak c then some (.quotedBroken .double seen ⟨none, []⟩, s)
  else match simpleEscape? c, codeLength? c with
    | some x, _ => some (.quoted .double (x :: seen) [], s)
    | none, some count => some (.code seen count 0, s)
    | none, none => none

def codeStep? (s : Layout) (seen : List Char) (left value : Nat) (c : Char) : Option Scan := do
  let value := value * 16 + (← Json.hexValue? c)
  if left > 1 then some (.code seen (left - 1) value, s)
  else if value.isValidChar then some (.quoted .double (Char.ofNat value :: seen) [], s)
  else none

/-! ## The whole text -/

/-- One step; `rest` is the text behind `c`. -/
def step? (mode : Mode) (s : Layout) (c : Char) (rest : List Char) : Option Scan :=
  match mode with
  | .between => betweenStep? s c rest
  | .comment => some (if isBreak c then (.between, s.endLine) else (.comment, s))
  | .document left => some (if left > 1 then .document (left - 1) else .between, s)
  | .plain seen gap => plainStep? s seen gap c rest
  | .plainBroken seen breaks => plainBrokenStep? s seen breaks c rest
  | .quoted quote seen gap => some (quotedStep s quote seen gap c rest.head?)
  | .quotedBroken quote seen breaks => quotedBrokenStep? s quote seen breaks c rest
  | .doubled seen => some (.quoted .single (c :: seen) [], s)
  | .escape seen => escapeStep? s seen c
  | .code seen left value => codeStep? s seen left value c

def finish? (s : Layout) : Mode → Option (List Token)
  | .between | .comment | .document _ => s.finish?
  | .plain seen _ | .plainBroken seen _ => (s.endPlain seen).finish?
  | _ => none

/-- The place behind a character. -/
def Place.next (p : Place) (c : Char) : Place :=
  if isBreak c then ⟨p.line + 1, 0⟩ else ⟨p.line, p.column + 1⟩

def scanFrom? (mode : Mode) (s : Layout) : List Char → Option (List Token)
  | [] => finish? s mode
  | c :: rest => do
    let (mode, s) ← step? mode s c rest
    scanFrom? mode { s with place := s.place.next c } rest

/-- The tokens of a text. A byte order mark in front takes a column and says nothing. -/
def scan? (text : List Char) : Option (List Token) :=
  if !text.all isTextChar then none
  else match unifyBreaks text with
    | [] => scanFrom? .between {} []
    | c :: rest =>
      if c = byteOrderMark then scanFrom? .between { place := ⟨0, 1⟩ } rest
      else scanFrom? .between {} (c :: rest)

end Shipshape.Yaml
