/-!
# The characters of a YAML text

Which characters a text may hold, which of them leave a gap or end a line, and what line breaks inside a
scalar stand for.
-/

namespace Shipshape.Yaml

def isGap (c : Char) : Bool := c = ' ' || c = '\t'

/-- A character that ends a line, once line breaks have one spelling. The line separator and the paragraph
separator end a line too, but stay what they are. -/
def isBreak (c : Char) : Bool := c = '\n' || c = '\u2028' || c = '\u2029'

def isGapOrEnd (next : Option Char) : Bool :=
  next.all fun c => isGap c || isBreak c

/-- Whether a character may stand in a text; control characters may not. -/
def isTextChar (c : Char) : Bool :=
  isGap c || c = '\n' || c = '\r' || (0x20 ≤ c.toNat && c.toNat ≤ 0x7E) || c.toNat = 0x85 ||
    (0xA0 ≤ c.toNat && c.toNat ≠ 0xFFFE && c.toNat ≠ 0xFFFF)

/-- The text with one spelling of line breaks. -/
def unifyBreaks : List Char → List Char
  | [] => []
  | '\r' :: '\n' :: cs => '\n' :: unifyBreaks cs
  | c :: cs => (if c = '\r' || c.toNat = 0x85 then '\n' else c) :: unifyBreaks cs

/-- A mark before the first character that tells the order of the bytes. -/
def byteOrderMark : Char := '\ufeff'

/-- The line breaks in a row inside a scalar. The first is missing if it was escaped; the others are listed with
the last one first. -/
structure Breaks where
  first : Option Char
  later : List Char := []

namespace Breaks

def push (b : Breaks) (c : Char) : Breaks :=
  { b with later := c :: b.later }

/-- What the line breaks stand for, with the last character first. A line feed alone is a blank, and one that is
followed by other line breaks is dropped. -/
def folded (b : Breaks) : List Char :=
  match b.first with
  | some '\n' => if b.later.isEmpty then [' '] else b.later
  | first => b.later ++ first.toList

end Breaks

end Shipshape.Yaml
