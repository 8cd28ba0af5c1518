import Shipshape.Error
import Shipshape.Text.Blank
import Shipshape.Text.Quoted

/-!
# Command lines

A command line is split into words as a shell does it: blanks separate words, single quotes keep
everything as it is, double quotes let a backslash escape `"`, `\`, `$` and the backquote, and a bare
backslash escapes the character behind it. A backslash before a line feed joins the lines.
-/

namespace Shipshape.CommandLine

/-- What the scanner is in the middle of. -/
inductive Mode where
  | plain
  | singleQuoted
  | doubleQuoted
  /-- Behind a backslash outside quotes. -/
  | escaped
  /-- Behind a backslash between double quotes. -/
  | doubleEscaped
  deriving DecidableEq, Repr

/-- Where the scanner stands: the finished words and the characters of the current one, both in reverse
order, and whether there is a current word, which may be empty. -/
structure State where
  mode : Mode
  words : List (List Char)
  word : List Char
  inWord : Bool
  deriving DecidableEq, Repr

def State.start : State := ⟨.plain, [], [], false⟩

/-- Adds a character to the current word. -/
def State.push (s : State) (c : Char) : State :=
  { s with word := c :: s.word, inWord := true }

/-- Ends the current word, if there is one. -/
def State.flush (s : State) : State :=
  if s.inWord then { s with words := s.word.reverse :: s.words, word := [], inWord := false } else s

/-- Whether a backslash between double quotes escapes the character. -/
def isDoubleEscapable (c : Char) : Bool :=
  c = '"' || c = '\\' || c = '$' || c.toNat = 0x60

def step (s : State) (c : Char) : State :=
  match s.mode with
  | .plain =>
    if c = '\'' then { s with mode := .singleQuoted, inWord := true }
    else if c = '"' then { s with mode := .doubleQuoted, inWord := true }
    else if c = '\\' then { s with mode := .escaped }
    else if Text.isBlank c then s.flush
    else s.push c
  | .singleQuoted => if c = '\'' then { s with mode := .plain } else s.push c
  | .doubleQuoted =>
    if c = '"' then { s with mode := .plain }
    else if c = '\\' then { s with mode := .doubleEscaped }
    else s.push c
  | .escaped => if c = '\n' then { s with mode := .plain } else { s.push c with mode := .plain }
  | .doubleEscaped =>
    if isDoubleEscapable c then { s.push c with mode := .doubleQuoted }
    else if c = '\n' then { s with mode := .doubleQuoted }
    else { (s.push '\\').push c with mode := .doubleQuoted }

/-- Where the scanner stands behind a text. -/
def scan (s : State) (cs : List Char) : State :=
  cs.foldl step s

/-- The words of a finished scan; none if it ended inside quotes or behind a backslash. -/
def State.finish? (s : State) : Option (List (List Char)) :=
  if s.mode = .plain then some s.flush.words.reverse else none

/-- The words of a command line; none if its quoting is not balanced. -/
def wordsOf? (cs : List Char) : Option (List (List Char)) :=
  (scan .start cs).finish?

def split (line : String) : Except Error (List String) :=
  match wordsOf? line.toList with
  | some words => .ok (words.map .ofList)
  | none =>
    .error (.invalidParameters ("cannot split command " ++ Text.quoted line ++ ": unbalanced quoting"))

/-- Whether two command lines have the same words when blanks alone separate them. -/
def sameWords (a b : String) : Bool :=
  Text.words a == Text.words b

end Shipshape.CommandLine
