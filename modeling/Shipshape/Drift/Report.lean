import Shipshape.Decimal.Integer
import Shipshape.Drift.Comparator
import Shipshape.Text.Pieces

/-!
# Drift for readers

The lines of two texts side by side (`Diff`): an edit script that keeps as many lines as possible, and its form
for readers. Where several scripts are equally short, lines are dropped before others are added. The diff of
everything that differs has the secrets hidden; for each attribute it shows its name in brackets, and its value
as an indented document.
-/

namespace Shipshape

namespace Diff

/-- A line of an edit script. -/
inductive Edit where
  /-- A line that both texts have. -/
  | keep (line : String)
  /-- A line of the current text only. -/
  | drop (line : String)
  /-- A line of the desired text only. -/
  | add (line : String)
  deriving DecidableEq, Repr

/-- A script for two texts and the number of lines that it keeps. -/
structure Script where
  kept : Nat
  edits : List Edit
  deriving DecidableEq, Repr

/-- The script from the scripts without the first line of the current text, of both, and of the desired
text. -/
def Script.best (x y : String) (withoutX withoutBoth withoutY : Script) : Script :=
  if x = y then ⟨withoutBoth.kept + 1, .keep x :: withoutBoth.edits⟩
  else if withoutY.kept ≤ withoutX.kept then ⟨withoutX.kept, .drop x :: withoutX.edits⟩
  else ⟨withoutY.kept, .add y :: withoutY.edits⟩

/-- The scripts of no lines with every end of the desired text, the longest end first. -/
def emptyRow : List String → List Script
  | [] => [⟨0, []⟩]
  | y :: ys => ⟨0, (y :: ys).map .add⟩ :: emptyRow ys

/-- The scripts of a text that starts with `x` with every end of the desired text, from the scripts of the
text behind `x`. -/
def nextRow (x : String) : List String → List Script → List Script
  | y :: ys, withoutX :: below =>
    match below, nextRow x ys below with
    | withoutBoth :: _, withoutY :: row =>
      .best x y withoutX withoutBoth withoutY :: withoutY :: row
    | _, row => row
  | _, below => below.map fun s => ⟨s.kept, .drop x :: s.edits⟩

def script (current desired : List String) : Script :=
  (current.foldr (fun x below => nextRow x desired below) (emptyRow desired)).headD ⟨0, []⟩

/-- A line of a script for readers. -/
def Edit.text : Edit → String
  | keep line => "  " ++ line
  | drop line => "- " ++ line
  | add line => "+ " ++ line

/-- The lines above a script: the names of the sides and their numbers of lines. -/
def header (current desired : List String) : List String :=
  ["--- current", "+++ desired",
    "@@ -1," ++ Decimal.natText current.length ++ " +1," ++ Decimal.natText desired.length ++ " @@"]

/-- The diff of two texts for readers. -/
def unified (current desired : List String) : String :=
  "\n".intercalate (header current desired ++ (script current desired).edits.map Edit.text) ++ "\n"

end Diff

namespace Drift

/-- The lines of one side of an attribute; a text stands as it is. -/
def sideLines (a : Attribute) (v : Json) : List String :=
  ("[" ++ a.name ++ "]") :: Text.lines (match v with
    | .str s => s
    | v => v.indented)

/-- The entries in the order of the attributes' names. -/
def byName (entries : List DriftEntry) : List DriftEntry :=
  entries.mergeSort fun d e => (compare d.key.name e.key.name).isLE

/-- The diff of everything that differs; none if nothing does. -/
def report? (d : Drift) : Option String :=
  if !d.changed then none
  else
    let shown := (byName d.entries).map fun e => (e.key, Secret.redact e.key e.shown)
    some (Diff.unified (shown.flatMap fun p => sideLines p.1 p.2.current)
      (shown.flatMap fun p => sideLines p.1 p.2.desired))

end Drift

end Shipshape
