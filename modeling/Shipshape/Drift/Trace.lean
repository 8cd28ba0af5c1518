/-!
# Traces

The lines that an invocation leaves behind for its reader: decisions at least, and details on request.
-/

namespace Shipshape

/-- How much a trace keeps. -/
inductive Verbosity where
  /-- Nothing. -/
  | quiet
  /-- Decisions and differences. -/
  | normal
  /-- Also what matched, and every look at a container that is waited for. -/
  | verbose
  deriving DecidableEq, Repr, Ord

namespace Verbosity

def name : Verbosity → String
  | quiet => "quiet"
  | normal => "normal"
  | verbose => "verbose"

def ofName? : String → Option Verbosity
  | "quiet" => some quiet
  | "normal" => some normal
  | "verbose" => some verbose
  | _ => none

/-- Whether the first verbosity keeps everything that the second one does. -/
def atLeast (v w : Verbosity) : Bool :=
  (compare w v).isLE

/-- The greater one of two verbosities. -/
def raise (v w : Verbosity) : Verbosity :=
  if v.atLeast w then v else w

end Verbosity

/-- A line and the least verbosity that keeps it. -/
structure Note where
  level : Verbosity
  line : String
  deriving DecidableEq, Repr

namespace Note

def decision (line : String) : Note := ⟨.normal, line⟩

def detail (line : String) : Note := ⟨.verbose, line⟩

end Note

/-- The lines kept so far, oldest first. -/
structure Trace where
  verbosity : Verbosity
  lines : List String
  deriving DecidableEq, Repr

namespace Trace

def empty (v : Verbosity) : Trace := ⟨v, []⟩

/-- Adds a line, if the verbosity keeps it. -/
def push (t : Trace) (n : Note) : Trace :=
  if t.verbosity.atLeast n.level then { t with lines := t.lines ++ [n.line] } else t

/-- Adds lines one after the other. -/
def pushAll (t : Trace) (notes : List Note) : Trace :=
  notes.foldl push t

/-- Keeps more from now on, never less. -/
def raiseTo (t : Trace) (v : Verbosity) : Trace :=
  { t with verbosity := t.verbosity.raise v }

end Trace

end Shipshape
