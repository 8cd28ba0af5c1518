import Shipshape.Drift.Trace
import Shipshape.Engine.Call

/-!
# Programs

A program is a tree of calls to the outside world: each call goes on with every possible answer. Notes and
pauses are part of the tree too. What a program does against any environment whatsoever is a statement
about the tree; `Memory` runs it against one.
-/

namespace Shipshape

/-- What is done, step by step, until there is a result. -/
inductive Program (α : Type) : Type where
  | done (a : α)
  | call (c : Call) (next : c.Answer → Program α)
  /-- Pause for a number of milliseconds. -/
  | sleep (ms : Nat) (next : Program α)
  /-- Leave a note. -/
  | note (n : Note) (next : Program α)

namespace Program

variable {α β : Type}

/-- Goes on with another program. -/
def bind : Program α → (α → Program β) → Program β
  | done a, f => f a
  | call c next, f => call c fun answer => (next answer).bind f
  | sleep ms next, f => sleep ms (next.bind f)
  | note n next, f => note n (next.bind f)

instance : Monad Program where
  pure := done
  bind := bind

def ask (c : Call) : Program c.Answer := call c done

/-- The same program with its notes as part of the result, behind earlier ones; those are given with the newest
first, and the result has the oldest first. -/
def collectNotesAfter (earlier : List Note) : Program α → Program (α × List Note)
  | done a => done (a, earlier.reverse)
  | call c next => call c fun answer => (next answer).collectNotesAfter earlier
  | sleep ms next => sleep ms (next.collectNotesAfter earlier)
  | note n next => next.collectNotesAfter (n :: earlier)

/-- The same program with its notes as part of the result, oldest first. -/
def collectNotes (p : Program α) : Program (α × List Note) :=
  p.collectNotesAfter []

end Program

abbrev Procedure := ExceptT Error Program

namespace Procedure

def engine (c : EngineCall) : Procedure (Except Fault c.Reply) :=
  ExceptT.lift (.ask (.engine c))

/-- Asks the service supervisor. -/
def unit (c : UnitCall) (name : String) : Procedure Bool :=
  ExceptT.lift (.ask (.unit c name))

def note (n : Note) : Procedure Unit :=
  ExceptT.lift (.note n (.done ()))

def record (line : String) : Procedure Unit := note (.decision line)

def detail (line : String) : Procedure Unit := note (.detail line)

/-- Leaves notes one after the other. -/
def notes : List Note → Procedure Unit
  | [] => pure ()
  | n :: ns => do
    note n
    notes ns

/-- Pauses for a number of milliseconds. -/
def sleep (ms : Nat) : Procedure Unit :=
  ExceptT.lift (.sleep ms (.done ()))

/-- The same procedure with its notes as part of the result, oldest first; an error drops them. -/
def collectNotes {α : Type} (p : Procedure α) : Procedure (α × List Note) :=
  ExceptT.mk ((Program.collectNotes p.run).bind fun r => .done (r.1.map fun a => (a, r.2)))

/-- Takes over the result of a computation. -/
def ofExcept {α : Type} (r : Except Error α) : Procedure α :=
  ExceptT.mk (.done r)

/-- Asks the engine; a fault is an error of the operation. -/
def engineOrFail (c : EngineCall) : Procedure c.Reply := do
  match ← engine c with
  | .ok reply => return reply
  | .error f => throw (f.toError c.name)

/-- Asks the engine for something that may not exist. -/
def engineIfFound (c : EngineCall) : Procedure (Option c.Reply) := do
  match ← engine c with
  | .ok reply => return some reply
  | .error f => if f.isNotFound then return none else throw (f.toError c.name)

end Procedure

end Shipshape
