import Shipshape.Engine.Program
import Shipshape.Memory.Engine
import Shipshape.Memory.HostTree

/-!
# A world in memory

Everything that a program can ask, kept as a value: an engine whose calls may be made to fail, a service
supervisor with fixed answers, and the host's directories. Running a program in a world answers its calls one
after the other; no time passes but that of its pauses.
-/

namespace Shipshape

/-- The outside world of a program, and what was asked of it. -/
structure World where
  engine : MemoryEngine := {}
  /-- By the name of a call, whether its next uses fail. -/
  faults : Dict (List (Option Fault)) := ∅
  /-- By the name of a call, what the supervisor answers. -/
  supervisor : Dict Bool := ∅
  host : HostTree := .standard
  /-- The calls so far, the last one first. -/
  calls : List Call := []
  /-- The milliseconds slept so far. -/
  slept : Nat := 0

namespace World

/-- What a supervisor answers that does nothing: no unit ever changes, and everything else succeeds. -/
def quietAnswer : UnitCall → Bool
  | .checkChanged | .create | .remove => false
  | .start | .stop | .restart => true

def nextFault (w : World) (name : String) : Option Fault × World :=
  match w.faults.get? name with
  | some (fault :: rest) => (fault, { w with faults := w.faults.insert name rest })
  | _ => (none, w)

def answerEngine (w : World) (c : EngineCall) : Except Fault c.Reply × World :=
  match w.nextFault c.name with
  | (some fault, w) => (.error fault, w)
  | (none, w) =>
    let (reply, engine) := w.engine.answer c
    (reply, { w with engine })

def answer (w : World) (c : Call) : c.Answer × World :=
  let w := { w with calls := c :: w.calls }
  match c with
  | .engine c => w.answerEngine c
  | .unit c _ => ((w.supervisor.get? c.name).getD (quietAnswer c), w)
  | .hostPath path =>
    let (made, host) := w.host.ensure path
    (made, { w with host })

end World

def Program.runIn {α : Type} : Program α → World → α × World
  | done a, w => (a, w)
  | call c next, w =>
    let (answer, w) := w.answer c
    (next answer).runIn w
  | sleep ms next, w => next.runIn { w with slept := w.slept + ms }
  | note _ next, w => next.runIn w

theorem Program.runIn_collectNotesAfter {α : Type} (earlier : List Note) (p : Program α) (w : World) :
    ((p.collectNotesAfter earlier).runIn w).map Prod.fst id = p.runIn w := by
  induction p generalizing earlier w with
  | done a => rfl
  | call c next ih => exact ih _ _ _
  | sleep ms next ih => exact ih _ _
  | note n next ih => exact ih _ _

def Procedure.runIn {α : Type} (p : Procedure α) (w : World) : Except Error α × World :=
  Program.runIn p.run w

end Shipshape
