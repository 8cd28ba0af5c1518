import Shipshape.Memory.World
import Shipshape.Proofs.Engine.Run

/-!
# Runs in a world

A world answers every call, so a program has one run in it (`Program.run_historyIn`). What holds of every
run therefore holds in every world.

Proof outline. Running a sequence is running its parts one after the other (`Procedure.runIn_bind`); with one
equation for each thing a procedure is built from, running a procedure unfolds to the answers of the
world. Where only the kind of calls matters, `Program.Asks.runIn` carries an invariant of worlds through
it.
-/

namespace Shipshape

namespace Program

variable {α β : Type}

def historyIn : Program α → World → History
  | done _, _ => []
  | call c next, w => .answered c (w.answer c).1 :: (next (w.answer c).1).historyIn (w.answer c).2
  | sleep ms next, w => .slept ms :: next.historyIn { w with slept := w.slept + ms }
  | note _ next, w => next.historyIn w

/-- Running a program in a world is one of its runs. -/
theorem run_historyIn (p : Program α) (w : World) : Run p (p.historyIn w) (p.runIn w).1 := by
  induction p generalizing w with
  | done a => exact .done a
  | call c next ih => exact .call _ (ih _ _)
  | sleep ms next ih => exact .sleep (ih _)
  | note n next ih => exact .note (ih w)

theorem runIn_bind (p : Program α) (f : α → Program β) (w : World) :
    (p.bind f).runIn w = (f (p.runIn w).1).runIn (p.runIn w).2 := by
  induction p generalizing w with
  | done a => rfl
  | call c next ih => exact ih _ _
  | sleep ms next ih => exact ih _
  | note n next ih => exact ih w

/-- A program that asks only what is allowed keeps an invariant of worlds that allowed calls and pauses
keep. -/
theorem Asks.runIn {allowed : Call → Prop} {p : Program α} (hp : p.Asks allowed)
    {I : World → Prop} (hcall : ∀ w c, allowed c → I w → I (w.answer c).2)
    (hsleep : ∀ (w : World) ms, I w → I { w with slept := w.slept + ms }) {w : World} (hI : I w) :
    I (p.runIn w).2 := by
  induction p generalizing w with
  | done a => exact hI
  | call c next ih => exact ih _ (hp.2 _) (hcall w c hp.1 hI)
  | sleep ms next ih => exact ih hp (hsleep w ms hI)
  | note n next ih => exact ih hp hI

end Program

namespace Procedure

variable {α β : Type}

@[simp] theorem runIn_pure (a : α) (w : World) : (pure a : Procedure α).runIn w = (.ok a, w) := rfl

@[simp] theorem runIn_throw (e : Error) (w : World) :
    (throw e : Procedure α).runIn w = (.error e, w) := rfl

@[simp] theorem runIn_ofExcept (r : Except Error α) (w : World) :
    (ofExcept r).runIn w = (r, w) := rfl

/-- A sequence runs its first part, and if that returns, what comes after. -/
theorem runIn_bind (p : Procedure α) (f : α → Procedure β) (w : World) :
    (p >>= f).runIn w = match p.runIn w with
      | (.ok a, w') => (f a).runIn w'
      | (.error e, w') => (.error e, w') := by
  refine (Program.runIn_bind p.run _ w).trans ?_
  unfold runIn
  generalize Program.runIn p.run w = answered
  obtain ⟨r, w'⟩ := answered
  cases r with
  | ok a => rfl
  | error e => rfl

theorem runIn_bind_ok {p : Procedure α} {w w' : World} {a : α} (h : p.runIn w = (.ok a, w'))
    (f : α → Procedure β) : (p >>= f).runIn w = (f a).runIn w' := by
  rw [runIn_bind, h]

theorem runIn_bind_eq_ok {p : Procedure α} {f : α → Procedure β} {w w'' : World} {b : β} :
    (p >>= f).runIn w = (.ok b, w'') ↔
      ∃ a w', p.runIn w = (.ok a, w') ∧ (f a).runIn w' = (.ok b, w'') := by
  rw [runIn_bind]
  obtain ⟨r, w'⟩ := p.runIn w
  cases r with
  | ok a =>
    constructor
    · intro h
      exact ⟨a, w', rfl, h⟩
    · rintro ⟨_, _, ⟨⟩, h⟩
      exact h
  | error e => simp

theorem runIn_ofExcept_bind_eq_ok {r : Except Error α} {f : α → Procedure β} {w w' : World} {b : β} :
    (ofExcept r >>= f).runIn w = (.ok b, w') ↔ ∃ a, r = .ok a ∧ (f a).runIn w = (.ok b, w') := by
  rw [runIn_bind, runIn_ofExcept]
  cases r with
  | ok a => simp
  | error e => simp

theorem runIn_map (f : α → β) (p : Procedure α) (w : World) :
    (f <$> p).runIn w = ((p.runIn w).1.map f, (p.runIn w).2) := by
  refine (Program.runIn_bind p.run _ w).trans ?_
  unfold runIn
  generalize Program.runIn p.run w = answered
  obtain ⟨r, w'⟩ := answered
  cases r with
  | ok a => rfl
  | error e => rfl

theorem exists_of_runIn_discard {p : Procedure α} {w w' : World} {u : Unit}
    (h : (discard p).runIn w = (.ok u, w')) : ∃ a, p.runIn w = (.ok a, w') := by
  have hmap := (runIn_map (fun _ => ()) p w).symm.trans h
  generalize p.runIn w = answered at hmap
  obtain ⟨r, w₁⟩ := answered
  injection hmap with hr hw
  subst hw
  cases r with
  | ok a => exact ⟨a, rfl⟩
  | error e => cases hr

theorem runIn_engine (c : EngineCall) (w : World) :
    (engine c).runIn w = (.ok (w.answer (.engine c)).1, (w.answer (.engine c)).2) := rfl

theorem runIn_engineIfFound (c : EngineCall) (w : World) : (engineIfFound c).runIn w =
    (match (w.answer (.engine c)).1 with
      | .ok reply => .ok (some reply)
      | .error f => if f.isNotFound then .ok none else .error (f.toError c.name),
      (w.answer (.engine c)).2) := by
  rw [engineIfFound, runIn_bind, runIn_engine]
  cases (w.answer (.engine c)).1 with
  | ok reply => rfl
  | error f =>
    dsimp only
    split
    · rfl
    · rfl

theorem runIn_engineOrFail (c : EngineCall) (w : World) : (engineOrFail c).runIn w =
    (match (w.answer (.engine c)).1 with
      | .ok reply => .ok reply
      | .error f => .error (f.toError c.name),
      (w.answer (.engine c)).2) := by
  rw [engineOrFail, runIn_bind, runIn_engine]
  cases (w.answer (.engine c)).1 with
  | ok reply => rfl
  | error f => rfl

theorem runIn_unit (c : UnitCall) (name : String) (w : World) :
    (unit c name).runIn w = (.ok (w.answer (.unit c name)).1, (w.answer (.unit c name)).2) := rfl

@[simp] theorem runIn_record (line : String) (w : World) : (record line).runIn w = (.ok (), w) := rfl

@[simp] theorem runIn_detail (line : String) (w : World) : (detail line).runIn w = (.ok (), w) := rfl

@[simp] theorem runIn_notes (ns : List Note) (w : World) : (notes ns).runIn w = (.ok (), w) := by
  induction ns with
  | nil => rfl
  | cons n ns ih => rw [notes, runIn_bind]; exact ih

/-- What is true of everything that a procedure may return is true of what it returns in a world. -/
theorem Yields.runIn {good : α → Prop} {p : Procedure α} (hp : p.Yields good) {w w' : World} {a : α}
    (h : p.runIn w = (.ok a, w')) : good a := by
  have hrun := Program.run_historyIn p.run w
  rw [show Program.runIn p.run w = (.ok a, w') from h] at hrun
  exact hp.of_run hrun

theorem runIn_collectNotes (p : Procedure α) (w : World) :
    ∃ notes, p.collectNotes.runIn w = ((p.runIn w).1.map fun a => (a, notes), (p.runIn w).2) := by
  have hsame := Program.runIn_collectNotesAfter [] p.run w
  refine ⟨((Program.collectNotes p.run).runIn w).1.2, ?_⟩
  refine (Program.runIn_bind _ _ w).trans ?_
  rw [runIn, ← hsame]
  rfl

/-- A procedure that asks only what is allowed keeps an invariant of worlds that allowed calls and pauses
keep. -/
theorem Asks.runIn {allowed : Call → Prop} {p : Procedure α} (hp : p.Asks allowed)
    {I : World → Prop} (hcall : ∀ w c, allowed c → I w → I (w.answer c).2)
    (hsleep : ∀ (w : World) ms, I w → I { w with slept := w.slept + ms }) {w : World} (hI : I w) :
    I (p.runIn w).2 :=
  Program.Asks.runIn hp hcall hsleep hI

end Procedure

end Shipshape
