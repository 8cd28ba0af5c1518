import Shipshape.Proofs.Memory.Run

/-!
# Outside worlds of any kind

A responder is an outside world that answers by its state: whatever the state is, the same call gets the same
answer in it. Two programs that are run from the same state see the same as long as they ask the same, so this
is where statements about two runs are made. The world in memory is one responder (`Responder.memory`); that
nothing is assumed of the others makes the statements hold against every engine and supervisor.

Proof outline. A run against a responder is a run (`run_events`), so what holds of every run holds here too.
A sequence is run part by part (`bind_of_error`, `bind_of_ok`), and a program that collects its notes does what
the program does (`collectNotes_eq`). Where only what is returned matters, `Returns` unfolds along the sequence
(`returns_bind`) to the answers to the single calls.
-/

namespace Shipshape

/-- An outside world, as a function of its state. -/
structure Responder (σ : Type) where
  answer : σ → (c : Call) → c.Answer × σ
  /-- What becomes of the state in a number of milliseconds. -/
  pause : σ → Nat → σ

namespace Responder

variable {σ α β : Type} (r : Responder σ)

/-- Runs a program from a state: its result, and the state afterwards. -/
def run : Program α → σ → α × σ
  | .done a, x => (a, x)
  | .call c next, x => run (next (r.answer x c).1) (r.answer x c).2
  | .sleep ms next, x => run next (r.pause x ms)
  | .note _ next, x => run next x

/-- What happens when a program is run from a state. -/
def history : Program α → σ → History
  | .done _, _ => []
  | .call c next, x => .answered c (r.answer x c).1 :: history (next (r.answer x c).1) (r.answer x c).2
  | .sleep ms next, x => .slept ms :: history next (r.pause x ms)
  | .note _ next, x => history next x

theorem run_history (p : Program α) (x : σ) : Program.Run p (r.history p x) (r.run p x).1 := by
  induction p generalizing x with
  | done a => exact .done a
  | call c next ih => exact .call _ (ih _ _)
  | sleep ms next ih => exact .sleep (ih _)
  | note n next ih => exact .note (ih x)

theorem run_bind (p : Program α) (f : α → Program β) (x : σ) :
    r.run (p.bind f) x = r.run (f (r.run p x).1) (r.run p x).2 := by
  induction p generalizing x with
  | done a => rfl
  | call c next ih => exact ih _ _
  | sleep ms next ih => exact ih _
  | note n next ih => exact ih x

theorem history_bind (p : Program α) (f : α → Program β) (x : σ) :
    r.history (p.bind f) x = r.history p x ++ r.history (f (r.run p x).1) (r.run p x).2 := by
  induction p generalizing x with
  | done a => rfl
  | call c next ih => exact congrArg (_ :: ·) (ih _ _)
  | sleep ms next ih => exact congrArg (_ :: ·) (ih _)
  | note n next ih => exact ih x

theorem run_collectNotesAfter (earlier : List Note) (p : Program α) (x : σ) :
    (r.run (p.collectNotesAfter earlier) x).map Prod.fst id = r.run p x := by
  induction p generalizing earlier x with
  | done a => rfl
  | call c next ih => exact ih _ _ _
  | sleep ms next ih => exact ih _ _
  | note n next ih => exact ih _ x

theorem history_collectNotesAfter (earlier : List Note) (p : Program α) (x : σ) :
    r.history (p.collectNotesAfter earlier) x = r.history p x := by
  induction p generalizing earlier x with
  | done a => rfl
  | call c next ih => exact congrArg (_ :: ·) (ih _ _ _)
  | sleep ms next ih => exact congrArg (_ :: ·) (ih _ _)
  | note n next ih => exact ih _ x

/-! ### Procedures -/

/-- What a procedure ends with, from a state. -/
def result (p : Procedure α) (x : σ) : Except Error α := (r.run p.run x).1

/-- The state in which a procedure leaves the outside world. -/
def after (p : Procedure α) (x : σ) : σ := (r.run p.run x).2

/-- What happens when a procedure is run from a state. -/
def events (p : Procedure α) (x : σ) : History := r.history p.run x

theorem run_events (p : Procedure α) (x : σ) : Program.Run p.run (r.events p x) (r.result p x) :=
  r.run_history p.run x

theorem result_ofExcept (e : Except Error α) (x : σ) : r.result (.ofExcept e) x = e := rfl

theorem after_ofExcept (e : Except Error α) (x : σ) : r.after (.ofExcept e) x = x := rfl

theorem result_engine (c : EngineCall) (x : σ) :
    r.result (.engine c) x = .ok (r.answer x (.engine c)).1 := rfl

theorem after_engine (c : EngineCall) (x : σ) : r.after (.engine c) x = (r.answer x (.engine c)).2 := rfl

section sequences

variable {p : Procedure α} {f : α → Procedure β} {x : σ}

/-- A sequence of which the first part fails is over then. -/
theorem bind_of_error {e : Error} (h : r.result p x = .error e) :
    r.result (p >>= f) x = .error e ∧ r.events (p >>= f) x = r.events p x := by
  unfold result at h
  constructor
  · refine (congrArg Prod.fst (r.run_bind p.run _ x)).trans ?_
    rw [h]
    rfl
  · refine (r.history_bind p.run _ x).trans ?_
    rw [h]
    exact List.append_nil _

/-- A sequence of which the first part returns goes on in the state that this left. -/
theorem bind_of_ok {a : α} (h : r.result p x = .ok a) :
    r.result (p >>= f) x = r.result (f a) (r.after p x) ∧
      r.events (p >>= f) x = r.events p x ++ r.events (f a) (r.after p x) ∧
      r.after (p >>= f) x = r.after (f a) (r.after p x) := by
  unfold result at h
  refine ⟨?_, ?_, ?_⟩
  · refine (congrArg Prod.fst (r.run_bind p.run _ x)).trans ?_
    rw [h]
    rfl
  · refine (r.history_bind p.run _ x).trans ?_
    rw [h]
    rfl
  · refine (congrArg Prod.snd (r.run_bind p.run _ x)).trans ?_
    rw [h]
    rfl

theorem bind_pure_eq (p : Procedure α) (g : α → β) (x : σ) :
    r.result (p >>= fun a => pure (g a)) x = (r.result p x).map g ∧
      r.events (p >>= fun a => pure (g a)) x = r.events p x ∧
      r.after (p >>= fun a => pure (g a)) x = r.after p x := by
  have hrun := r.run_bind p.run (fun result => (ExceptT.bindCont (fun a => pure (g a)) result)) x
  have hhistory := r.history_bind p.run (fun result => (ExceptT.bindCont (fun a => pure (g a)) result)) x
  unfold result events after
  rcases hfirst : r.run p.run x with ⟨e | a, y⟩
  · rw [hfirst] at hrun hhistory
    exact ⟨congrArg Prod.fst hrun, hhistory.trans (List.append_nil _), congrArg Prod.snd hrun⟩
  · rw [hfirst] at hrun hhistory
    exact ⟨congrArg Prod.fst hrun, hhistory.trans (List.append_nil _), congrArg Prod.snd hrun⟩

theorem run_collectNotes (p : Procedure α) (x : σ) : ∃ notes, r.run p.collectNotes.run x =
    ((r.run p.run x).1.map fun a => (a, notes), (r.run p.run x).2) := by
  refine ⟨(r.run (Program.collectNotes p.run) x).1.2, (r.run_bind _ _ x).trans ?_⟩
  rw [← r.run_collectNotesAfter [] p.run x]
  rfl

theorem collectNotes_eq (p : Procedure α) (x : σ) :
    (∃ notes, r.result p.collectNotes x = (r.result p x).map fun a => (a, notes)) ∧
      r.events p.collectNotes x = r.events p x := by
  obtain ⟨notes, hrun⟩ := r.run_collectNotes p x
  refine ⟨⟨notes, congrArg Prod.fst hrun⟩, (r.history_bind _ _ x).trans ?_⟩
  rw [events, ← r.history_collectNotesAfter [] p.run x]
  exact List.append_nil _

end sequences

/-! ### What is returned, and what is left -/

def Returns (p : Procedure α) (x : σ) (a : α) (y : σ) : Prop := r.run p.run x = (.ok a, y)

section returns

variable {p : Procedure α} {f : α → Procedure β} {x y : σ} {a : α} {b : β}

theorem returns_iff_of_run {result : Except Error α} {z : σ} (h : r.run p.run x = (result, z)) :
    r.Returns p x a y ↔ result = .ok a ∧ z = y := by
  unfold Returns
  rw [h, Prod.mk.injEq]

theorem returns_ofExcept {result : Except Error α} : r.Returns (.ofExcept result) x a y ↔ result = .ok a ∧ x = y :=
  r.returns_iff_of_run rfl

theorem returns_pure {b : α} : r.Returns (pure b) x a y ↔ b = a ∧ x = y := by
  have hpure : r.Returns (.ofExcept (.ok b)) x a y ↔ Except.ok b = .ok a ∧ x = y := r.returns_ofExcept
  rwa [Except.ok.injEq] at hpure

/-- A sequence returns where its first part does, and then what comes after. -/
theorem returns_bind : r.Returns (p >>= f) x b y ↔ ∃ a z, r.Returns p x a z ∧ r.Returns (f a) z b y := by
  have hrun : r.run (p >>= f).run x = _ := r.run_bind p.run (ExceptT.bindCont f) x
  rcases hfirst : r.run p.run x with ⟨e | a, z⟩
  · rw [hfirst] at hrun
    rw [r.returns_iff_of_run hrun]
    constructor
    · rintro ⟨⟨⟩, -⟩
    · rintro ⟨a, z', ha, -⟩
      obtain ⟨⟨⟩, -⟩ := (r.returns_iff_of_run hfirst).1 ha
  · rw [hfirst] at hrun
    constructor
    · intro h
      exact ⟨a, z, hfirst, hrun.symm.trans h⟩
    · rintro ⟨a', z', ha, h⟩
      obtain ⟨⟨⟩, rfl⟩ := (r.returns_iff_of_run hfirst).1 ha
      exact hrun.trans h

theorem returns_ofExcept_bind {result : Except Error α} :
    r.Returns (.ofExcept result >>= f) x b y ↔ ∃ a, result = .ok a ∧ r.Returns (f a) x b y := by
  rw [returns_bind]
  constructor
  · rintro ⟨a, z, ha, h⟩
    obtain ⟨hresult, rfl⟩ := r.returns_ofExcept.1 ha
    exact ⟨a, hresult, h⟩
  · rintro ⟨a, ha, h⟩
    exact ⟨a, x, r.returns_ofExcept.2 ⟨ha, rfl⟩, h⟩

theorem returns_discard {u : Unit} : r.Returns (discard p) x u y ↔ ∃ a, r.Returns p x a y := by
  have hmap : (discard p : Procedure Unit) = p >>= fun _ => pure () := rfl
  simp only [hmap, returns_bind, returns_pure, true_and, exists_eq_right]

theorem returns_ask {c : Call} {answer : c.Answer} :
    r.Returns (ExceptT.lift (Program.ask c)) x answer y ↔ r.answer x c = (answer, y) := by
  have hrun : r.run (ExceptT.lift (Program.ask c) : Procedure c.Answer).run x =
      (.ok (r.answer x c).1, (r.answer x c).2) := rfl
  rw [r.returns_iff_of_run hrun, Except.ok.injEq, Prod.ext_iff]

theorem returns_engine {c : EngineCall} {reply : Except Fault c.Reply} :
    r.Returns (.engine c) x reply y ↔ r.answer x (.engine c) = (reply, y) :=
  r.returns_ask

theorem returns_unit {c : UnitCall} {name : String} {said : Bool} :
    r.Returns (.unit c name) x said y ↔ r.answer x (.unit c name) = (said, y) :=
  r.returns_ask

theorem returns_engineOrFail {c : EngineCall} {reply : c.Reply} :
    r.Returns (.engineOrFail c) x reply y ↔ r.answer x (.engine c) = (.ok reply, y) := by
  simp only [Procedure.engineOrFail, returns_bind, returns_engine]
  constructor
  · rintro ⟨f | reply', z, hanswer, h⟩
    · cases h
    · obtain ⟨rfl, rfl⟩ := r.returns_pure.1 h
      exact hanswer
  · intro h
    exact ⟨_, y, h, r.returns_pure.2 ⟨rfl, rfl⟩⟩

theorem returns_engineIfFound {c : EngineCall} {found : Option c.Reply} :
    r.Returns (.engineIfFound c) x found y ↔
      (∃ reply, found = some reply ∧ r.answer x (.engine c) = (.ok reply, y)) ∨
      ∃ f : Fault, found = none ∧ f.isNotFound = true ∧ r.answer x (.engine c) = (.error f, y) := by
  simp only [Procedure.engineIfFound, returns_bind, returns_engine]
  constructor
  · rintro ⟨f | reply, z, hanswer, h⟩
    · cases hf : f.isNotFound with
      | true =>
        simp only [hf, if_true] at h
        obtain ⟨rfl, rfl⟩ := r.returns_pure.1 h
        exact .inr ⟨f, rfl, hf, hanswer⟩
      | false =>
        simp only [hf] at h
        cases h
    · obtain ⟨rfl, rfl⟩ := r.returns_pure.1 h
      exact .inl ⟨reply, rfl, hanswer⟩
  · rintro (⟨reply, rfl, hanswer⟩ | ⟨f, rfl, hf, hanswer⟩)
    · exact ⟨_, y, hanswer, r.returns_pure.2 ⟨rfl, rfl⟩⟩
    · refine ⟨_, y, hanswer, ?_⟩
      simp only [hf, if_true]
      exact r.returns_pure.2 ⟨rfl, rfl⟩

theorem returns_collectNotes : (∃ notes, r.Returns p.collectNotes x (a, notes) y) ↔ r.Returns p x a y := by
  obtain ⟨notes, hrun⟩ := r.run_collectNotes p x
  rcases hp : r.run p.run x with ⟨e | a', z⟩
  · rw [hp] at hrun
    simp [r.returns_iff_of_run hrun, r.returns_iff_of_run hp, Except.map]
  · rw [hp] at hrun
    simp [r.returns_iff_of_run hrun, r.returns_iff_of_run hp, Except.map]

end returns

/-! ### The world in memory -/

def memory : Responder World where
  answer := World.answer
  pause w ms := { w with slept := w.slept + ms }

theorem run_memory (p : Program α) (w : World) : memory.run p w = p.runIn w := by
  induction p generalizing w with
  | done a => rfl
  | call c next ih => exact ih _ _
  | sleep ms next ih => exact ih _
  | note n next ih => exact ih w

theorem result_memory (p : Procedure α) (w : World) : memory.result p w = (p.runIn w).1 :=
  congrArg Prod.fst (run_memory p.run w)

end Responder

end Shipshape
