import Shipshape.Engine.Program

/-!
# Runs

A run of a program is one path through its tree: the calls with the answers they got, the pauses, and the
result. What holds of every run holds against every environment, since nothing is assumed of the answers.

`Ensures p h good bad` says it for a procedure that goes on after the history `h`: every run that
returns ends in `good`, every run that fails ends in `bad`, each read with the whole history.

Proof outline. `run_bind_iff` splits a run of a sequence at its seam, so `ensures_bind` replaces a
sequence by a postcondition of its first part. With one rule for each thing a procedure is built
from, `Ensures` of a procedure unfolds to a statement about histories. Where only the kind of calls
matters, `Asks` bounds them, and `Asks.keeps` carries an invariant of histories through any such
procedure (`Keeps`).
-/

namespace Shipshape

/-- A step of a run in which the outside world takes part. -/
inductive Event where
  | answered (c : Call) (answer : c.Answer)
  | slept (ms : Nat)

/-- What happened, the oldest step first. -/
abbrev History := List Event

/-- The call of a step, if it is one. -/
def Event.call? : Event → Option Call
  | answered c _ => some c
  | slept _ => none

def History.calls (h : History) : List Call := h.filterMap Event.call?

def History.Untouched (h : History) : Prop := ∀ c ∈ h.calls, c.isMutating = false

def History.Touched (h : History) : Prop := ∃ c ∈ h.calls, c.isMutating = true

theorem History.touched_iff {h : History} : h.Touched ↔ ¬ h.Untouched := by
  simp [Touched, Untouched]

theorem History.calls_append (h h' : History) : History.calls (h ++ h') = h.calls ++ h'.calls :=
  List.filterMap_append

theorem History.touched_append_of_or {h h' : History} {x y : Bool} (hx : x = true → h.Touched)
    (hy : y = true → h'.Touched) : (x || y) = true → Touched (h ++ h') := by
  intro hxy
  rw [Touched, calls_append]
  rcases Bool.or_eq_true_iff.1 hxy with hx' | hy'
  · obtain ⟨c, hc, hm⟩ := hx hx'
    exact ⟨c, List.mem_append_left _ hc, hm⟩
  · obtain ⟨c, hc, hm⟩ := hy hy'
    exact ⟨c, List.mem_append_right _ hc, hm⟩

/-- What holds of each step, seen with what was there before it, holds of each step of a longer history if it
holds of the new one. -/
theorem History.forall_step {P : History → Event → Prop} {t : History} {e : Event}
    (ht : ∀ before x after, t = before ++ x :: after → P before x) (he : P t e) :
    ∀ before x after, t ++ [e] = before ++ x :: after → P before x := by
  intro before x after h
  rcases List.eq_nil_or_concat after with rfl | ⟨init, last, rfl⟩
  · obtain ⟨rfl, hx⟩ := List.append_inj' h rfl
    obtain ⟨rfl, -⟩ := List.cons.inj hx
    exact he
  · have h : t ++ [e] = (before ++ x :: init) ++ [last] := by simpa using h
    exact ht before x init (List.append_inj' h rfl).1

namespace Program

variable {α β : Type}

/-- The runs of a program, with what happened and the result. -/
inductive Run : Program α → History → α → Prop
  | done (a : α) : Run (.done a) [] a
  | call {c : Call} {next : c.Answer → Program α} {t : History} {a : α} (answer : c.Answer)
      (rest : Run (next answer) t a) : Run (.call c next) (.answered c answer :: t) a
  | sleep {ms : Nat} {next : Program α} {t : History} {a : α} (rest : Run next t a) :
      Run (.sleep ms next) (.slept ms :: t) a
  | note {n : Note} {next : Program α} {t : History} {a : α} (rest : Run next t a) :
      Run (.note n next) t a

theorem run_done_iff {a b : α} {t : History} : Run (.done a) t b ↔ t = [] ∧ b = a := by
  constructor
  · rintro ⟨⟩
    exact ⟨rfl, rfl⟩
  · rintro ⟨rfl, rfl⟩
    exact .done _

theorem run_call_iff {c : Call} {next : c.Answer → Program α} {t : History} {b : α} :
    Run (.call c next) t b ↔
      ∃ answer t', t = .answered c answer :: t' ∧ Run (next answer) t' b := by
  constructor
  · intro h
    cases h with
    | call answer rest => exact ⟨answer, _, rfl, rest⟩
  · rintro ⟨answer, t', rfl, rest⟩
    exact .call answer rest

theorem run_sleep_iff {ms : Nat} {next : Program α} {t : History} {b : α} :
    Run (.sleep ms next) t b ↔ ∃ t', t = .slept ms :: t' ∧ Run next t' b := by
  constructor
  · intro h
    cases h with
    | sleep rest => exact ⟨_, rfl, rest⟩
  · rintro ⟨t', rfl, rest⟩
    exact .sleep rest

theorem run_note_iff {n : Note} {next : Program α} {t : History} {b : α} :
    Run (.note n next) t b ↔ Run next t b := by
  constructor
  · intro h
    cases h with
    | note rest => exact rest
  · exact .note

/-- A run of a sequence is a run of its first part and a run of what comes after. -/
theorem run_bind_iff {p : Program α} {f : α → Program β} {t : History} {b : β} :
    Run (p.bind f) t b ↔ ∃ t₁ t₂ a, t = t₁ ++ t₂ ∧ Run p t₁ a ∧ Run (f a) t₂ b := by
  constructor
  · intro h
    induction p generalizing t with
    | done a => exact ⟨[], t, a, rfl, .done a, h⟩
    | call c next ih =>
      obtain ⟨answer, t', rfl, rest⟩ := run_call_iff.1 h
      obtain ⟨t₁, t₂, a, rfl, h₁, h₂⟩ := ih answer rest
      exact ⟨_ :: t₁, t₂, a, rfl, .call answer h₁, h₂⟩
    | sleep ms next ih =>
      obtain ⟨t', rfl, rest⟩ := run_sleep_iff.1 h
      obtain ⟨t₁, t₂, a, rfl, h₁, h₂⟩ := ih rest
      exact ⟨_ :: t₁, t₂, a, rfl, .sleep h₁, h₂⟩
    | note n next ih =>
      obtain ⟨t₁, t₂, a, rfl, h₁, h₂⟩ := ih (run_note_iff.1 h)
      exact ⟨t₁, t₂, a, rfl, .note h₁, h₂⟩
  · rintro ⟨t₁, t₂, a, rfl, h₁, h₂⟩
    induction h₁ with
    | done a => exact h₂
    | call answer rest ih => exact .call answer (ih h₂)
    | sleep rest ih => exact .sleep (ih h₂)
    | note rest ih => exact .note (ih h₂)

theorem run_collectNotesAfter_iff {earlier : List Note} {p : Program α} {t : History} {a : α} :
    (∃ notes, Run (p.collectNotesAfter earlier) t (a, notes)) ↔ Run p t a := by
  induction p generalizing earlier t with
  | done b => simp [collectNotesAfter, run_done_iff]
  | call c next ih =>
    rw [run_call_iff]
    constructor
    · rintro ⟨notes, hrun⟩
      obtain ⟨answer, t', rfl, rest⟩ := run_call_iff.1 hrun
      exact ⟨answer, t', rfl, (ih answer).1 ⟨notes, rest⟩⟩
    · rintro ⟨answer, t', rfl, rest⟩
      obtain ⟨notes, rest⟩ : ∃ notes, Run ((next answer).collectNotesAfter earlier) t' (a, notes) :=
        (ih answer).2 rest
      exact ⟨notes, .call answer rest⟩
  | sleep ms next ih =>
    rw [run_sleep_iff]
    constructor
    · rintro ⟨notes, hrun⟩
      obtain ⟨t', rfl, rest⟩ := run_sleep_iff.1 hrun
      exact ⟨t', rfl, ih.1 ⟨notes, rest⟩⟩
    · rintro ⟨t', rfl, rest⟩
      obtain ⟨notes, rest⟩ : ∃ notes, Run (next.collectNotesAfter earlier) t' (a, notes) := ih.2 rest
      exact ⟨notes, .sleep rest⟩
  | note n next ih =>
    have hrest : (∃ notes, Run (next.collectNotesAfter (n :: earlier)) t (a, notes)) ↔ Run next t a := ih
    rw [run_note_iff, ← hrest]
    simp only [collectNotesAfter]

/-- A program takes the same course under the same answers: of two runs that a longer history begins with, neither
goes on behind the other. -/
theorem Run.unique {p : Program α} {t u v w : History} {a b : α} (h : Run p t a) (h' : Run p u b)
    (hsame : t ++ v = u ++ w) : t = u ∧ a = b := by
  induction h generalizing u with
  | done a =>
    obtain ⟨rfl, rfl⟩ := run_done_iff.1 h'
    exact ⟨rfl, rfl⟩
  | call answer rest ih =>
    obtain ⟨answer', u', rfl, rest'⟩ := run_call_iff.1 h'
    obtain ⟨hhead, htail⟩ := List.cons.inj hsame
    cases hhead
    obtain ⟨rfl, rfl⟩ := ih rest' htail
    exact ⟨rfl, rfl⟩
  | sleep rest ih =>
    obtain ⟨u', rfl, rest'⟩ := run_sleep_iff.1 h'
    obtain ⟨rfl, rfl⟩ := ih rest' (List.cons.inj hsame).2
    exact ⟨rfl, rfl⟩
  | note rest ih => exact ih (run_note_iff.1 h') hsame

end Program

namespace Procedure

variable {α β : Type}

/-! ### What every run ends in -/

/-- Every run after the history `h` ends in `good` if it returns, and in `bad` if it fails. -/
def Ensures (p : Procedure α) (h : History) (good : α → History → Prop)
    (bad : Error → History → Prop) : Prop :=
  ∀ t r, Program.Run p.run t r → match r with
    | .ok a => good a (h ++ t)
    | .error e => bad e (h ++ t)

section rules

variable {h : History} {good good' : α → History → Prop} {bad bad' : Error → History → Prop}

theorem Ensures.mono {p : Procedure α} (hp : p.Ensures h good bad)
    (hgood : ∀ a h', good a h' → good' a h') (hbad : ∀ e h', bad e h' → bad' e h') :
    p.Ensures h good' bad' := by
  intro t r hr
  have h := hp t r hr
  cases r with
  | ok a => exact hgood a _ h
  | error e => exact hbad e _ h

theorem Ensures.and {p : Procedure α} (hp : p.Ensures h good bad) (hp' : p.Ensures h good' bad') :
    p.Ensures h (fun a h' => good a h' ∧ good' a h') fun e h' => bad e h' ∧ bad' e h' := by
  intro t r hr
  have h₁ := hp t r hr
  have h₂ := hp' t r hr
  cases r with
  | ok a => exact ⟨h₁, h₂⟩
  | error e => exact ⟨h₁, h₂⟩

theorem ensures_iff_forall_run {p : Procedure α} {I : History → Prop} :
    p.Ensures [] (fun _ => I) (fun _ => I) ↔ ∀ t result, Program.Run p.run t result → I t := by
  constructor
  · intro h t result hr
    have hend := h t result hr
    cases result with
    | ok a => exact hend
    | error e => exact hend
  · intro h t result hr
    cases result with
    | ok a => exact h t _ hr
    | error e => exact h t _ hr

theorem ensures_true (p : Procedure α) : p.Ensures h (fun _ _ => True) fun _ _ => True := by
  intro t r _
  cases r with
  | ok a => trivial
  | error e => trivial

@[simp] theorem ensures_pure (a : α) : Ensures (pure a) h good bad ↔ good a h := by
  constructor
  · intro hp
    simpa using hp [] (.ok a) (.done _)
  · intro ha t r hr
    obtain ⟨rfl, rfl⟩ := Program.run_done_iff.1 hr
    simpa using ha

@[simp] theorem ensures_throw (e : Error) :
    Ensures (throw e : Procedure α) h good bad ↔ bad e h := by
  constructor
  · intro hp
    simpa using hp [] (.error e) (.done _)
  · intro he t r hr
    obtain ⟨rfl, rfl⟩ := Program.run_done_iff.1 hr
    simpa using he

@[simp] theorem ensures_ofExcept (r : Except Error α) :
    Ensures (ofExcept r) h good bad ↔ match r with
      | .ok a => good a h
      | .error e => bad e h := by
  cases r with
  | ok a => exact ensures_pure a
  | error e => exact ensures_throw e

theorem run_bind_left {p : Procedure α} {f : α → Procedure β} {t : History} {r : Except Error β}
    (hr : Program.Run (p >>= f).run t r) : ∃ t₁ t₂ s, t = t₁ ++ t₂ ∧ Program.Run p.run t₁ s := by
  obtain ⟨t₁, t₂, s, rfl, h₁, -⟩ := Program.run_bind_iff.1 hr
  exact ⟨t₁, t₂, s, rfl, h₁⟩

/-- What a sequence ensures, by what its first part does. -/
@[simp] theorem ensures_bind {good : β → History → Prop} (p : Procedure α) (f : α → Procedure β) :
    Ensures (p >>= f) h good bad ↔ p.Ensures h (fun a h' => (f a).Ensures h' good bad) bad := by
  constructor
  · intro hp t r hr
    cases r with
    | ok a =>
      intro t' r' hr'
      have := hp (t ++ t') r' (Program.run_bind_iff.2 ⟨t, t', .ok a, rfl, hr, hr'⟩)
      rwa [← List.append_assoc] at this
    | error e =>
      have := hp (t ++ []) (.error e)
        (Program.run_bind_iff.2 ⟨t, [], .error e, rfl, hr, .done _⟩)
      rwa [List.append_nil] at this
  · intro hp t r hr
    obtain ⟨t₁, t₂, s, rfl, h₁, h₂⟩ := Program.run_bind_iff.1 hr
    have := hp t₁ s h₁
    cases s with
    | ok a => simpa only [List.append_assoc] using this t₂ r h₂
    | error e =>
      obtain ⟨rfl, rfl⟩ := Program.run_done_iff.1 h₂
      rwa [List.append_nil]

theorem Ensures.bind {good' : β → History → Prop} {p : Procedure α} {f : α → Procedure β}
    (hp : p.Ensures h good bad) (hf : ∀ a h', good a h' → (f a).Ensures h' good' bad) :
    (p >>= f).Ensures h good' bad :=
  (ensures_bind p f).2 (hp.mono hf fun _ _ he => he)

@[simp] theorem ensures_map {good : β → History → Prop} (f : α → β) (p : Procedure α) :
    Ensures (f <$> p) h good bad ↔ p.Ensures h (fun a h' => good (f a) h') bad := by
  have hmap : (f <$> p : Procedure β) = p >>= fun a => pure (f a) := by
    show ExceptT.mk _ = ExceptT.mk _
    congr 2
  rw [hmap, ensures_bind]
  simp only [ensures_pure]

@[simp] theorem ensures_discard {good : Unit → History → Prop} (p : Procedure α) :
    Ensures (discard p) h good bad ↔ p.Ensures h (fun _ h' => good () h') bad :=
  ensures_map _ _

theorem ensures_ask {c : Call} {good : c.Answer → History → Prop} :
    Ensures (ExceptT.lift (Program.ask c)) h good bad ↔
      ∀ answer, good answer (h ++ [.answered c answer]) := by
  constructor
  · intro hp answer
    exact hp [.answered c answer] (.ok answer) (.call answer (.done _))
  · intro ha t r hr
    obtain ⟨answer, t', rfl, rest⟩ := Program.run_call_iff.1 hr
    obtain ⟨rfl, rfl⟩ := Program.run_done_iff.1 rest
    exact ha answer

@[simp] theorem ensures_engine {c : EngineCall} {good : Except Fault c.Reply → History → Prop} :
    Ensures (α := no_index (Except Fault c.Reply)) (engine c) h good bad ↔
      ∀ answer, good answer (h ++ [.answered (.engine c) answer]) :=
  ensures_ask

@[simp] theorem ensures_unit {c : UnitCall} {name : String} {good : Bool → History → Prop} :
    Ensures (unit c name) h good bad ↔
      ∀ answer : Bool, good answer (h ++ [.answered (.unit c name) answer]) :=
  ensures_ask

@[simp] theorem ensures_note {n : Note} {good : Unit → History → Prop} :
    Ensures (note n) h good bad ↔ good () h := by
  constructor
  · intro hp
    simpa using hp [] (.ok ()) (.note (.done _))
  · intro ha t r hr
    obtain ⟨rfl, rfl⟩ := Program.run_done_iff.1 (Program.run_note_iff.1 hr)
    simpa using ha

@[simp] theorem ensures_record {line : String} {good : Unit → History → Prop} :
    Ensures (record line) h good bad ↔ good () h :=
  ensures_note

@[simp] theorem ensures_detail {line : String} {good : Unit → History → Prop} :
    Ensures (detail line) h good bad ↔ good () h :=
  ensures_note

@[simp] theorem ensures_notes {ns : List Note} {good : Unit → History → Prop} :
    Ensures (notes ns) h good bad ↔ good () h := by
  induction ns with
  | nil => exact ensures_pure ()
  | cons n ns ih => simp only [notes, ensures_bind, ensures_note, ih]

@[simp] theorem ensures_sleep {ms : Nat} {good : Unit → History → Prop} :
    Ensures (sleep ms) h good bad ↔ good () (h ++ [.slept ms]) := by
  constructor
  · intro hp
    exact hp [.slept ms] (.ok ()) (.sleep (.done _))
  · intro ha t r hr
    obtain ⟨t', rfl, rest⟩ := Program.run_sleep_iff.1 hr
    obtain ⟨rfl, rfl⟩ := Program.run_done_iff.1 rest
    exact ha

@[simp] theorem ensures_engineOrFail {c : EngineCall} {good : c.Reply → History → Prop} :
    Ensures (α := no_index c.Reply) (engineOrFail c) h good bad ↔
      (∀ reply, good reply (h ++ [.answered (.engine c) (.ok reply)])) ∧
      ∀ f : Fault, bad (f.toError c.name) (h ++ [.answered (.engine c) (.error f)]) := by
  simp only [engineOrFail, ensures_bind, ensures_engine]
  constructor
  · intro hp
    exact ⟨fun reply => by simpa using hp (.ok reply), fun f => by simpa using hp (.error f)⟩
  · rintro ⟨hok, hfail⟩ (f | reply)
    · simpa using hfail f
    · simpa using hok reply

@[simp] theorem ensures_engineIfFound {c : EngineCall} {good : Option c.Reply → History → Prop} :
    Ensures (α := no_index (Option c.Reply)) (engineIfFound c) h good bad ↔
      (∀ reply, good (some reply) (h ++ [.answered (.engine c) (.ok reply)])) ∧
      ∀ f : Fault, if f.isNotFound then good none (h ++ [.answered (.engine c) (.error f)])
        else bad (f.toError c.name) (h ++ [.answered (.engine c) (.error f)]) := by
  have key : ∀ f : Fault, ∀ h' : History,
      Ensures (if f.isNotFound then pure none else throw (f.toError c.name)) h' good bad ↔
        if f.isNotFound then good none h' else bad (f.toError c.name) h' := by
    intro f h'
    split
    · exact ensures_pure none
    · exact ensures_throw _
  simp only [engineIfFound, ensures_bind, ensures_engine]
  constructor
  · intro hp
    exact ⟨fun reply => by simpa using hp (.ok reply), fun f => (key f _).1 (hp (.error f))⟩
  · rintro ⟨hok, hfail⟩ (f | reply)
    · exact (key f _).2 (hfail f)
    · simpa using hok reply

theorem ensures_collectNotes (p : Procedure α) :
    Ensures p.collectNotes h (fun r h' => good r.1 h') bad ↔ p.Ensures h good bad := by
  constructor
  · intro hp t r hr
    obtain ⟨notes, hnotes⟩ : ∃ notes, Program.Run p.run.collectNotes t (r, notes) :=
      Program.run_collectNotesAfter_iff.2 hr
    have h := hp (t ++ []) (r.map fun a => (a, notes))
      (Program.run_bind_iff.2 ⟨t, [], (r, notes), rfl, hnotes, .done _⟩)
    rw [List.append_nil] at h
    cases r with
    | ok a => exact h
    | error e => exact h
  · intro hp t r hr
    obtain ⟨t₁, t₂, ⟨s, notes⟩, rfl, h₁, h₂⟩ := Program.run_bind_iff.1 hr
    obtain ⟨rfl, rfl⟩ := Program.run_done_iff.1 h₂
    have hs := hp t₁ s (Program.run_collectNotesAfter_iff.1 ⟨notes, h₁⟩)
    rw [List.append_nil]
    cases s with
    | ok a => exact hs
    | error e => exact hs

end rules

/-! ### Invariants of histories -/

/-- Every run keeps an invariant, whether it returns or fails. -/
def Keeps (I : History → Prop) (p : Procedure α) : Prop :=
  ∀ h, I h → p.Ensures h (fun _ => I) fun _ => I

section invariants

variable {I : History → Prop}

theorem keeps_pure (a : α) : Keeps I (pure a) := fun _ hI => (ensures_pure a).2 hI

theorem keeps_bind {p : Procedure α} {f : α → Procedure β} (hp : p.Keeps I)
    (hf : ∀ a, (f a).Keeps I) : Keeps I (p >>= f) := fun h hI =>
  (ensures_bind p f).2 ((hp h hI).mono (fun a h' hI => hf a h' hI) fun _ _ hI => hI)

theorem keeps_update {γ : Type} {b : Prop} [Decidable b] {p : Procedure γ} {g : γ → β} {a : β}
    {f : β → Procedure α} (hp : p.Keeps I) (hf : ∀ a, (f a).Keeps I) :
    Keeps I (if b then p >>= fun x => pure (g x) >>= f else pure a >>= f) := by
  split
  · exact keeps_bind hp fun x => hf (g x)
  · exact hf a

end invariants

end Procedure

/-! ### What some run ends in -/

namespace Procedure

variable {α β : Type} {p : Procedure α} {f : α → Procedure β} {a : α} {b : β}
  {errors : Error → Prop} {x y : Bool}

/-- Some run returns this, and changes something if the flag says so. -/
def MayReturn (changing : Bool) (p : Procedure α) (a : α) : Prop :=
  ∃ t : History, (changing = true → t.Touched) ∧ Program.Run p.run t (.ok a)

/-- Some run fails like this, and changes something before if the flag says so. -/
def MayFail (changing : Bool) (errors : Error → Prop) (p : Procedure α) : Prop :=
  ∃ (t : History) (e : Error),
    errors e ∧ (changing = true → t.Touched) ∧ Program.Run p.run t (.error e)

theorem MayReturn.bind (hp : p.MayReturn x a) (hf : (f a).MayReturn y b) :
    (p >>= f).MayReturn (x || y) b := by
  obtain ⟨t₁, ht₁, h₁⟩ := hp
  obtain ⟨t₂, ht₂, h₂⟩ := hf
  exact ⟨t₁ ++ t₂, History.touched_append_of_or ht₁ ht₂,
    Program.run_bind_iff.2 ⟨t₁, t₂, .ok a, rfl, h₁, h₂⟩⟩

theorem MayReturn.fail (hp : p.MayReturn x a) (hf : (f a).MayFail y errors) :
    (p >>= f).MayFail (x || y) errors := by
  obtain ⟨t₁, ht₁, h₁⟩ := hp
  obtain ⟨t₂, e, he, ht₂, h₂⟩ := hf
  exact ⟨t₁ ++ t₂, e, he, History.touched_append_of_or ht₁ ht₂,
    Program.run_bind_iff.2 ⟨t₁, t₂, .ok a, rfl, h₁, h₂⟩⟩

theorem MayFail.bind (hp : p.MayFail x errors) : (p >>= f).MayFail x errors := by
  obtain ⟨t, e, he, ht, h⟩ := hp
  refine ⟨t, e, he, ht, ?_⟩
  have happend : Program.Run (p >>= f).run (t ++ []) (.error e) :=
    Program.run_bind_iff.2 ⟨t, [], .error e, rfl, h, .done _⟩
  rwa [List.append_nil] at happend

theorem MayFail.weaken (hp : p.MayFail x errors) : p.MayFail false errors := by
  obtain ⟨t, e, he, -, h⟩ := hp
  exact ⟨t, e, he, nofun, h⟩

theorem mayReturn_pure (a : α) : MayReturn false (pure a) a := ⟨[], nofun, .done _⟩

theorem mayReturn_ofExcept {r : Except Error α} (hr : r = .ok a) :
    MayReturn false (ofExcept r) a := by
  subst hr
  exact mayReturn_pure a

theorem mayFail_throw {e : Error} (he : errors e) : MayFail false errors (throw e : Procedure α) :=
  ⟨[], e, he, nofun, .done _⟩

theorem mayFail_ofExcept {r : Except Error α} {e : Error} (hr : r = .error e) (he : errors e) :
    MayFail false errors (ofExcept r) := by
  subst hr
  exact mayFail_throw he

theorem mayReturn_ask (c : Call) (answer : c.Answer) :
    MayReturn c.isMutating (ExceptT.lift (Program.ask c)) answer :=
  ⟨[.answered c answer], fun hc => ⟨c, List.mem_singleton.2 rfl, hc⟩, .call answer (.done _)⟩

theorem mayReturn_engine (c : EngineCall) (answer : Except Fault c.Reply) :
    MayReturn (Call.isMutating (.engine c)) (engine c) answer := mayReturn_ask (.engine c) answer

theorem mayReturn_unit (c : UnitCall) (name : String) (answer : Bool) :
    MayReturn (Call.isMutating (.unit c name)) (unit c name) answer :=
  mayReturn_ask (.unit c name) answer

theorem mayReturn_record (line : String) : MayReturn false (record line) () :=
  ⟨[], nofun, .note (.done _)⟩

theorem mayReturn_notes (ns : List Note) : MayReturn false (notes ns) () := by
  induction ns with
  | nil => exact mayReturn_pure ()
  | cons n ns ih => exact MayReturn.bind (x := false) ⟨[], nofun, .note (.done _)⟩ ih

theorem MayReturn.map (g : α → β) (hp : p.MayReturn x a) : (g <$> p).MayReturn x (g a) := by
  obtain ⟨t, ht, h⟩ := hp
  refine ⟨t, ht, ?_⟩
  have happend : Program.Run (g <$> p).run (t ++ []) (.ok (g a)) :=
    Program.run_bind_iff.2 ⟨t, [], .ok a, rfl, h, .done _⟩
  rwa [List.append_nil] at happend

theorem MayReturn.discard (hp : p.MayReturn x a) : (discard p).MayReturn x () := hp.map _

theorem MayFail.discard (hp : p.MayFail x errors) : (Functor.discard p).MayFail x errors := by
  obtain ⟨t, e, he, ht, h⟩ := hp
  refine ⟨t, e, he, ht, ?_⟩
  have happend : Program.Run (Functor.discard p).run (t ++ []) (.error e) :=
    Program.run_bind_iff.2 ⟨t, [], .error e, rfl, h, .done _⟩
  rwa [List.append_nil] at happend

theorem mayReturn_engineOrFail (c : EngineCall) (reply : c.Reply) :
    MayReturn (Call.isMutating (.engine c)) (engineOrFail c) reply := by
  rw [← Bool.or_false (Call.isMutating _)]
  exact (mayReturn_engine c (.ok reply)).bind (mayReturn_pure reply)

theorem mayReturn_engineIfFound (c : EngineCall) (reply : c.Reply) :
    MayReturn (Call.isMutating (.engine c)) (engineIfFound c) (some reply) := by
  rw [← Bool.or_false (Call.isMutating _)]
  exact (mayReturn_engine c (.ok reply)).bind (mayReturn_pure (some reply))

theorem mayReturn_engineIfFound_none (c : EngineCall) :
    MayReturn (Call.isMutating (.engine c)) (engineIfFound c) none := by
  rw [← Bool.or_false (Call.isMutating _)]
  exact (mayReturn_engine c (.error ⟨some 404, ""⟩)).bind (mayReturn_pure none)

end Procedure

/-! ### What it can end with -/

namespace Procedure

variable {α β : Type} {p : Procedure α} {f : α → Procedure β} {errors : Error → Prop} {good : β → Prop}
  {first : α → Prop}

/-- Every error that a procedure may end with is one of some errors. -/
def Raises (errors : Error → Prop) (p : Procedure α) : Prop :=
  ∀ h, p.Ensures h (fun _ _ => True) fun e _ => errors e

/-- Everything that a procedure may return is good. -/
def Yields (good : α → Prop) (p : Procedure α) : Prop :=
  ∀ h, p.Ensures h (fun a _ => good a) fun _ _ => True

/-! #### What can be returned -/

theorem Yields.mono {good' : β → Prop} {q : Procedure β} (hq : q.Yields good) (h : ∀ b, good b → good' b) :
    q.Yields good' :=
  fun h' => (hq h').mono (fun b _ hb => h b hb) fun _ _ he => he

theorem Yields.of_run {q : Procedure β} (hq : q.Yields good) {t : History} {b : β}
    (hr : Program.Run q.run t (.ok b)) : good b := hq [] t (.ok b) hr

theorem yields_of_forall {q : Procedure β} (h : ∀ b, good b) : q.Yields good :=
  fun _ => (ensures_true q).mono (fun b _ _ => h b) fun _ _ he => he

theorem yields_pure {b : β} (hb : good b) : Yields good (pure b) := fun _ => (ensures_pure b).2 hb

theorem yields_throw {e : Error} : Yields good (throw e) := fun _ => (ensures_throw e).2 trivial

theorem yields_bind_of (hp : p.Yields first) (hf : ∀ a, first a → (f a).Yields good) : Yields good (p >>= f) :=
  fun h => (hp h).bind fun a h' ha => hf a ha h'

theorem yields_bind (hf : ∀ a, (f a).Yields good) : Yields good (p >>= f) :=
  fun _ => (ensures_true p).bind fun a h' _ => hf a h'

theorem yields_ite {b : Prop} [Decidable b] {p q : Procedure α} (hf : ∀ a, (f a).Yields good) :
    Yields good (if b then p >>= f else q >>= f) := by
  split
  · exact yields_bind hf
  · exact yields_bind hf

theorem yields_when {b : Prop} [Decidable b] {p : Procedure Unit} {f : Unit → Procedure β}
    (hf : ∀ u, (f u).Yields good) : Yields good (if b then p >>= f else f ()) :=
  yields_ite (q := pure ()) hf

theorem yields_ofExcept (r : Except Error β) : Yields (fun b => r = .ok b) (ofExcept r) := by
  cases r with
  | ok b => exact yields_pure rfl
  | error e => exact yields_throw

/-! #### What can go wrong -/

theorem Raises.mono {errors' : Error → Prop} (hp : p.Raises errors) (h : ∀ e, errors e → errors' e) :
    p.Raises errors' :=
  fun h' => (hp h').mono (fun _ _ ha => ha) fun e _ he => h e he

theorem raises_pure (a : α) : Raises errors (pure a) := fun _ => (ensures_pure a).2 trivial

theorem raises_throw {e : Error} (he : errors e) : Raises errors (throw e : Procedure α) :=
  fun _ => (ensures_throw e).2 he

theorem raises_ofExcept {r : Except Error α} (hr : ∀ e, r = .error e → errors e) :
    Raises errors (ofExcept r) := by
  cases r with
  | ok a => exact raises_pure a
  | error e => exact raises_throw (hr e rfl)

theorem raises_bind_of (hp : p.Raises errors) (hfirst : p.Yields first)
    (hf : ∀ a, first a → (f a).Raises errors) : Raises errors (p >>= f) := by
  intro h
  refine (ensures_bind p f).2 (((hp h).and (hfirst h)).mono ?_ fun e _ he => he.1)
  exact fun a h' ha => hf a ha.2 h'

theorem raises_bind (hp : p.Raises errors) (hf : ∀ a, (f a).Raises errors) :
    Raises errors (p >>= f) :=
  fun h => (hp h).bind fun a h' _ => hf a h'

theorem raises_map {g : α → β} (hp : p.Raises errors) : Raises errors (g <$> p) :=
  fun h => (ensures_map g p).2 (hp h)

theorem raises_discard (hp : p.Raises errors) : Raises errors (discard p) := raises_map hp

theorem raises_ite {b : Prop} [Decidable b] {p q : Procedure β} {f : β → Procedure α}
    (hp : p.Raises errors) (hq : q.Raises errors) (hf : ∀ a, (f a).Raises errors) :
    Raises errors (if b then p >>= f else q >>= f) := by
  split
  · exact raises_bind hp hf
  · exact raises_bind hq hf

theorem raises_when {b : Prop} [Decidable b] {p : Procedure Unit} {f : Unit → Procedure α}
    (hp : p.Raises errors) (hf : ∀ u, (f u).Raises errors) :
    Raises errors (if b then p >>= f else f ()) :=
  raises_ite (q := pure ()) hp (raises_pure ()) hf

theorem raises_ask (c : Call) : Raises errors (ExceptT.lift (Program.ask c)) :=
  fun _ => ensures_ask.2 fun _ => trivial

theorem raises_engine (c : EngineCall) : Raises errors (engine c) := raises_ask _

theorem raises_unit (c : UnitCall) (name : String) : Raises errors (unit c name) := raises_ask _

theorem raises_record (line : String) : Raises errors (record line) := fun _ => ensures_record.2 trivial

theorem raises_notes (ns : List Note) : Raises errors (notes ns) := fun _ => ensures_notes.2 trivial

theorem raises_engineOrFail {c : EngineCall} (hf : ∀ f : Fault, errors (f.toError c.name)) :
    Raises errors (engineOrFail c) :=
  fun _ => ensures_engineOrFail.2 ⟨fun _ => trivial, hf⟩

theorem raises_engineIfFound {c : EngineCall} (hf : ∀ f : Fault, errors (f.toError c.name)) :
    Raises errors (engineIfFound c) := by
  refine fun _ => ensures_engineIfFound.2 ⟨fun _ => trivial, fun f => ?_⟩
  split
  · trivial
  · exact hf f

end Procedure

/-! ### How long a run can be -/

/-- Whatever is answered, the program is over after so many steps. -/
def Program.EndsWithin {α : Type} : Program α → Nat → Prop
  | done _, _ => True
  | call _ next, n => 0 < n ∧ ∀ answer, (next answer).EndsWithin (n - 1)
  | sleep _ next, n => 0 < n ∧ next.EndsWithin (n - 1)
  | note _ next, n => next.EndsWithin n

theorem Program.EndsWithin.bind {α β : Type} {p : Program α} {f : α → Program β} {m n : Nat}
    (hp : p.EndsWithin m) (hf : ∀ a k, n ≤ k → (f a).EndsWithin k) : (p.bind f).EndsWithin (m + n) := by
  induction p generalizing m with
  | done a => exact hf a _ (Nat.le_add_left n m)
  | call c next ih =>
    refine ⟨by have := hp.1; omega, fun answer => ?_⟩
    have hnext := ih answer (hp.2 answer)
    rwa [show m - 1 + n = m + n - 1 by have := hp.1; omega] at hnext
  | sleep ms next ih =>
    refine ⟨by have := hp.1; omega, ?_⟩
    have hnext := ih hp.2
    rwa [show m - 1 + n = m + n - 1 by have := hp.1; omega] at hnext
  | note n next ih => exact ih hp

theorem Program.EndsWithin.mono {α : Type} {p : Program α} {m n : Nat} (hp : p.EndsWithin m) (h : m ≤ n) :
    p.EndsWithin n := by
  induction p generalizing m n with
  | done a => trivial
  | call c next ih => exact ⟨by have := hp.1; omega, fun answer => ih answer (hp.2 answer) (by omega)⟩
  | sleep ms next ih => exact ⟨by have := hp.1; omega, ih hp.2 (by omega)⟩
  | note n next ih => exact ih hp h

namespace Procedure

variable {α β : Type} {p : Procedure α} {f : α → Procedure β} {m n : Nat}

/-- Whatever is answered, the procedure is over after so many steps. -/
def EndsWithin (p : Procedure α) (n : Nat) : Prop := Program.EndsWithin p.run n

theorem EndsWithin.mono (hp : p.EndsWithin m) (h : m ≤ n) : p.EndsWithin n := Program.EndsWithin.mono hp h

theorem endsWithin_pure (a : α) : EndsWithin (pure a) n := trivial

theorem endsWithin_throw (e : Error) : EndsWithin (throw e : Procedure α) n := trivial

theorem endsWithin_bind (hp : p.EndsWithin m) (hf : ∀ a, (f a).EndsWithin n) :
    EndsWithin (p >>= f) (m + n) := by
  refine Program.EndsWithin.bind hp ?_
  rintro (e | a) k hk
  · trivial
  · exact (hf a).mono hk

theorem endsWithin_engine (c : EngineCall) : EndsWithin (engine c) 1 := ⟨Nat.one_pos, fun _ => trivial⟩

theorem endsWithin_sleep (ms : Nat) : EndsWithin (sleep ms) 1 := ⟨Nat.one_pos, trivial⟩

theorem endsWithin_record (line : String) : EndsWithin (record line) 0 := trivial

theorem endsWithin_detail (line : String) : EndsWithin (detail line) 0 := trivial

theorem endsWithin_engineIfFound (c : EngineCall) : EndsWithin (engineIfFound c) 1 := by
  apply endsWithin_bind (n := 0) (endsWithin_engine c)
  rintro (f | reply)
  · by_cases hf : f.isNotFound = true
    · simpa [hf] using endsWithin_pure none
    · simpa [hf] using endsWithin_throw (f.toError c.name)
  · exact endsWithin_pure _

end Procedure

/-! ### What is asked at all -/

def Program.Asks {α : Type} (allowed : Call → Prop) : Program α → Prop
  | done _ => True
  | call c next => allowed c ∧ ∀ answer, (next answer).Asks allowed
  | sleep _ next => next.Asks allowed
  | note _ next => next.Asks allowed

theorem Program.Asks.bind {α β : Type} {allowed : Call → Prop} {p : Program α}
    {f : α → Program β} (hp : p.Asks allowed) (hf : ∀ a, (f a).Asks allowed) :
    (p.bind f).Asks allowed := by
  induction p with
  | done a => exact hf a
  | call c next ih => exact ⟨hp.1, fun answer => ih answer (hp.2 answer)⟩
  | sleep ms next ih => exact ih hp
  | note n next ih => exact ih hp

theorem Program.Asks.invariant {α : Type} {allowed : Call → Prop} {p : Program α}
    (hp : p.Asks allowed) {I : History → Prop}
    (hcall : ∀ h c answer, allowed c → I h → I (h ++ [.answered c answer]))
    (hsleep : ∀ h ms, I h → I (h ++ [.slept ms])) {h t : History} {a : α} (hr : Run p t a)
    (hI : I h) : I (h ++ t) := by
  induction hr generalizing h with
  | done a => simpa using hI
  | call answer rest ih => simpa using ih (hp.2 answer) (hcall h _ answer hp.1 hI)
  | sleep rest ih => simpa using ih hp (hsleep h _ hI)
  | note rest ih => exact ih hp hI

namespace Procedure

variable {α β : Type} {allowed : Call → Prop}

def Asks (allowed : Call → Prop) (p : Procedure α) : Prop := Program.Asks allowed p.run

/-- A procedure that asks only what is allowed keeps an invariant that allowed calls and pauses keep. -/
theorem Asks.keeps {p : Procedure α} (hp : p.Asks allowed) {I : History → Prop}
    (hcall : ∀ h c answer, allowed c → I h → I (h ++ [.answered c answer]))
    (hsleep : ∀ h ms, I h → I (h ++ [.slept ms])) : p.Keeps I := by
  intro h hI t r hr
  have := Program.Asks.invariant hp hcall hsleep hr hI
  cases r with
  | ok a => exact this
  | error e => exact this

theorem asks_pure (a : α) : Asks allowed (pure a) := trivial

theorem asks_throw (e : Error) : Asks allowed (throw e : Procedure α) := trivial

theorem asks_ofExcept (r : Except Error α) : Asks allowed (ofExcept r) := trivial

theorem asks_bind {p : Procedure α} {f : α → Procedure β} (hp : p.Asks allowed)
    (hf : ∀ a, (f a).Asks allowed) : Asks allowed (p >>= f) :=
  Program.Asks.bind hp fun r => match r with
    | .ok a => hf a
    | .error _ => trivial

theorem asks_ofExcept_bind {r : Except Error α} {f : α → Procedure β}
    (hf : ∀ a, r = .ok a → (f a).Asks allowed) : Asks allowed (ofExcept r >>= f) := by
  cases r with
  | ok a => exact hf a rfl
  | error e => trivial

theorem asks_ite {b : Prop} [Decidable b] {p q : Procedure β} {f : β → Procedure α}
    (hp : p.Asks allowed) (hq : q.Asks allowed) (hf : ∀ a, (f a).Asks allowed) :
    Asks allowed (if b then p >>= f else q >>= f) := by
  split
  · exact asks_bind hp hf
  · exact asks_bind hq hf

theorem asks_when {b : Prop} [Decidable b] {p : Procedure Unit} {f : Unit → Procedure α}
    (hp : p.Asks allowed) (hf : ∀ u, (f u).Asks allowed) :
    Asks allowed (if b then p >>= f else f ()) :=
  asks_ite (q := pure ()) hp (asks_pure ()) hf

theorem asks_map {p : Procedure α} (f : α → β) (hp : p.Asks allowed) : Asks allowed (f <$> p) :=
  Program.Asks.bind hp fun r => match r with
    | .ok _ => trivial
    | .error _ => trivial

theorem asks_discard {p : Procedure α} (hp : p.Asks allowed) : Asks allowed (discard p) :=
  asks_map _ hp

theorem asks_engine {c : EngineCall} (hc : allowed (.engine c)) : Asks allowed (engine c) :=
  ⟨hc, fun _ => trivial⟩

theorem asks_unit {c : UnitCall} {name : String} (hc : allowed (.unit c name)) :
    Asks allowed (unit c name) :=
  ⟨hc, fun _ => trivial⟩

theorem asks_note (n : Note) : Asks allowed (note n) := trivial

theorem asks_record (line : String) : Asks allowed (record line) := trivial

theorem asks_detail (line : String) : Asks allowed (detail line) := trivial

theorem asks_notes (ns : List Note) : Asks allowed (notes ns) := by
  induction ns with
  | nil => exact asks_pure ()
  | cons n ns ih => exact asks_bind (asks_note n) fun _ => ih

theorem asks_sleep (ms : Nat) : Asks allowed (sleep ms) := trivial

theorem asks_engineOrFail {c : EngineCall} (hc : allowed (.engine c)) :
    Asks allowed (engineOrFail c) := by
  refine asks_bind (asks_engine hc) fun answer => ?_
  cases answer with
  | ok reply => exact asks_pure reply
  | error f => exact asks_throw _

theorem asks_engineIfFound {c : EngineCall} (hc : allowed (.engine c)) :
    Asks allowed (engineIfFound c) := by
  refine asks_bind (asks_engine hc) fun answer => ?_
  cases answer with
  | ok reply => exact asks_pure _
  | error f =>
    show Asks allowed (if f.isNotFound then pure none else throw (f.toError c.name))
    split
    · exact asks_pure none
    · exact asks_throw _

end Procedure

end Shipshape
