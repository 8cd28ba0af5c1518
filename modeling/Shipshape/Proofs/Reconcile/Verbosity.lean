import Mathlib.Data.List.Basic
import Shipshape.Proofs.Engine.Responder
import Shipshape.Reconcile.Run

/-!
# How much is said does not matter

`run_withVerbosity`: two invocations that differ in their verbosity alone make the same calls, get the same answers
and leave the same outside world behind. They fail with the same error or return the same outcome, of which the less
verbose one leaves out some lines. This is so against every responder.

Proof outline. What an action does is a program that notes everything, whatever is kept of it
(`perform_withVerbosity`); that takes an induction where the program is a loop (`pollUntil_withVerbosity`). What is
kept are the notes up to a level (`lines_pushAll`), so a greater verbosity keeps more (`sublist_pushAll`).
-/

namespace Shipshape

/-! ### What a trace keeps -/

namespace Verbosity

theorem atLeast_trans {u v w : Verbosity} (h : u.atLeast v = true) (h' : v.atLeast w = true) :
    u.atLeast w = true := by
  revert h h'
  cases u <;> cases v <;> cases w <;> decide

theorem atLeast_raise {v w : Verbosity} (h : w.atLeast v = true) (u : Verbosity) :
    (w.raise u).atLeast (v.raise u) = true := by
  revert h
  cases u <;> cases v <;> cases w <;> decide

end Verbosity

namespace Trace

variable {v w : Verbosity}

theorem lines_pushAll (t : Trace) (notes : List Note) : (t.pushAll notes).lines =
    t.lines ++ (notes.filter fun n => t.verbosity.atLeast n.level).map Note.line := by
  induction notes generalizing t with
  | nil => exact (List.append_nil _).symm
  | cons n notes ih =>
    have hverbosity : (t.push n).verbosity = t.verbosity := by
      unfold push
      split
      · rfl
      · rfl
    have hpush : (t.push n).lines = t.lines ++ if t.verbosity.atLeast n.level then [n.line] else [] := by
      unfold push
      split
      · rfl
      · exact (List.append_nil _).symm
    refine (ih (t.push n)).trans ?_
    rw [hverbosity, hpush, List.filter_cons, List.append_assoc]
    split
    · rfl
    · rfl

/-- A greater verbosity keeps every line that a lesser one does. -/
theorem sublist_pushAll (h : w.atLeast v = true) (notes : List Note) :
    ((empty v).pushAll notes).lines.Sublist ((empty w).pushAll notes).lines := by
  have hlines : ∀ u, ((empty u).pushAll notes).lines =
      (notes.filter fun n => u.atLeast n.level).map Note.line :=
    fun u => (lines_pushAll (empty u) notes).trans (List.nil_append _)
  rw [hlines, hlines]
  exact (notes.monotone_filter_right fun n hn => Verbosity.atLeast_trans h hn).map Note.line

end Trace

/-! ### What is done -/

/-- The same way to behave, with another verbosity. -/
def Config.withVerbosity (c : Config) (v : Verbosity) : Config := { c with verbosity := v }

namespace Reconcile

variable {c : Comparator} {config : Config} {s : Spec} {name : String} {v : Verbosity}

theorem failure_withVerbosity (message : String) (report : StartReport) :
    failure (config.withVerbosity v) s name message report = failure config s name message report := by
  unfold failure
  refine congrArg _ (funext fun shown => congrArg _ (funext fun lines => ?_))
  rcases lines with f | lines
  · rfl
  · rfl

theorem fail_withVerbosity {α : Type} (message : String) (report : StartReport) :
    (fail (config.withVerbosity v) s name message report : Procedure α) =
      fail config s name message report := by
  unfold fail
  rw [failure_withVerbosity]

theorem poll_withVerbosity (report : StartReport) :
    poll (config.withVerbosity v) s name report = poll config s name report := by
  unfold poll
  simp only [fail_withVerbosity]

/-- Looking until the container is up takes the same course. -/
theorem pollUntil_withVerbosity (report : StartReport) (left : Nat) :
    pollUntil (config.withVerbosity v) s name report left = pollUntil config s name report left := by
  induction report, left using pollUntil.induct config with
  | case1 report left ih =>
    have hpause : (config.withVerbosity v).pause = config.pause := rfl
    have hlength : (config.withVerbosity v).pauseLength = config.pauseLength := rfl
    rw [pollUntil, pollUntil, poll_withVerbosity, hpause, hlength]
    by_cases hleft : left = 0
    · simp only [hleft, if_true]
    · simp only [hleft, if_false, ih _ hleft]

theorem waitUntilHealthy_withVerbosity (report : StartReport) :
    waitUntilHealthy (config.withVerbosity v) s name report = waitUntilHealthy config s name report := by
  have htimeout : (config.withVerbosity v).timeout s = config.timeout s := rfl
  have hlast : ∀ status report, lastChance (config.withVerbosity v) s name status report =
      lastChance config s name status report := fun _ _ => rfl
  simp only [waitUntilHealthy, pollUntil_withVerbosity, fail_withVerbosity, htimeout, hlast]

theorem startExisting_withVerbosity (report : StartReport) :
    startExisting (config.withVerbosity v) s name report = startExisting config s name report := by
  simp only [startExisting, fail_withVerbosity]

theorem startContainer_withVerbosity (o : Outcome) :
    startContainer c (config.withVerbosity v) s o = startContainer c config s o := by
  simp only [startContainer, startExisting_withVerbosity, waitUntilHealthy_withVerbosity]

theorem carryOut_withVerbosity (d : Decision) (o : Outcome) :
    carryOut c (config.withVerbosity v) s name d o = carryOut c config s name d o := by
  cases d with
  | noOp => rfl
  | create => exact startContainer_withVerbosity o
  | recreate => simp only [carryOut, startContainer_withVerbosity]
  | restart => simp only [carryOut, waitIfAsked, waitUntilHealthy_withVerbosity]
  | startOnly => simp only [carryOut, waitIfAsked, startExisting_withVerbosity, waitUntilHealthy_withVerbosity]

end Reconcile

namespace Reconciler

open Procedure

def withVerbosity (r : Reconciler) (v : Verbosity) : Reconciler := { r with config := r.config.withVerbosity v }

/-- One result is another one with some lines left out. -/
inductive SaysNoMore : Except Error Outcome → Except Error Outcome → Prop
  | fails (e : Error) : SaysNoMore (.error e) (.error e)
  | returns {o : Outcome} {lines lines' : List String} (h : lines.Sublist lines') :
      SaysNoMore (.ok { o with debug := lines }) (.ok { o with debug := lines' })

variable {r : Reconciler} {a : Action} {s : Spec} {v w : Verbosity}

theorem perform_withVerbosity : (r.withVerbosity v).perform a s = r.perform a s := by
  have hcomparator : (r.withVerbosity v).comparator = r.comparator := rfl
  have hconfig : (r.withVerbosity v).config = r.config.withVerbosity v := rfl
  cases a with
  | startContainer => simp only [perform, hcomparator, hconfig, Reconcile.startContainer_withVerbosity]
  | recreateOrRestartContainer =>
    simp only [perform, Reconcile.recreateOrRestart, hcomparator, hconfig, Reconcile.carryOut_withVerbosity]
  | _ => rfl

theorem atLeast_verbosity (h : w.atLeast v = true) :
    ((r.withVerbosity w).verbosity s).atLeast ((r.withVerbosity v).verbosity s) = true := by
  unfold verbosity
  split
  · exact Verbosity.atLeast_raise h .verbose
  · exact h

def saying (v : Verbosity) (p : Outcome × List Note) : Outcome :=
  { p.1 with debug := ((Trace.empty v).pushAll p.2).lines }

theorem run_eq_bind (hv : s.validateFor a = .ok ()) : (r.withVerbosity v).run a s =
    collectNotes (r.perform a s) >>= fun p => pure (saying ((r.withVerbosity v).verbosity s) p) := by
  unfold run
  rw [hv, perform_withVerbosity]
  rfl

variable {σ : Type} (E : Responder σ)

/-- Two invocations that differ in their verbosity alone do the same, and the one says no more than the other. -/
theorem run_withVerbosity (r : Reconciler) (a : Action) (s : Spec) (x : σ) {v w : Verbosity}
    (h : w.atLeast v = true) :
    E.events ((r.withVerbosity v).run a s) x = E.events ((r.withVerbosity w).run a s) x ∧
      E.after ((r.withVerbosity v).run a s) x = E.after ((r.withVerbosity w).run a s) x ∧
      SaysNoMore (E.result ((r.withVerbosity v).run a s) x) (E.result ((r.withVerbosity w).run a s) x) := by
  cases hv : s.validateFor a with
  | error e =>
    have hrun : ∀ u, (r.withVerbosity u).run a s = throw e := by
      intro u
      unfold run
      rw [hv]
      rfl
    rw [hrun, hrun]
    exact ⟨rfl, rfl, .fails e⟩
  | ok _ =>
    rw [run_eq_bind hv, run_eq_bind hv]
    obtain ⟨hresult, hevents, hafter⟩ := E.bind_pure_eq (collectNotes (r.perform a s))
      (saying ((r.withVerbosity v).verbosity s)) x
    obtain ⟨hresult', hevents', hafter'⟩ := E.bind_pure_eq (collectNotes (r.perform a s))
      (saying ((r.withVerbosity w).verbosity s)) x
    refine ⟨hevents.trans hevents'.symm, hafter.trans hafter'.symm, ?_⟩
    rw [hresult, hresult']
    rcases E.result (collectNotes (r.perform a s)) x with e | ⟨o, notes⟩
    · exact .fails e
    · exact .returns (o := o) (Trace.sublist_pushAll (atLeast_verbosity h) notes)

/-! ### A container that does not exist -/

/-- A specification of a container. -/
def unseenSpec : Spec := { name := some "web", image := some "nginx" }

/-- What comparing it says where there is no such container. -/
def unseenRun (v : Verbosity) : Procedure Outcome :=
  ((ofSpec unseenSpec {} .path).withVerbosity v).run .compareContainer unseenSpec

theorem run_withVerbosity_unseen : Verbosity.atLeast .normal .quiet = true ∧
    Responder.memory.events (unseenRun .quiet) {} = Responder.memory.events (unseenRun .normal) {} ∧
    Responder.memory.after (unseenRun .quiet) {} = Responder.memory.after (unseenRun .normal) {} ∧
    SaysNoMore (Responder.memory.result (unseenRun .quiet) {}) (Responder.memory.result (unseenRun .normal) {}) ∧
    (Responder.memory.result (unseenRun .quiet) {}).map Outcome.debug = .ok [] ∧
    (Responder.memory.result (unseenRun .normal) {}).map Outcome.debug = .ok ["container web does not exist"] := by
  obtain ⟨hevents, hafter, hresult⟩ := run_withVerbosity Responder.memory (ofSpec unseenSpec {} .path)
    .compareContainer unseenSpec {} (v := .quiet) (w := .normal) (by decide)
  exact ⟨by decide, hevents, hafter, hresult, rfl, rfl⟩

end Reconciler

end Shipshape
