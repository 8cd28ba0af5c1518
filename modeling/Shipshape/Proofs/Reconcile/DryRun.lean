import Shipshape.Proofs.Engine.Responder
import Shipshape.Proofs.Reconcile.Configuration
import Shipshape.Proofs.Reconcile.Order
import Shipshape.Proofs.Reconcile.Outcome

/-!
# The dry run agrees with the real run

`dry_run_agrees`: comparing a container says what bringing it to its specification from the same state does.
Where the comparison fails, the other fails in the same way and changes nothing; where the comparison finds
nothing to do, the other does nothing; and whatever the other returns, its verdict is that of the comparison.
This is so against every responder.

Proof outline. Both invocations begin with the same assessment, which only looks (`untouched_assess`). The
comparison is over then (`result_compare`); the other goes on from the state in which the assessment ended,
with nothing to do if nothing was decided, and keeps the verdict in any case (`yields_carryOut_assessment`).
-/

namespace Shipshape

variable {σ : Type} (E : Responder σ) {r : Reconciler} {s : Spec} {name : String} {x : σ}

open History Procedure

namespace Reconciler

theorem result_run {a : Action} (hv : s.validateFor a = .ok ()) (x : σ) :
    (∃ debug, E.result (r.run a s) x = (E.result (r.perform a s) x).map fun o => { o with debug }) ∧
      E.events (r.run a s) x = E.events (r.perform a s) x := by
  obtain ⟨⟨notes, hresult⟩, hevents⟩ := E.collectNotes_eq (r.perform a s) x
  have hrun : r.run a s = collectNotes (r.perform a s) >>= fun p =>
      pure { p.1 with debug := ((Trace.empty (r.verbosity s)).pushAll p.2).lines } := by
    unfold run
    rw [hv]
    rfl
  rw [hrun, ← hevents]
  rcases hperform : E.result (r.perform a s) x with e | o
  · rw [hperform] at hresult
    obtain ⟨hsame, hnone⟩ := E.bind_of_error hresult
    exact ⟨⟨[], hsame⟩, hnone⟩
  · rw [hperform] at hresult
    obtain ⟨hsame, hmore, -⟩ := E.bind_of_ok hresult
    exact ⟨⟨_, hsame⟩, hmore.trans (List.append_nil _)⟩

/-! ### Behind the assessment -/

theorem untouched_assess (c : Comparator) (s : Spec) (x : σ) :
    (E.events (Reconcile.assess c s) x).Untouched :=
  Reconcile.asks_assess.untouched (E.run_events _ x)

theorem result_compare (r : Reconciler) (s : Spec) (x : σ) : E.result (r.perform .compareContainer s) x =
    (E.result (Reconcile.assess r.comparator s) x).map Assessment.outcome := by
  unfold perform
  rcases hassess : E.result (Reconcile.assess r.comparator s) x with e | a
  · exact (E.bind_of_error hassess).1
  · obtain ⟨hresult, -⟩ := E.bind_of_ok hassess
    exact hresult

theorem recreate_of_error {e : Error} (hname : s.name = some name)
    (h : E.result (Reconcile.assess r.comparator s) x = .error e) :
    E.result (r.perform .recreateOrRestartContainer s) x = .error e ∧
      (E.events (r.perform .recreateOrRestartContainer s) x).Untouched := by
  rw [perform_recreate hname]
  obtain ⟨hresult, hevents⟩ := E.bind_of_error h
  rw [hevents]
  exact ⟨hresult, untouched_assess E _ s x⟩

theorem recreate_of_noOp {a : Assessment} (hname : s.name = some name)
    (h : E.result (Reconcile.assess r.comparator s) x = .ok a) (hnoOp : a.decision = .noOp) :
    E.result (r.perform .recreateOrRestartContainer s) x = .ok a.outcome ∧
      (E.events (r.perform .recreateOrRestartContainer s) x).Untouched := by
  rw [perform_recreate hname]
  obtain ⟨hresult, hevents, -⟩ := E.bind_of_ok h
  rw [hresult, hevents, hnoOp]
  refine ⟨rfl, ?_⟩
  have hlooks := untouched_assess E r.comparator s x
  rwa [← List.append_nil (E.events _ x)] at hlooks

theorem recreate_of_ok {a : Assessment} {o : Outcome} (hname : s.name = some name)
    (h : E.result (Reconcile.assess r.comparator s) x = .ok a)
    (ho : E.result (r.perform .recreateOrRestartContainer s) x = .ok o) : a.outcome.SameVerdict o := by
  rw [perform_recreate hname] at ho
  obtain ⟨hresult, -⟩ := E.bind_of_ok h
  rw [hresult] at ho
  have hr := E.run_events (Reconcile.carryOut r.comparator r.config s name a.decision a.outcome)
    (E.after (Reconcile.assess r.comparator s) x)
  rw [ho] at hr
  exact (Reconcile.yields_carryOut_assessment a).of_run hr

/-- From any state of any outside world, the comparison of a container and the invocation that brings it to
its specification agree: on an error of the comparison, on there being nothing to do, and on the verdict. -/
theorem dry_run_agrees (r : Reconciler) (s : Spec) (name : String) (hname : s.name = some name) (x : σ) :
    (∀ e, E.result (r.run .compareContainer s) x = .error e →
      E.result (r.run .recreateOrRestartContainer s) x = .error e ∧
        (E.events (r.run .recreateOrRestartContainer s) x).Untouched) ∧
    (∀ o, E.result (r.run .compareContainer s) x = .ok o → o.changed = false →
      (∃ o', E.result (r.run .recreateOrRestartContainer s) x = .ok o' ∧ o'.changed = false) ∧
        (E.events (r.run .recreateOrRestartContainer s) x).Untouched) ∧
    ∀ o', E.result (r.run .recreateOrRestartContainer s) x = .ok o' →
      ∃ o, E.result (r.run .compareContainer s) x = .ok o ∧ o.SameVerdict o' := by
  have hvalid : ∀ a : Action, a.needsImage = false → s.validateFor a = .ok () := fun a ha =>
    Spec.validateFor_eq_ok (fun hneeds => by rw [ha] at hneeds; cases hneeds) fun _ => ⟨name, hname⟩
  obtain ⟨⟨debug, hdry⟩, -⟩ := result_run E (r := r) (hvalid .compareContainer rfl) x
  obtain ⟨⟨debug', hreal⟩, hevents⟩ := result_run E (r := r) (hvalid .recreateOrRestartContainer rfl) x
  rw [hdry, hreal, hevents, result_compare]
  rcases hassess : E.result (Reconcile.assess r.comparator s) x with e | a
  · obtain ⟨hresult, huntouched⟩ := recreate_of_error E hname hassess
    rw [hresult]
    refine ⟨fun e' he => ⟨he, huntouched⟩, fun o ho => ?_, fun o' ho' => ?_⟩
    · cases ho
    · cases ho'
  · refine ⟨fun e he => ?_, fun o ho hunchanged => ?_, fun o' ho' => ?_⟩
    · cases he
    · injection ho with ho
      subst ho
      have hnoOp := Assessment.changed_eq_false_iff.1 ((changed_outcome a).symm.trans hunchanged)
      obtain ⟨hresult, huntouched⟩ := recreate_of_noOp E hname hassess hnoOp
      rw [hresult]
      exact ⟨⟨_, rfl, hunchanged⟩, huntouched⟩
    · rcases hresult : E.result (r.perform .recreateOrRestartContainer s) x with e | o
      · rw [hresult] at ho'
        cases ho'
      · rw [hresult] at ho'
        injection ho' with ho'
        subst ho'
        obtain ⟨hchanged, hdiff, hneeds, hreasons⟩ := recreate_of_ok E hname hassess hresult
        exact ⟨_, rfl, hchanged, hdiff, hneeds, hreasons⟩

/-! ### A container with another image -/

/-- What an invocation about the container with another image ends with. -/
def outdatedResult (a : Action) : Except Error Outcome :=
  (((ofSpec plainSpec {} .path).run a plainSpec).runIn outdatedWorld).1

theorem dry_run_agrees_outdatedWorld : ∃ o o', outdatedResult .compareContainer = .ok o ∧
    outdatedResult .recreateOrRestartContainer = .ok o' ∧ o.SameVerdict o' ∧ o'.changed = true := by
  have hchanged : (outdatedResult .recreateOrRestartContainer).toOption.map (·.changed) = some true := by
    decide +kernel
  obtain ⟨-, -, hverdict⟩ :=
    dry_run_agrees Responder.memory (ofSpec plainSpec {} .path) plainSpec "web" rfl outdatedWorld
  simp only [Responder.result_memory] at hverdict
  rcases hreal : outdatedResult .recreateOrRestartContainer with e | o'
  · rw [hreal] at hchanged
    cases hchanged
  · obtain ⟨o, hdry, hsame⟩ := hverdict o' hreal
    rw [hreal] at hchanged
    injection hchanged with hchanged
    exact ⟨o, o', hdry, rfl, hsame, hchanged⟩

end Reconciler

end Shipshape
