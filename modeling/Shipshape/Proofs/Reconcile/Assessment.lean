import Shipshape.Proofs.Drift.NewContainer
import Shipshape.Proofs.Reconcile.Creation

/-!
# Assessing a container that was just made

In a calm world, the container that was just made from the request for a specification is left alone by an
assessment exactly if there is a local image and the specification settles (`Spec.Settles`): its state is the
one in which the container was left, and everything that was asked for reads back.

Proof outline. The rules on everything but the state see the request, so they are settled by
`differs_ofRequest`; the rule on the state sees how the container was left (`differs_madeFrom`). Without drift
the configuration and the unit are looked at, and found as they were.
-/

namespace Shipshape

/-- The desired state is the one in which a container is left. -/
def Spec.KeepsState (s : Spec) : Prop :=
  if Reconcile.startRequested s then s.state = .running ∨ s.state = .started else s.state = .exited

/-- A container that was just brought up is as it was declared. -/
structure Spec.Settles (s : Spec) (m : VolumeMatch) (image : Image) : Prop extends s.ReadsBack m image where
  state : s.KeepsState

theorem Spec.keepsState_iff {s : Spec} :
    s.KeepsState ↔ Comparison.stateMatches s.state s.statusAfter = true := by
  rw [KeepsState, statusAfter]
  split
  · cases s.state with
    | running => decide
    | started => decide
    | exited => decide
    | paused => decide
  · cases s.state with
    | running => decide
    | started => decide
    | exited => decide
    | paused => decide

open Procedure World

variable {s : Spec} {m : VolumeMatch} {name reference : String} {image : Option Image} {w w' : World}
  {r : ContainerRequest}

/-! ### Looking at the container -/

namespace Reconcile

variable {c : Comparator} {config : Config}

theorem compareWith_eq (c : Comparator) (info : Inspection) (h : w.faults = ∅) (himage : s.image = some reference) :
    (compareWith c s info).runIn w = ((c.compare s info (w.engine.images.get? reference)).map Prod.fst,
      { w with calls := .engine (.inspectImage reference) :: w.calls }) := by
  unfold compareWith
  rw [runIn_bind_ok (Worker.checkImage_eq h himage), runIn_bind, runIn_ofExcept]
  rcases c.compare s info (w.engine.images.get? reference) with e | d
  · rfl
  · dsimp only
    rw [runIn_bind_ok (runIn_notes d.2 _)]
    rfl

theorem runIn_compareWith {known : Option Json → Prop} (c : Comparator) (info : Inspection)
    (hk : Knows name reference known image w) (himage : s.image = some reference) :
    ∃ w', Knows name reference known image w' ∧ w'.engine = w.engine ∧
      (compareWith c s info).runIn w = ((c.compare s info image).map Prod.fst, w') := by
  have hcompare := compareWith_eq c info hk.faults himage
  rw [hk.image] at hcompare
  refine ⟨_, ?_, ?_, hcompare⟩
  · exact hk.containers hk.container
  · rfl

/-- A container that was made from the request differs in nothing, exactly if the specification settles. -/
theorem differs_madeFrom (h : Create.request s = .ok r)
    {document : Json} (hagree : Inspection.AgreeOutsideState ⟨document⟩ (Memory.view r image))
    (hstatus : Inspection.status? ⟨document⟩ = some s.statusAfter) :
    (∀ a, ((Comparator.ofSpec s m).beside s ⟨document⟩ image).differs a = .ok false) ↔
      ∃ i, image = some i ∧ s.Settles m i := by
  have hstate :
      ((Comparator.ofSpec s m).beside s ⟨document⟩ image).differs .state = .ok false ↔ s.KeepsState := by
    rw [Spec.keepsState_iff, Comparison.differs, Comparison.stateDiffers]
    show Except.ok (!Comparison.stateMatches s.state ((Inspection.status? ⟨document⟩).getD "")) = _ ↔ _
    rw [hstatus]
    simp
  have hrest : (∀ a, a ≠ .state → ((Comparator.ofSpec s m).beside s ⟨document⟩ image).differs a = .ok false) ↔
      ∃ i, image = some i ∧ s.ReadsBack m i := by
    rw [← Comparison.differs_ofRequest h]
    refine forall₂_congr fun a ha => ?_
    rw [Comparator.differs_congr hagree ha]
    rfl
  constructor
  · intro hsame
    obtain ⟨i, hi, hback⟩ := hrest.1 fun a _ => hsame a
    exact ⟨i, hi, { hback with state := hstate.1 (hsame .state) }⟩
  · rintro ⟨i, hi, hsettles⟩ a
    by_cases ha : a = .state
    · rw [ha]
      exact hstate.2 hsettles.state
    · exact hrest.2 ⟨i, hi, hsettles.toReadsBack⟩ a ha

/-! ### Assessing a container that was made -/

theorem runIn_configChanged {made : Option Image} (hname : s.name = some name)
    (hk : Knows name reference (MadeFrom r made "running") image w) :
    ∃ w', w'.supervisor.get? UnitCall.checkChanged.name ≠ some true ∧
      (Worker.configChanged s).runIn w = (.ok false, w') := by
  have hrequired : s.requireName .compareContainer = .ok name := Spec.requireName_eq_ok.2 hname
  obtain ⟨w₁, hlook, -, hk₁⟩ := Worker.runIn_inspect hk (stable_madeFrom r made "running") name
  obtain ⟨document, hdocument, -, hstatus⟩ := hk₁.container
  obtain ⟨result, hresult, hcode⟩ := hk₁.sameConfiguration
  have hrunning : Inspection.isRunning ⟨document⟩ = true := by
    rw [Inspection.isRunning, hstatus]
    decide
  have hreply : ∀ argv user, (w₁.engine.answer (.exec name argv user)).1 = .ok result := fun _ _ => hresult
  have hanswer := fun argv user => answer_engine hk₁.faults (.exec name argv user)
  rw [Worker.configChanged, hrequired, runIn_bind_ok (runIn_ofExcept _ _), runIn_bind_ok hlook, hdocument]
  simp only [Option.map_some, hrunning, Bool.not_true, Bool.false_eq_true, if_false]
  rw [runIn_bind, runIn_engine, hanswer]
  dsimp only
  rw [hreply]
  simp only [hcode, if_true]
  refine ⟨_, ?_, rfl⟩
  exact hk₁.sameUnit

theorem runIn_checkChanged (h : w.supervisor.get? UnitCall.checkChanged.name ≠ some true) :
    (Procedure.unit .checkChanged name).runIn w = (.ok false, (w.answer (.unit .checkChanged name)).2) := by
  have hanswer : (w.supervisor.get? UnitCall.checkChanged.name).getD false = false := by
    cases hget : w.supervisor.get? UnitCall.checkChanged.name with
    | none => rfl
    | some changed =>
      rw [hget] at h
      cases changed with
      | false => rfl
      | true => exact absurd rfl h
  rw [runIn_unit]
  exact congrArg (fun changed => (Except.ok changed, _)) hanswer

theorem runIn_decision {d : Drift} {info : Inspection} {configChanged : Bool}
    (h : w.supervisor.get? UnitCall.checkChanged.name ≠ some true) : ∃ w', (do
      let unitChanged ← Procedure.unit .checkChanged name
      if unitChanged then Procedure.record "supervisor unit differs"
      let decision := Decision.decide (some d) (configChanged || unitChanged) s.configStrategy? s.state
      Procedure.record ("decision: " ++ decision.name)
      return ⟨some info, some d, configChanged, unitChanged, decision⟩ : Procedure Assessment).runIn w =
        (.ok ⟨some info, some d, configChanged, false,
          Decision.decide (some d) configChanged s.configStrategy? s.state⟩, w') := by
  refine ⟨(w.answer (.unit .checkChanged name)).2, ?_⟩
  rw [runIn_bind_ok (runIn_checkChanged h)]
  simp only [Bool.false_eq_true, if_false, Bool.or_false]
  rw [runIn_bind_ok (runIn_record _ _)]
  rfl

theorem runIn_assessLive_of_same {made : Option Image} {info : Inspection} {notes : List Note}
    (hname : s.name = some name) (himage : s.image = some reference)
    (hk : Knows name reference (MadeFrom r made s.statusAfter) image w)
    (hstatus : info.status? = some s.statusAfter) (hcompare : c.compare s info image = .ok ({}, notes)) :
    ∃ w', (assessLive c s name info).runIn w = (.ok ⟨some info, some {}, false, false, .noOp⟩, w') := by
  obtain ⟨w₁, hk₁, -, hdrift⟩ := runIn_compareWith c info hk himage
  rw [hcompare] at hdrift
  rw [assessLive, runIn_bind_ok hdrift]
  have hunchanged : Drift.changed {} = false := rfl
  -- the configuration is only looked at in a container that runs
  cases hrunning : info.isRunning with
  | true =>
    have hafter : s.statusAfter = "running" := by
      rw [Inspection.isRunning, hstatus, beq_iff_eq] at hrunning
      exact Option.some.inj hrunning
    rw [hafter] at hk₁
    obtain ⟨w₂, hunit, hconfig⟩ := runIn_configChanged hname hk₁
    simp only [hunchanged, Bool.not_false, Bool.and_self, if_true]
    rw [runIn_bind_ok hconfig]
    exact runIn_decision hunit
  | false =>
    simp only [hunchanged, Bool.and_false, Bool.false_eq_true, if_false]
    exact runIn_decision hk₁.sameUnit

theorem changed_of_decide {d : Drift} {config : Bool} {strategy : Option String} {state : DesiredState}
    (h : Decision.decide (some d) config strategy state = .noOp) : d.changed = false := by
  unfold Decision.decide at h
  dsimp only at h
  split at h
  · cases h
  · split at h
    · next hsame => simpa using hsame
    · split at h
      · cases h
      · cases h

theorem decision_of_runIn {d : Drift} {info : Inspection} {configChanged : Bool} {a : Assessment} (h : (do
      let unitChanged ← Procedure.unit .checkChanged name
      if unitChanged then Procedure.record "supervisor unit differs"
      let decision := Decision.decide (some d) (configChanged || unitChanged) s.configStrategy? s.state
      Procedure.record ("decision: " ++ decision.name)
      return ⟨some info, some d, configChanged, unitChanged, decision⟩ : Procedure Assessment).runIn w =
        (.ok a, w')) :
    a.decision = .noOp → d.changed = false := by
  obtain ⟨unitChanged, w₁, -, h⟩ := runIn_bind_eq_ok.1 h
  cases unitChanged with
  | false =>
    injection h with ha _
    injection ha with ha
    subst ha
    exact changed_of_decide
  | true =>
    injection h with ha _
    injection ha with ha
    subst ha
    exact changed_of_decide

theorem compare_of_assessLive {info : Inspection} {a : Assessment} {known : Option Json → Prop}
    (himage : s.image = some reference) (hk : Knows name reference known image w)
    (h : (assessLive c s name info).runIn w = (.ok a, w')) :
    ∃ found, c.compare s info image = .ok found ∧ (a.decision = .noOp → found.1.changed = false) := by
  obtain ⟨w₁, -, -, hdrift⟩ := runIn_compareWith c info hk himage
  obtain ⟨d, w₂, hcompare, h⟩ := runIn_bind_eq_ok.1 h
  rw [hdrift] at hcompare
  cases hresult : c.compare s info image with
  | error e =>
    rw [hresult] at hcompare
    cases hcompare
  | ok found =>
    rw [hresult] at hcompare
    injection hcompare with hcompare _
    injection hcompare with hcompare
    subst hcompare
    refine ⟨found, rfl, ?_⟩
    dsimp only at h
    split at h
    · obtain ⟨configChanged, w₃, -, h⟩ := runIn_bind_eq_ok.1 h
      split at h
      · exact decision_of_runIn h
      · exact decision_of_runIn h
    · exact decision_of_runIn h

/-! ### The whole assessment -/

theorem runIn_assess_absent (hvalid : s.validate = .ok ()) (hname : s.name = some name)
    (hk : Knows name reference (· = none) image w) :
    ∃ w', (assess c s).runIn w = (.ok ⟨none, none, false, false, .create⟩, w') ∧
      w.engine.Looked w'.engine ∧ Knows name reference (· = none) image w' := by
  have hrequired : s.requireName .compareContainer = .ok name := Spec.requireName_eq_ok.2 hname
  obtain ⟨w₁, hlook, hlooked, hk₁⟩ := Worker.runIn_inspect hk stable_absent name
  refine ⟨w₁, ?_, hlooked, hk₁⟩
  rw [assess, hvalid, runIn_bind_ok (runIn_ofExcept _ _), hrequired, runIn_bind_ok (runIn_ofExcept _ _),
    runIn_bind_ok hlook, hk₁.container]
  rfl

theorem runIn_assess (hvalid : s.validate = .ok ()) (hname : s.name = some name)
    (hk : Knows name reference (MadeFrom r image s.statusAfter) image w) :
    ∃ document w₁, Inspection.AgreeOutsideState ⟨document⟩ (Memory.view r image) ∧
      Inspection.status? ⟨document⟩ = some s.statusAfter ∧
      Knows name reference (MadeFrom r image s.statusAfter) image w₁ ∧
      (assess c s).runIn w = (assessLive c s name ⟨document⟩).runIn w₁ := by
  have hrequired : s.requireName .compareContainer = .ok name := Spec.requireName_eq_ok.2 hname
  obtain ⟨w₁, hlook, -, hk₁⟩ := Worker.runIn_inspect hk (stable_madeFrom r image s.statusAfter) name
  obtain ⟨document, hdocument, hagree, hstatus⟩ := hk₁.container
  refine ⟨document, w₁, hagree, hstatus, hk₁, ?_⟩
  rw [assess, hvalid, runIn_bind_ok (runIn_ofExcept _ _), hrequired, runIn_bind_ok (runIn_ofExcept _ _),
    runIn_bind_ok hlook, hdocument]
  rfl

theorem runIn_assess_of_settles {i : Image} (hvalid : s.validate = .ok ()) (hname : s.name = some name)
    (himage : s.image = some reference) (hrequest : Create.request s = .ok r)
    (hk : Knows name reference (MadeFrom r image s.statusAfter) image w) (hi : image = some i)
    (hsettles : s.Settles m i) :
    ∃ info w', (assess (.ofSpec s m) s).runIn w = (.ok ⟨some info, some {}, false, false, .noOp⟩, w') := by
  obtain ⟨document, w₁, hagree, hstatus, hk₁, hassess⟩ := runIn_assess (c := .ofSpec s m) hvalid hname hk
  have hsame := (differs_madeFrom hrequest hagree hstatus).2 ⟨i, hi, hsettles⟩
  obtain ⟨notes, hcompare⟩ := Comparator.compare_of_same hvalid hsame
  obtain ⟨w', hlive⟩ := runIn_assessLive_of_same hname himage hk₁ hstatus hcompare
  exact ⟨_, w', hassess.trans hlive⟩

theorem settles_of_runIn_assess {a : Assessment} (hvalid : s.validate = .ok ()) (hname : s.name = some name)
    (himage : s.image = some reference) (hrequest : Create.request s = .ok r)
    (hk : Knows name reference (MadeFrom r image s.statusAfter) image w)
    (ha : (assess (.ofSpec s m) s).runIn w = (.ok a, w')) (hnoOp : a.decision = .noOp) :
    ∃ i, image = some i ∧ s.Settles m i := by
  obtain ⟨document, w₁, hagree, hstatus, hk₁, hassess⟩ := runIn_assess (c := .ofSpec s m) hvalid hname hk
  rw [hassess] at ha
  obtain ⟨found, hcompare, hsame⟩ := compare_of_assessLive himage hk₁ ha
  refine (differs_madeFrom hrequest hagree hstatus).1 fun x => ?_
  obtain ⟨differs, hdiffers⟩ := (Comparator.exists_compare_iff.1 ⟨found, hcompare⟩).2 x
  cases differs with
  | false => exact hdiffers
  | true =>
    have hkey : x ∈ found.1.keys := (Comparator.mem_keys_of_compare hcompare x).2 hdiffers
    have hchanged := Drift.changed_iff.2 ⟨x, hkey⟩
    rw [hsame hnoOp] at hchanged
    cases hchanged

end Reconcile

end Shipshape
