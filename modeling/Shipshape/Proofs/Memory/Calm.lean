import Shipshape.Proofs.Memory.Document
import Shipshape.Proofs.Memory.Engine
import Shipshape.Proofs.Memory.Run
import Shipshape.Proofs.Reconcile.Asks

/-!
# Worlds in which nothing goes wrong

In a calm world no call fails by order, every start has its effect, and neither the configuration nor the unit
of a container changes (`World.Calm`). What is known of one container and of the image behind one reference
(`World.Knows`) is kept by calls that look, by those that see to storage, and by starts of any container.

Proof outline. Without faults a call to the engine is answered by the engine (`answer_engine`). For each kind of
call one lemma says what it keeps, and `Asks.runIn` carries it through procedures.
-/

namespace Shipshape

namespace World

/-- No call fails by order, starts have their effect, and what was configured is found as it was. -/
structure Calm (w : World) : Prop where
  faults : w.faults = ∅
  failingStarts : w.engine.failingStarts = 0
  ignoredStarts : w.engine.ignoredStarts = 0
  sameConfiguration : ∃ result, w.engine.exec.1 = .ok result ∧ result.exitCode = 0
  sameUnit : w.supervisor.get? UnitCall.checkChanged.name ≠ some true

theorem answer_engine {w : World} (h : w.faults = ∅) (c : EngineCall) : w.answer (.engine c) =
    ((w.engine.answer c).1,
      { w with calls := .engine c :: w.calls, engine := (w.engine.answer c).2 }) := by
  have hnone : nextFault { w with calls := .engine c :: w.calls } c.name =
      (none, { w with calls := .engine c :: w.calls }) := by
    rw [nextFault]
    simp only [h]
    rfl
  show answerEngine { w with calls := .engine c :: w.calls } c = _
  rw [answerEngine, hnone]

/-- What is known of a container, and the image behind a reference. -/
structure Knows (name reference : String) (known : Option Json → Prop) (image : Option Image) (w : World) :
    Prop extends Calm w where
  container : known (w.engine.containers.get? name)
  image : w.engine.images.get? reference = image

/-- Knowledge that stays true when a container turns healthy. -/
def Stable (known : Option Json → Prop) : Prop :=
  ∀ before after, known before → MemoryEngine.Settled before after → known after

variable {name reference : String} {known : Option Json → Prop} {image : Option Image} {w : World}

theorem Knows.of_engine (h : Knows name reference known image w) {known' : Option Json → Prop}
    {engine : MemoryEngine} {calls : List Call} (hfailing : engine.failingStarts = w.engine.failingStarts)
    (hignored : engine.ignoredStarts = w.engine.ignoredStarts)
    (hexec : engine.execResults = w.engine.execResults) {image' : Option Image}
    (himage : engine.images.get? reference = image') (hcontainer : known' (engine.containers.get? name)) :
    Knows name reference known' image' { w with calls, engine } := by
  have hresult : engine.exec.1 = w.engine.exec.1 := by
    rw [MemoryEngine.exec, MemoryEngine.exec, hexec]
    cases w.engine.execResults with
    | nil => rfl
    | cons result rest => rfl
  obtain ⟨result, hok, hcode⟩ := h.sameConfiguration
  exact ⟨⟨h.faults, hfailing.trans h.failingStarts, hignored.trans h.ignoredStarts,
    ⟨result, hresult.trans hok, hcode⟩, h.sameUnit⟩, hcontainer, himage⟩

theorem Knows.of_looked (h : Knows name reference known image w) (hstable : Stable known)
    {engine : MemoryEngine} (hlooked : w.engine.Looked engine) {calls : List Call} :
    Knows name reference known image { w with calls, engine } := by
  refine h.of_engine hlooked.failingStarts hlooked.ignoredStarts hlooked.execResults ?_
    (hstable _ _ h.container (hlooked.containers name))
  rw [hlooked.images]
  exact h.image

theorem Knows.containers (h : Knows name reference known image w) {known' : Option Json → Prop}
    {containers : Dict Json} {calls : List Call} (hcontainer : known' (containers.get? name)) :
    Knows name reference known' image { w with calls, engine := { w.engine with containers } } := by
  refine h.of_engine ?_ ?_ ?_ ?_ hcontainer
  · rfl
  · rfl
  · rfl
  · exact h.image

theorem Knows.unit (h : Knows name reference known image w) (c : UnitCall) (n : String) :
    Knows name reference known image (w.answer (.unit c n)).2 :=
  ⟨⟨h.faults, h.failingStarts, h.ignoredStarts, h.sameConfiguration, h.sameUnit⟩, h.container, h.image⟩

theorem Knows.pause (h : Knows name reference known image w) (ms : Nat) :
    Knows name reference known image { w with slept := w.slept + ms } :=
  ⟨⟨h.faults, h.failingStarts, h.ignoredStarts, h.sameConfiguration, h.sameUnit⟩, h.container, h.image⟩

theorem Knows.look (h : Knows name reference known image w) (hstable : Stable known) {c : Call}
    (hc : c.kind = .look) : Knows name reference known image (w.answer c).2 := by
  cases c with
  | hostPath path => cases hc
  | unit c n => exact h.unit c n
  | engine c =>
    rw [answer_engine h.faults]
    cases c with
    | inspectContainer n => exact h.of_looked hstable (MemoryEngine.looked_inspectContainer _ n)
    | inspectImage n => exact h.of_looked hstable (.refl _)
    | logs n stream tail => exact h.of_looked hstable (.refl _)
    | _ => cases hc

theorem Knows.storage (h : Knows name reference known image w) {c : Call} (hc : c.kind = .storage) :
    Knows name reference known image (w.answer c).2 := by
  cases c with
  | hostPath path =>
    exact ⟨⟨h.faults, h.failingStarts, h.ignoredStarts, h.sameConfiguration, h.sameUnit⟩, h.container, h.image⟩
  | unit c n => cases c <;> cases hc
  | engine c =>
    rw [answer_engine h.faults]
    cases c with
    | inspectVolume n => exact h.containers h.container
    | createVolume r =>
      refine h.of_engine ?_ ?_ ?_ ?_ h.container
      · rfl
      · rfl
      · rfl
      · exact h.image
    | _ => cases hc

/-! ### A container that was made from a request -/

/-- A container that differs from one just made for a request in nothing but its state, which is this one. -/
def MadeFrom (r : ContainerRequest) (image : Option Image) (status : String) (container : Option Json) : Prop :=
  ∃ document, container = some document ∧
    Inspection.AgreeOutsideState ⟨document⟩ (Memory.view r image) ∧
      Inspection.status? ⟨document⟩ = some status

theorem stable_absent : Stable (· = none) := by
  rintro before after rfl (hsame | ⟨document, ⟨⟩, -, -⟩)
  exact hsame

theorem stable_madeFrom (r : ContainerRequest) (image : Option Image) (status : String) :
    Stable (MadeFrom r image status) := by
  rintro before after ⟨document, hbefore, hagree, hstatus⟩ (hsame | ⟨document', hbefore', -, hafter⟩)
  · exact ⟨document, hsame.trans hbefore, hagree, hstatus⟩
  · rw [hbefore] at hbefore'
    injection hbefore' with hbefore'
    subst hbefore'
    refine ⟨_, hafter, fun k hk => ?_, (MemoryEngine.status_setHealth _ _).trans hstatus⟩
    exact (MemoryEngine.agree_setState document _ _ k hk).trans (hagree k hk)

theorem madeFrom_started {r : ContainerRequest} {made : Option Image} {status : String}
    {container : Option Json} (h : MadeFrom r made status container) (m : MemoryEngine) :
    MadeFrom r made "running" (container.map m.started) := by
  obtain ⟨document, rfl, hagree, -⟩ := h
  refine ⟨_, rfl, fun k hk => ?_, MemoryEngine.status_started m document⟩
  exact (MemoryEngine.agree_started m document k hk).trans (hagree k hk)

variable {r : ContainerRequest} {made : Option Image} {status : String}

theorem Knows.answer_start (h : Knows name reference known image w) (n : String) :
    w.engine.answer (.startContainer n) = w.engine.modify n w.engine.started :=
  MemoryEngine.startContainer_eq h.failingStarts h.ignoredStarts n

theorem Knows.start (h : Knows name reference (MadeFrom r made status) image w) :
    (w.answer (.engine (.startContainer name))).1 = .ok () ∧
      Knows name reference (MadeFrom r made "running") image (w.answer (.engine (.startContainer name))).2 := by
  rw [answer_engine h.faults, h.answer_start]
  obtain ⟨document, hdocument, -⟩ := h.container
  refine ⟨?_, ?_⟩
  · dsimp only
    rw [MemoryEngine.modify, hdocument]
  · dsimp only
    rw [MemoryEngine.modify_snd]
    refine h.containers ?_
    rw [MemoryEngine.get?_modify, if_pos rfl]
    exact madeFrom_started h.container w.engine

theorem Knows.start_any (h : Knows name reference (MadeFrom r made "running") image w) {c : Call}
    (hc : c.kind = .start) : Knows name reference (MadeFrom r made "running") image (w.answer c).2 := by
  cases c with
  | hostPath path => cases hc
  | unit c n => exact h.unit c n
  | engine c =>
    cases c with
    | startContainer n =>
      rw [answer_engine h.faults, h.answer_start]
      dsimp only
      rw [MemoryEngine.modify_snd]
      refine h.containers ?_
      rw [MemoryEngine.get?_modify]
      split
      · next hname =>
        subst hname
        exact madeFrom_started h.container w.engine
      · exact h.container
    | _ => cases hc

end World

end Shipshape
