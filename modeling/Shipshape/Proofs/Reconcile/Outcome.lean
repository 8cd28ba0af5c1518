import Shipshape.Proofs.Engine.Run
import Shipshape.Reconcile.Run

/-!
# What becomes of the outcome of an assessment

Whoever acts on an assessment goes on with its outcome. Bringing a container up says that something changed,
which the assessment has said before wherever there is anything to do; the diff and the reasons are never
touched. So the verdict at the end is the one of the assessment (`yields_carryOut_assessment`).
-/

namespace Shipshape

/-- Two outcomes say the same about how a container differs. -/
structure Outcome.SameVerdict (o o' : Outcome) : Prop where
  changed : o'.changed = o.changed
  diff : o'.diff = o.diff
  needsRecreate : o'.needsRecreate = o.needsRecreate
  recreateReasons : o'.recreateReasons = o.recreateReasons

theorem Outcome.SameVerdict.refl (o : Outcome) : SameVerdict o o := ⟨rfl, rfl, rfl, rfl⟩

theorem Outcome.SameVerdict.trans {o o' o'' : Outcome} (h : SameVerdict o o') (h' : SameVerdict o' o'') :
    SameVerdict o o'' :=
  ⟨h'.changed.trans h.changed, h'.diff.trans h.diff, h'.needsRecreate.trans h.needsRecreate,
    h'.recreateReasons.trans h.recreateReasons⟩

theorem changed_outcome (a : Assessment) : a.outcome.changed = a.changed := by
  rw [Assessment.outcome]
  split
  · rfl
  · rfl

theorem start_outcome (a : Assessment) : a.outcome.start = {} := by
  rw [Assessment.outcome]
  split
  · rfl
  · rfl

theorem Assessment.changed_eq_false_iff {a : Assessment} : a.changed = false ↔ a.decision = .noOp := by
  rw [changed, bne_eq_false_iff_eq]

namespace Reconcile

open Procedure

variable {c : Comparator} {config : Config} {s : Spec} {name : String} {o : Outcome}

theorem yields_checkImage : (Worker.checkImage s).Yields fun image => s.image = none → image = none := by
  unfold Worker.checkImage
  split
  · exact yields_pure fun _ => rfl
  · next reference himage => exact yields_of_forall fun _ hnone => absurd (himage.symm.trans hnone) nofun

theorem yields_compareWith {info : Inspection} : (compareWith c s info).Yields fun d =>
    ∃ image notes, (s.image = none → image = none) ∧ c.compare s info image = .ok (d, notes) := by
  refine yields_bind_of yields_checkImage fun image himage => yields_bind_of (yields_ofExcept _) ?_
  rintro ⟨d, notes⟩ hcompare
  exact yields_bind fun _ => yields_pure ⟨image, notes, himage, hcompare⟩

theorem yields_collectRun_of {good : Outcome → Prop}
    (hgood : ∀ exitCode stdout stderr, good { o with exitCode, stdout, stderr }) :
    (collectRun s name o).Yields good := by
  refine yields_bind fun exitCode => yields_bind fun out => yields_bind fun err => ?_
  have hfinish : Yields good (do
      if exitCode ≠ 0 then
        throw (.containerExited name exitCode ("\n".intercalate out) ("\n".intercalate err))
      return { o with
        exitCode := some exitCode
        stdout := some ("\n".intercalate out)
        stderr := some ("\n".intercalate err) }) := by
    split
    · exact yields_throw
    · exact yields_pure (hgood _ _ _)
  dsimp only
  split
  · exact yields_bind fun _ => yields_bind fun _ => hfinish
  · exact hfinish

theorem yields_collectRun : (collectRun s name o).Yields o.SameVerdict :=
  yields_collectRun_of fun _ _ _ => ⟨rfl, rfl, rfl, rfl⟩

/-- What is left to do about a container that is there: to start it, to wait for it, and to collect its result. -/
def bringUp (config : Config) (s : Spec) (name : String) (info : Option Inspection) (o : Outcome) :
    Procedure Outcome := do
  let o ← if startRequested s && !info.any (·.isRunning) then do
      let report ← startExisting config s name o.start
      pure { o with changed := true, start := report }
    else pure o
  let o ← if s.wait then do
      pure { o with start := ← waitUntilHealthy config s name o.start }
    else pure o
  if s.detach then return o else collectRun s name o

theorem startContainer_eq (c : Comparator) (config : Config) (s : Spec) (o : Outcome) :
    startContainer c config s o = (do
      let name ← Procedure.ofExcept (s.requireName .startContainer)
      let pulled ← ensureImageNoted s
      let (info, made) ← ensureContainer c s name
      bringUp config s name info { o with changed := o.changed || pulled || made }) := rfl

theorem asks_bringUp_of {allowed : Call → Prop} {info : Option Inspection}
    (hstart : startRequested s = true → ∀ report, (startExisting config s name report).Asks allowed)
    (hwait : s.wait = true → ∀ report, (waitUntilHealthy config s name report).Asks allowed)
    (hcollect : s.detach = false → ∀ o, (collectRun s name o).Asks allowed) :
    (bringUp config s name info o).Asks allowed := by
  have hfinish : ∀ o', (if s.detach then return o' else collectRun s name o' : Procedure Outcome).Asks allowed := by
    intro o'
    split
    · exact asks_pure o'
    · next hdetach => exact hcollect (Bool.eq_false_iff.2 hdetach) o'
  have hready : ∀ o', Asks allowed (do
      let o' ← if s.wait then do
          pure { o' with start := ← waitUntilHealthy config s name o'.start }
        else pure o'
      if s.detach then return o' else collectRun s name o') := by
    intro o'
    dsimp only
    split
    · next hwaits => exact asks_bind (hwait hwaits _) fun report => hfinish _
    · exact hfinish o'
  unfold bringUp
  dsimp only
  split
  · next hrequested =>
    exact asks_bind (hstart (Bool.and_eq_true_iff.1 hrequested).1 _) fun report => hready _
  · exact hready o

theorem yields_bringUp {info : Option Inspection} (ho : o.changed = true) :
    (bringUp config s name info o).Yields o.SameVerdict := by
  have hfinish : ∀ o', o.SameVerdict o' →
      (if s.detach then return o' else collectRun s name o' : Procedure Outcome).Yields o.SameVerdict := by
    intro o' ho'
    split
    · exact yields_pure ho'
    · exact yields_collectRun.mono fun _ => ho'.trans
  have hwait : ∀ o', o.SameVerdict o' → Yields o.SameVerdict (do
      let o' ← if s.wait then do
          pure { o' with start := ← waitUntilHealthy config s name o'.start }
        else pure o'
      if s.detach then return o' else collectRun s name o') := by
    intro o' ho'
    dsimp only
    split
    · exact yields_bind fun report => hfinish _ ⟨ho'.changed, ho'.diff, ho'.needsRecreate, ho'.recreateReasons⟩
    · exact hfinish o' ho'
  unfold bringUp
  dsimp only
  split
  · exact yields_bind fun report => hwait _ ⟨ho.symm, rfl, rfl, rfl⟩
  · exact hwait o (.refl o)

theorem yields_startContainer (ho : o.changed = true) :
    (startContainer c config s o).Yields o.SameVerdict := by
  rw [startContainer_eq]
  refine yields_bind fun name => yields_bind fun pulled => yields_bind ?_
  rintro ⟨info, made⟩
  have hchanged : (o.changed || pulled || made) = o.changed := by
    rw [ho]
    rfl
  dsimp only
  rw [hchanged]
  exact yields_bringUp ho

theorem yields_carryOut {d : Decision} (ho : o.changed = true) :
    (carryOut c config s name d o).Yields o.SameVerdict := by
  cases d with
  | noOp => exact yields_pure (.refl o)
  | create => exact yields_startContainer ho
  | recreate =>
    refine yields_bind fun _ => yields_bind fun _ => yields_bind fun _ => yields_bind fun _ => ?_
    exact yields_startContainer ho
  | restart =>
    refine yields_bind fun _ => yields_bind fun report => yields_bind fun report => ?_
    exact yields_pure ⟨rfl, rfl, rfl, rfl⟩
  | startOnly =>
    refine yields_bind fun report => yields_bind fun report => ?_
    exact yields_pure ⟨rfl, rfl, rfl, rfl⟩

/-- Acting on an assessment keeps its verdict. -/
theorem yields_carryOut_assessment (a : Assessment) :
    (carryOut c config s name a.decision a.outcome).Yields a.outcome.SameVerdict := by
  cases hchanged : a.changed with
  | true => exact yields_carryOut ((changed_outcome a).trans hchanged)
  | false =>
    rw [Assessment.changed_eq_false_iff.1 hchanged]
    exact yields_pure (.refl _)

end Reconcile

end Shipshape
