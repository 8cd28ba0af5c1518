import Shipshape.Drift.Report
import Shipshape.Reconcile.Decision
import Shipshape.Worker.Container
import Shipshape.Worker.Image

/-!
# Assessments

Looking at a container and deciding about it, without touching anything.
-/

namespace Shipshape

/-- What was found out about a container, and what is to be done about it. -/
structure Assessment where
  info : Option Inspection
  drift : Option Drift
  configChanged : Bool
  unitChanged : Bool
  decision : Decision

namespace Assessment

/-- Whether anything is to be done. -/
def changed (a : Assessment) : Bool :=
  a.decision != .noOp

def outcome (a : Assessment) : Outcome :=
  match a.drift with
  | none => { changed := a.changed }
  | some d =>
    { changed := a.changed
      diff := d.report?
      needsRecreate := d.needsRecreate
      recreateReasons := d.recreateReasons }

end Assessment

namespace Reconcile

/-- Compares the specification with a live container and the local image. -/
def compareWith (c : Comparator) (s : Spec) (info : Inspection) : Procedure Drift := do
  let image ← Worker.checkImage s
  let (drift, notes) ← Procedure.ofExcept (c.compare s info image)
  Procedure.notes notes
  return drift

/-- Assesses a container that exists. A container that is stopped differs in its state already, so its
configuration is only looked at when nothing else differs. -/
def assessLive (c : Comparator) (s : Spec) (name : String) (info : Inspection) :
    Procedure Assessment := do
  let drift ← compareWith c s info
  let configChanged ← if !drift.changed && info.isRunning then Worker.configChanged s else pure false
  if configChanged then Procedure.record "configuration files differ"
  let unitChanged ← Procedure.unit .checkChanged name
  if unitChanged then Procedure.record "supervisor unit differs"
  let decision := Decision.decide (some drift) (configChanged || unitChanged) s.configStrategy? s.state
  Procedure.record ("decision: " ++ decision.name)
  return ⟨some info, some drift, configChanged, unitChanged, decision⟩

def assess (c : Comparator) (s : Spec) : Procedure Assessment := do
  Procedure.ofExcept s.validate
  let name ← Procedure.ofExcept (s.requireName .compareContainer)
  match ← Worker.inspect name with
  | some info => assessLive c s name info
  | none =>
    Procedure.record ("container " ++ name ++ " does not exist")
    return ⟨none, none, false, false, .create⟩

/-- Whether the container is made from the local image. -/
def compareImage (s : Spec) : Procedure Outcome := do
  let name ← Procedure.ofExcept (s.requireName .compareImage)
  match ← Worker.inspect name with
  | none =>
    Procedure.record ("container " ++ name ++ " does not exist")
    return { changed := true }
  | some info =>
    match ← Worker.checkImage s with
    | none =>
      Procedure.record "image is not present locally"
      return { changed := true }
    | some image =>
      let changed := info.imageId? != some image.id
      if changed then
        Procedure.record
          ("image differs: expected=" ++ image.id ++ " actual=" ++ info.imageId?.getD "")
      return { changed }

end Reconcile

end Shipshape
