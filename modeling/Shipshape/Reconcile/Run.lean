import Shipshape.Reconcile.Lifecycle

/-!
# Actions

One invocation: the parameters are checked, the action is carried out, and the notes that it left become the
lines of its outcome.
-/

namespace Shipshape

/-- How one container is brought to its specification. -/
structure Reconciler where
  comparator : Comparator
  config : Config

namespace Reconciler

/-- The reconciler for the engine of a specification. -/
def ofSpec (s : Spec) (config : Config) (m : VolumeMatch) : Reconciler :=
  ⟨.ofSpec s m, config⟩

/-- What an action does, with the outcome as it is before the notes are added. -/
def perform (r : Reconciler) (a : Action) (s : Spec) : Procedure Outcome := do
  match a with
  | .compareContainer => return (← Reconcile.assess r.comparator s).outcome
  | .compareImage => Reconcile.compareImage s
  | .createVolume =>
    let name ← Procedure.ofExcept (s.requireName a)
    let created ← Worker.createVolume name
    return { changed := created.isSome, result := created.map VolumeRecord.toJson }
  | .ensureImage => return { changed := ← Worker.ensureImage s }
  | .pullImage => return { changed := ← Worker.pullImage s }
  | .recreateOrRestartContainer => Reconcile.recreateOrRestart r.comparator r.config s
  | .removeContainer => return { changed := ← Worker.removeContainer s }
  | .removeImage => return { changed := ← Worker.removeImage s }
  | .removeVolume =>
    let name ← Procedure.ofExcept (s.requireName a)
    return { changed := ← Worker.removeVolume name }
  | .restartContainer => return { changed := true, start := ← Worker.restartContainer s {} }
  | .startContainer =>
    Procedure.ofExcept s.validate
    Reconcile.startContainer r.comparator r.config s {}
  | .stopContainer => return { changed := ← Worker.stopContainer s }
  | .stopAndRemoveContainer => Reconcile.stopAndRemove s

/-- The verbosity of an invocation: the configured one, or more if the specification asks for it. -/
def verbosity (r : Reconciler) (s : Spec) : Verbosity :=
  if s.debugEnabled then r.config.verbosity.raise .verbose else r.config.verbosity

def run (r : Reconciler) (a : Action) (s : Spec) : Procedure Outcome := do
  Procedure.ofExcept (s.validateFor a)
  let (o, notes) ← Procedure.collectNotes (r.perform a s)
  return { o with debug := ((Trace.empty (r.verbosity s)).pushAll notes).lines }

end Reconciler

end Shipshape
