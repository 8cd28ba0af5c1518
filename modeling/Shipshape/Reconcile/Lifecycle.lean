import Shipshape.Reconcile.Assessment
import Shipshape.Reconcile.Wait

/-!
# Bringing a container up

Fetching the image, replacing a container that differs, creating, starting, waiting, and collecting the
result of a container that is run to its end. What was stopped or removed is never put back.
-/

namespace Shipshape.Reconcile

/-- Starts a container that exists. A failure ends the invocation with a report. -/
def startExisting (c : Config) (s : Spec) (name : String) (report : StartReport) :
    Procedure StartReport := do
  match ← Worker.start name with
  | .ok () =>
    Procedure.record ("started container " ++ name)
    return report.succeeded
  | .error e =>
    fail c s name ("Failed to start container " ++ name ++ ": " ++ e.message)
      (report.failed e.message)

/-- Waits for the container to end and collects what it said. -/
def collectRun (s : Spec) (name : String) (o : Outcome) : Procedure Outcome := do
  let exitCode ← Worker.waitExit name
  let stdout := "\n".intercalate (← Worker.logs name .stdout none)
  let stderr := "\n".intercalate (← Worker.logs name .stderr none)
  if s.removeOnExit then
    discard (Worker.stopContainer s)
    discard (Worker.removeContainer s)
  if exitCode ≠ 0 then throw (.containerExited name exitCode stdout stderr)
  return { o with exitCode := some exitCode, stdout := some stdout, stderr := some stderr }

/-- Removes a live container that differs in more than its state; whether one is left. -/
def replaceIfDrifted (c : Comparator) (s : Spec) (name : String) (info : Inspection) :
    Procedure Bool := do
  let drift ← compareWith c s info
  if drift.keys.any (· != .state) then
    Procedure.record ("container " ++ name ++ " differs, replacing")
    discard (Worker.stopContainer s)
    discard (Worker.removeContainer s)
    return false
  else return true

/-- Makes sure that there is a container like the specification: what it looks like afterwards, and whether
it had to be made. -/
def ensureContainer (c : Comparator) (s : Spec) (name : String) :
    Procedure (Option Inspection × Bool) := do
  let info ← Worker.inspect name
  let kept ← match info with
    | some live => replaceIfDrifted c s name live
    | none => pure false
  if kept then return (info, false)
  discard (Worker.createContainer s)
  Procedure.record ("created container " ++ name)
  return (← Worker.inspect name, true)

/-- Whether the container is to be started here. -/
def startRequested (s : Spec) : Bool :=
  (s.start || s.wait) && !(s.deferStart && !s.wait)

/-- Fetches the image if there is none; whether it was fetched. -/
def ensureImageNoted (s : Spec) : Procedure Bool := do
  let pulled ← Worker.ensureImage s
  if pulled then Procedure.record ("pulled image " ++ s.image.getD "")
  return pulled

def startContainer (c : Comparator) (config : Config) (s : Spec) (o : Outcome) :
    Procedure Outcome := do
  let name ← Procedure.ofExcept (s.requireName .startContainer)
  let pulled ← ensureImageNoted s
  let (info, made) ← ensureContainer c s name
  let o := { o with changed := o.changed || pulled || made }
  let o ← if startRequested s && !info.any (·.isRunning) then do
      let report ← startExisting config s name o.start
      pure { o with changed := true, start := report }
    else pure o
  let o ← if s.wait then do
      pure { o with start := ← waitUntilHealthy config s name o.start }
    else pure o
  if s.detach then return o else collectRun s name o

/-- Stops and removes a container that exists. -/
def stopAndRemove (s : Spec) : Procedure Outcome := do
  let name ← Procedure.ofExcept (s.requireName .stopAndRemoveContainer)
  if (← Worker.inspect name).isNone then return { changed := false }
  discard (Worker.stopContainer s)
  discard (Worker.removeContainer s)
  return { changed := true }

def waitIfAsked (config : Config) (s : Spec) (name : String) (report : StartReport) :
    Procedure StartReport :=
  if s.wait then waitUntilHealthy config s name report else pure report

def carryOut (c : Comparator) (config : Config) (s : Spec) (name : String) (d : Decision)
    (o : Outcome) : Procedure Outcome := do
  match d with
  | .noOp => return o
  | .create => startContainer c config s o
  | .recreate =>
    discard (Worker.ensureImage s)
    Procedure.record ("recreating container " ++ name)
    discard (Worker.stopContainer s)
    discard (Worker.removeContainer s)
    startContainer c config s o
  | .restart =>
    Procedure.record ("restarting container " ++ name)
    let report ← Worker.restartContainer s o.start
    return { o with start := ← waitIfAsked config s name report }
  | .startOnly =>
    let report ← startExisting config s name o.start
    return { o with start := ← waitIfAsked config s name report }

/-- Brings the container to its specification in the least disruptive way. -/
def recreateOrRestart (c : Comparator) (config : Config) (s : Spec) : Procedure Outcome := do
  let name ← Procedure.ofExcept (s.requireName .recreateOrRestartContainer)
  let a ← assess c s
  carryOut c config s name a.decision a.outcome

end Shipshape.Reconcile
