import Shipshape.Worker.Container

/-!
# Waiting

A container is looked at in regular intervals until it runs and is healthy. One that was left `created` is
started on the way, unless somebody else is to start it. Only the pauses between the looks take time; how much
they take is up to a timer. The clock has no last instant, so that there is always a deadline to wait for.
-/

namespace Shipshape

/-- What makes the pauses. Some time passes in each of them, however short it is. -/
structure Timer where
  /-- The nanoseconds that a pause takes that is to be so many milliseconds long. -/
  takes : Nat → Nat
  takes_pos : ∀ ms, 0 < takes ms

namespace Timer

def millisecond : Nat := 1000000

/-- A pause that is to be so many milliseconds long is so long. -/
def Keeps (t : Timer) (ms : Nat) : Prop := t.takes ms = ms * millisecond

/-- The timer that keeps to every length; only a pause of no length takes a nanosecond. -/
def punctual : Timer where
  takes ms := max 1 (ms * millisecond)
  takes_pos _ := Nat.le_max_left ..

end Timer

/-- How an invocation behaves. -/
structure Config where
  /-- The milliseconds between two looks. -/
  pollInterval : Nat := 2000
  /-- How many lines of the log a failure report shows. -/
  logTail : Nat := 200
  /-- The milliseconds that waiting may take, in place of what the specification says. -/
  waitTimeout : Option Nat := none
  verbosity : Verbosity := .normal
  timer : Timer := .punctual

namespace Config

/-- The seconds that waiting may take when nothing is said. -/
def defaultWaitSeconds : Nat := 120

/-- The milliseconds that waiting may take. -/
def timeout (c : Config) (s : Spec) : Nat :=
  c.waitTimeout.getD ((s.clientTimeout.filter (0 < ·)).getD defaultWaitSeconds * 1000)

def pause (c : Config) : Nat := c.timer.takes c.pollInterval

theorem pause_pos (c : Config) : 0 < c.pause := c.timer.takes_pos _

def pauseLength (c : Config) : Nat := c.pause / Timer.millisecond

end Config

/-- Whether the container runs and, if it has a healthcheck, is healthy. -/
def Inspection.isReady (i : Inspection) : Bool :=
  i.isRunning && (i.health? == none || i.health? == some "healthy")

namespace Reconcile

/-- Assembles the failure report. Looking may fail too; the report then has less to show. -/
def failure (c : Config) (s : Spec) (name message : String) (report : StartReport) :
    Procedure Error := do
  let info := match ← Procedure.engine (.inspectContainer name) with
    | .ok info => some info
    | .error _ => none
  let logs := match ← Procedure.engine (.logs name .both (some c.logTail)) with
    | .ok lines => "\n".intercalate lines
    | .error _ => ""
  return .waitFailed {
    message, name, logs
    status := info.bind (·.status?)
    health := info.bind (·.health?)
    startAttempted := report.attempted
    startCode := report.code
    startError := report.error
    start := s.start
    deferStart := s.deferStart
    wait := s.wait }

def fail {α : Type} (c : Config) (s : Spec) (name message : String) (report : StartReport) :
    Procedure α := do
  throw (← failure c s name message report)

/-- Starts a container that was left `created`. A failure is kept in mind, and waiting goes on. -/
def selfStart (name : String) (report : StartReport) : Procedure StartReport := do
  match ← Worker.start name with
  | .ok () =>
    Procedure.record ("started container " ++ name ++ " left in 'created'")
    return report.selfStarted
  | .error e => return report.failed e.message

/-- Starts the container if it was left `created` and nobody else is to start it. -/
def selfStartIfCreated (s : Spec) (name : String) (status : Option String) (report : StartReport) :
    Procedure StartReport :=
  if status == some "created" && !s.deferStart then selfStart name report else pure report

/-- What a look at the container is noted as. -/
def waitingLine (name : String) (info : Inspection) : String :=
  "waiting for " ++ name ++ ": status=" ++ info.status?.getD "unknown" ++ " health=" ++
    info.health?.getD "none"

/-- What a container that is up is noted as. -/
def readyLine (name : String) : String :=
  "container " ++ name ++ " is running and healthy"

/-- One look, for which the container must exist: whether it is up, and the starts so far. -/
def poll (c : Config) (s : Spec) (name : String) (report : StartReport) :
    Procedure (Bool × StartReport) := do
  match ← Worker.inspect name with
  | none =>
    fail c s name ("Container " ++ name ++ " disappeared while waiting for it to become healthy") report
  | some info =>
    if info.isReady then
      Procedure.record (readyLine name)
      return (true, report)
    Procedure.detail (waitingLine name info)
    return (false, ← selfStartIfCreated s name info.status? report)

/-- Looks until the container is up or none of so many nanoseconds is left. -/
def pollUntil (c : Config) (s : Spec) (name : String) (report : StartReport) (left : Nat) :
    Procedure (Bool × StartReport) := do
  let (ready, report) ← poll c s name report
  if ready then return (true, report)
  if left = 0 then return (false, report)
  Procedure.sleep c.pauseLength
  pollUntil c s name report (left - c.pause)
termination_by left
decreasing_by
  have := c.pause_pos
  omega

/-- What is said about a container that did not come up. -/
def timeoutMessage (name : String) (timeout : Nat) (status : Option String) (report : StartReport) :
    String :=
  if status == some "created" && !report.attempted then
    "Container " ++ name ++
      " is in 'created' (not running). Start was required but not executed."
  else
    "Container " ++ name ++ " did not become running and healthy within " ++
      Decimal.natText (timeout / 1000) ++ "s (status: " ++ status.getD "absent" ++ ")"

/-- The last chance of a container that never left `created`: a start, a pause and another look. -/
def lastChance (c : Config) (s : Spec) (name : String) (status : Option String)
    (report : StartReport) : Procedure (Bool × StartReport) := do
  if status == some "created" && !s.deferStart then
    let report ← selfStart name report
    Procedure.sleep c.pauseLength
    let ready := (← Worker.inspect name).any (·.isReady)
    if ready then Procedure.record (readyLine name)
    return (ready, report)
  else return (false, report)

/-- Waits until the container is up; the starts on the way. -/
def waitUntilHealthy (c : Config) (s : Spec) (name : String) (report : StartReport) :
    Procedure StartReport := do
  let (ready, report) ← pollUntil c s name report (c.timeout s * Timer.millisecond)
  if ready then return report
  let status := (← Worker.inspect name).bind (·.status?)
  let (ready, report) ← lastChance c s name status report
  if ready then return report
  fail c s name (timeoutMessage name (c.timeout s) status report) report

end Reconcile

end Shipshape
