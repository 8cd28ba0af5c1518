import Shipshape.Proofs.Create.Request
import Shipshape.Proofs.Engine.Run
import Shipshape.Reconcile.Run

/-!
# What is asked

For each procedure the calls that it may make, whatever the answers are: the kinds of calls, and which
containers and images they are about (`AsksWithin`). Most procedures only look; the others are named by what
else they do. Where only the kinds matter, the scope is everything (`AsksKinds`).
-/

namespace Shipshape

/-- What calls are made for. -/
inductive CallKind where
  /-- Looking at a container or an image, or reading a log. -/
  | look
  /-- Running a command in a container. -/
  | probe
  /-- Looking for or making a volume or a host path. -/
  | storage
  /-- Fetching an image. -/
  | fetch
  /-- Creating a container. -/
  | create
  /-- Starting a container. -/
  | start
  /-- Waiting for a container to end. -/
  | wait
  /-- Stopping or removing a container or its unit. -/
  | takeDown
  /-- Restarting a container, or writing its unit. -/
  | restart
  /-- Removing a volume or an image. -/
  | discard
  deriving DecidableEq, Repr

def Call.kind : Call → CallKind
  | engine c =>
    match c with
    | .inspectContainer _ | .inspectImage _ | .logs .. => .look
    | .exec .. => .probe
    | .inspectVolume _ | .createVolume _ => .storage
    | .pullImage _ => .fetch
    | .createContainer _ => .create
    | .startContainer _ => .start
    | .waitContainer _ => .wait
    | .stopContainer .. | .removeContainer .. => .takeDown
    | .restartContainer .. => .restart
    | .removeVolume _ | .removeImage _ => .discard
  | unit c _ =>
    match c with
    | .checkChanged => .look
    | .start => .start
    | .stop | .remove => .takeDown
    | .create | .restart => .restart
  | hostPath _ => .storage

theorem Call.isMutating_of_look {c : Call} (hc : c.kind ∈ [CallKind.look, .probe]) :
    c.isMutating = false := by
  cases c with
  | engine c => cases c <;> first | rfl | exact absurd hc (of_decide_eq_false rfl)
  | unit c name => cases c <;> first | rfl | exact absurd hc (of_decide_eq_false rfl)
  | hostPath path => rfl

/-! ### What calls are about -/

/-- The containers and units that calls may be about, and the images that they may fetch. -/
structure Scope where
  container : String → Prop
  image : PullRequest → Prop

/-- Any container and any image. -/
def Scope.all : Scope := ⟨fun _ => True, fun _ => True⟩

/-- The container of a specification is in scope, and so is its image. -/
structure Scope.Holds (T : Scope) (s : Spec) : Prop where
  container : ∀ name, s.name = some name → T.container name
  image : ∀ reference, s.image = some reference → T.image (Create.pullRequest s reference)

theorem Scope.holds_all (s : Spec) : all.Holds s := ⟨fun _ _ => trivial, fun _ _ => trivial⟩

/-- What a call is about is in scope; storage and the removal of volumes and images are a matter of their
own. -/
def Call.Within (T : Scope) : Call → Prop
  | engine c =>
    match c with
    | .inspectContainer n | .startContainer n | .stopContainer n _ | .restartContainer n _
    | .removeContainer n _ | .waitContainer n | .logs n _ _ | .exec n _ _ => T.container n
    | .createContainer r => T.container r.name
    | .pullImage q => T.image q
    | .inspectImage _ | .removeImage _ | .inspectVolume _ | .createVolume _ | .removeVolume _ => True
  | unit _ n => T.container n
  | hostPath _ => True

theorem Program.asks_anything {α : Type} (p : Program α) : p.Asks fun _ => True := by
  induction p with
  | done a => trivial
  | call c next ih => exact ⟨trivial, ih⟩
  | sleep ms next ih => exact ih
  | note n next ih => exact ih

theorem Program.Asks.mono {α : Type} {allowed allowed' : Call → Prop} {p : Program α}
    (hp : p.Asks allowed) (h : ∀ c, allowed c → allowed' c) : p.Asks allowed' := by
  induction p with
  | done a => trivial
  | call c next ih => exact ⟨h c hp.1, fun answer => ih answer (hp.2 answer)⟩
  | sleep ms next ih => exact ih hp
  | note n next ih => exact ih hp

namespace Procedure

variable {α : Type}

theorem Asks.mono {allowed allowed' : Call → Prop} {p : Procedure α} (hp : p.Asks allowed)
    (h : ∀ c, allowed c → allowed' c) : p.Asks allowed' :=
  Program.Asks.mono hp h

/-- Every call that a procedure may make is of one of some kinds. -/
def AsksKinds (p : Procedure α) (kinds : List CallKind) : Prop := p.Asks fun c => c.kind ∈ kinds

theorem AsksKinds.mono {p : Procedure α} {kinds kinds' : List CallKind} (hp : p.AsksKinds kinds)
    (h : ∀ k ∈ kinds, k ∈ kinds') : p.AsksKinds kinds' :=
  Asks.mono hp fun c hc => h c.kind hc

/-- Every call that a procedure may make is of one of some kinds, and about what is in scope. -/
def AsksWithin (p : Procedure α) (T : Scope) (kinds : List CallKind) : Prop :=
  p.Asks fun c => c.kind ∈ kinds ∧ c.Within T

variable {p : Procedure α} {T : Scope} {ks ks' : List CallKind}

theorem AsksWithin.mono (hp : p.AsksWithin T ks) (h : ∀ k ∈ ks, k ∈ ks') : p.AsksWithin T ks' :=
  Asks.mono hp fun c hc => ⟨h c.kind hc.1, hc.2⟩

theorem AsksWithin.kinds (hp : p.AsksWithin T ks) : p.AsksKinds ks := Asks.mono hp fun _ hc => hc.1

end Procedure

open Procedure

namespace Worker

variable {T : Scope} {s : Spec} {name : String}

/-! ### Looking -/

theorem within_inspect (hname : T.container name) : (inspect name).AsksWithin T [.look] :=
  asks_engineIfFound ⟨by simp [Call.kind], hname⟩

theorem asks_inspect : (inspect name).AsksKinds [.look] := (within_inspect (T := .all) trivial).kinds

theorem within_checkImage : (checkImage s).AsksWithin T [.look] := by
  unfold checkImage
  split
  · exact asks_pure none
  · exact asks_engineIfFound ⟨by simp [Call.kind], trivial⟩

theorem asks_checkImage : (checkImage s).AsksKinds [.look] := (within_checkImage (T := .all)).kinds

theorem within_configChanged (hs : T.Holds s) : (configChanged s).AsksWithin T [.look, .probe] := by
  refine asks_ofExcept_bind fun name hname => ?_
  have hname : T.container name := hs.container name (Spec.requireName_eq_ok.1 hname)
  refine asks_bind ((within_inspect hname).mono (by decide)) fun info => ?_
  split
  · exact asks_pure true
  · split
    · exact asks_pure true
    · refine asks_bind (asks_engine ⟨by simp [Call.kind], hname⟩) fun answer => ?_
      split
      · split
        · exact asks_pure true
        · exact asks_throw _
      · split
        · exact asks_pure false
        · split
          · exact asks_pure true
          · exact asks_throw _

/-! ### Images and storage -/

theorem within_pullImage (hs : T.Holds s) : (pullImage s).AsksWithin T [.look, .fetch] := by
  refine asks_ofExcept_bind fun reference hreference =>
    asks_bind (within_checkImage.mono (by decide)) fun previous =>
      asks_bind (asks_engine ⟨by simp [Call.kind], ?_⟩) fun answer => ?_
  · exact hs.image reference (Spec.requireImage_eq_ok.1 hreference)
  · split
    · exact asks_pure _
    · exact asks_throw _
    · exact asks_throw _

theorem within_ensureImage (hs : T.Holds s) : (ensureImage s).AsksWithin T [.look, .fetch] := by
  unfold ensureImage
  split
  · exact asks_pure false
  · refine asks_bind (within_checkImage.mono (by decide)) fun image => ?_
    split
    · exact asks_pure false
    · exact within_pullImage hs

theorem asks_ensureImage : (ensureImage s).AsksKinds [.look, .fetch] :=
  (within_ensureImage (Scope.holds_all s)).kinds

theorem asks_createVolume {volume : String} :
    (createVolume volume).AsksKinds [.storage] := by
  refine asks_bind (asks_engineIfFound (by simp [Call.kind])) fun found => ?_
  split
  · exact asks_pure none
  · exact asks_bind (asks_engineOrFail (by simp [Call.kind])) fun record => asks_pure _

theorem asks_provision (v : Create.Podman.Storage) : (provision v).AsksKinds [.storage] := by
  cases v with
  | named v => exact asks_bind asks_createVolume fun record => asks_pure _
  | mount m =>
    simp only [provision]
    split
    · refine asks_bind (p := ExceptT.lift _) ⟨by simp [Call.kind], fun _ => trivial⟩ fun made => ?_
      split
      · exact asks_pure _
      · exact asks_throw _
    · exact asks_pure false

theorem asks_provisionAll (vs : List Create.Podman.Storage) :
    (provisionAll vs).AsksKinds [.storage] := by
  induction vs with
  | nil => exact asks_pure false
  | cons v vs ih => exact asks_bind (asks_provision v) fun _ => asks_bind ih fun _ => asks_pure _

theorem asks_provisionVolumes : (provisionVolumes s).AsksKinds [.storage] := by
  unfold provisionVolumes
  split
  · exact asks_pure false
  · exact asks_bind (asks_ofExcept _) fun vs => asks_provisionAll vs

/-! ### Starting and stopping -/

theorem within_start (hname : T.container name) : (start name).AsksWithin T [.start] := by
  refine asks_bind (asks_engine ⟨by simp [Call.kind], hname⟩) fun answer => ?_
  split
  · exact asks_pure _
  · exact asks_pure _

theorem within_stopRunning (hname : T.container name) :
    (stopRunning s name).AsksWithin T [.takeDown, .restart] := by
  unfold stopRunning
  split
  · refine asks_bind (asks_discard (asks_unit ⟨by simp [Call.kind], hname⟩)) fun _ =>
      asks_bind (asks_unit ⟨by simp [Call.kind], hname⟩) fun stopped => ?_
    split
    · exact asks_throw _
    · exact asks_pure ()
  · exact asks_engineOrFail ⟨by simp [Call.kind], hname⟩

theorem within_stopContainer (hs : T.Holds s) :
    (stopContainer s).AsksWithin T [.look, .takeDown, .restart] := by
  refine asks_ofExcept_bind fun name hname => ?_
  have hname : T.container name := hs.container name (Spec.requireName_eq_ok.1 hname)
  refine asks_bind ((within_inspect hname).mono (by decide)) fun info => ?_
  split
  · split
    · exact asks_pure false
    · exact asks_throw _
  · split
    · exact asks_pure false
    · exact asks_bind ((within_stopRunning hname).mono (by decide)) fun _ => asks_pure true

theorem asks_stopContainer : (stopContainer s).AsksKinds [.look, .takeDown, .restart] :=
  (within_stopContainer (Scope.holds_all s)).kinds

theorem within_removeContainer (hs : T.Holds s) :
    (removeContainer s).AsksWithin T [.look, .takeDown] := by
  refine asks_ofExcept_bind fun name hname => ?_
  have hname : T.container name := hs.container name (Spec.requireName_eq_ok.1 hname)
  have hlook : (inspect name).AsksWithin T [.look, .takeDown] := (within_inspect hname).mono (by decide)
  refine asks_bind (asks_unit ⟨by simp [Call.kind], hname⟩) fun removed => ?_
  refine asks_bind hlook fun info => ?_
  split
  · exact asks_pure _
  · refine asks_bind (asks_engine ⟨by simp [Call.kind], hname⟩) fun answer => ?_
    split
    · refine asks_bind hlook fun info => ?_
      split
      · exact asks_bind (asks_throw _) fun _ => asks_pure true
      · exact asks_pure true
    · exact asks_pure true

theorem asks_removeContainer : (removeContainer s).AsksKinds [.look, .takeDown] :=
  (within_removeContainer (Scope.holds_all s)).kinds

theorem within_restartContainer (hs : T.Holds s) {report : StartReport} :
    (restartContainer s report).AsksWithin T [.look, .start, .restart] := by
  refine asks_ofExcept_bind fun name hname => ?_
  have hname : T.container name := hs.container name (Spec.requireName_eq_ok.1 hname)
  split
  · refine asks_bind (asks_discard (asks_unit ⟨by simp [Call.kind], hname⟩)) fun _ =>
      asks_bind (asks_unit ⟨by simp [Call.kind], hname⟩) fun restarted => ?_
    split
    · exact asks_pure _
    · refine asks_bind ((within_inspect hname).mono (by decide)) fun info => ?_
      dsimp only
      split
      · refine asks_bind ((within_start hname).mono (by decide)) fun answer => ?_
        split
        · exact asks_bind (asks_throw _) fun _ => asks_pure _
        · exact asks_pure _
      · exact asks_pure _
  · refine asks_bind ((within_inspect hname).mono (by decide)) fun info => ?_
    refine asks_when (asks_throw _) fun _ => ?_
    refine asks_bind (asks_engine ⟨by simp [Call.kind], hname⟩) fun answer => ?_
    split
    · exact asks_pure _
    · exact asks_throw _

theorem asks_restartContainer {report : StartReport} :
    (restartContainer s report).AsksKinds [.look, .start, .restart] :=
  (within_restartContainer (Scope.holds_all s)).kinds

/-! ### Creating -/

theorem within_createProvisioned (hs : T.Holds s) : AsksWithin (do
      let request ← Procedure.ofExcept (Create.request s)
      engineOrFail (.createContainer request)
      if supervised s then
        let name ← Procedure.ofExcept (s.requireName .startContainer)
        discard (Procedure.unit .create name)
      return true) T [.create, .restart] := by
  refine asks_ofExcept_bind fun request hrequest => ?_
  have hname : T.container request.name := hs.container _ (Create.request_requested hrequest).name
  refine asks_bind (asks_engineOrFail ⟨by simp [Call.kind], hname⟩) fun _ => ?_
  split
  · refine asks_ofExcept_bind fun name hname => ?_
    have hname : T.container name := hs.container name (Spec.requireName_eq_ok.1 hname)
    exact asks_bind (asks_discard (asks_unit ⟨by simp [Call.kind], hname⟩)) fun _ => asks_pure true
  · exact asks_pure true

theorem asks_createContainer : (createContainer s).AsksKinds [.storage, .create, .restart] :=
  asks_bind (asks_discard (asks_provisionVolumes.mono (by decide))) fun _ =>
    (within_createProvisioned (Scope.holds_all s)).kinds.mono (by decide)

end Worker

namespace Reconcile

variable {T : Scope} {c : Comparator} {config : Config} {s : Spec} {name : String}

/-! ### Assessing -/

theorem within_compareWith {info : Inspection} : (compareWith c s info).AsksWithin T [.look] :=
  asks_bind Worker.within_checkImage fun _ => asks_bind (asks_ofExcept _) fun p =>
    asks_bind (asks_notes p.2) fun _ => asks_pure p.1

theorem asks_compareWith {info : Inspection} : (compareWith c s info).AsksKinds [.look] :=
  (within_compareWith (T := .all)).kinds

theorem within_assessLive (hs : T.Holds s) (hname : T.container name) {info : Inspection} :
    (assessLive c s name info).AsksWithin T [.look, .probe] := by
  refine asks_bind (within_compareWith.mono (by decide)) fun drift => ?_
  refine asks_ite (Worker.within_configChanged hs) (asks_pure false) fun configChanged => ?_
  refine asks_when (asks_record _) fun _ => ?_
  refine asks_bind (asks_unit ⟨by simp [Call.kind], hname⟩) fun unitChanged => ?_
  exact asks_when (asks_record _) fun _ => asks_bind (asks_record _) fun _ => asks_pure _

theorem within_assess (hs : T.Holds s) : (assess c s).AsksWithin T [.look, .probe] := by
  refine asks_bind (asks_ofExcept _) fun _ => asks_ofExcept_bind fun name hname => ?_
  have hname : T.container name := hs.container name (Spec.requireName_eq_ok.1 hname)
  refine asks_bind ((Worker.within_inspect hname).mono (by decide)) fun info => ?_
  split
  · exact within_assessLive hs hname
  · exact asks_bind (asks_record _) fun _ => asks_pure _

theorem asks_assess : (assess c s).AsksKinds [.look, .probe] := (within_assess (Scope.holds_all s)).kinds

theorem within_compareImage (hs : T.Holds s) : (compareImage s).AsksWithin T [.look] := by
  refine asks_ofExcept_bind fun name hname => ?_
  have hname : T.container name := hs.container name (Spec.requireName_eq_ok.1 hname)
  refine asks_bind (Worker.within_inspect hname) fun info => ?_
  split
  · exact asks_bind (asks_record _) fun _ => asks_pure _
  · refine asks_bind Worker.within_checkImage fun image => ?_
    split
    · exact asks_bind (asks_record _) fun _ => asks_pure _
    · exact asks_when (asks_record _) fun _ => asks_pure _

theorem asks_compareImage : (compareImage s).AsksKinds [.look] :=
  (within_compareImage (Scope.holds_all s)).kinds

/-! ### Waiting -/

theorem within_fail (hname : T.container name) {α : Type} {message : String} {report : StartReport} :
    (fail config s name message report : Procedure α).AsksWithin T [.look] :=
  asks_bind (asks_bind (asks_engine ⟨by simp [Call.kind], hname⟩) fun _ =>
    asks_bind (asks_engine ⟨by simp [Call.kind], hname⟩) fun _ => asks_pure _) fun _ => asks_throw _

theorem within_selfStart (hname : T.container name) {report : StartReport} :
    (selfStart name report).AsksWithin T [.start] := by
  refine asks_bind (Worker.within_start hname) fun answer => ?_
  split
  · exact asks_bind (asks_record _) fun _ => asks_pure _
  · exact asks_pure _

theorem within_poll (hname : T.container name) {report : StartReport} :
    (poll config s name report).AsksWithin T [.look, .start] := by
  refine asks_bind ((Worker.within_inspect hname).mono (by decide)) fun info => ?_
  split
  · exact (within_fail hname).mono (by decide)
  · split
    · exact asks_bind (asks_record _) fun _ => asks_pure _
    · refine asks_bind (asks_detail _) fun _ => asks_bind ?_ fun _ => asks_pure _
      unfold selfStartIfCreated
      split
      · exact (within_selfStart hname).mono (by decide)
      · exact asks_pure _

theorem within_pollUntil (hname : T.container name) (report : StartReport) (left : Nat) :
    (pollUntil config s name report left).AsksWithin T [.look, .start] := by
  induction report, left using pollUntil.induct config with
  | case1 report left ih =>
    rw [pollUntil]
    refine asks_bind (within_poll hname) fun p => ?_
    split
    split
    · exact asks_pure _
    · split
      · exact asks_pure _
      · next hleft => exact asks_bind (asks_sleep _) fun _ => ih _ hleft

theorem within_lastChance (hname : T.container name) {status : Option String} {report : StartReport} :
    (lastChance config s name status report).AsksWithin T [.look, .start] := by
  unfold lastChance
  split
  · refine asks_bind ((within_selfStart hname).mono (by decide)) fun report =>
      asks_bind (asks_sleep _) fun _ =>
        asks_bind ((Worker.within_inspect hname).mono (by decide)) fun info => ?_
    exact asks_when (asks_record _) fun _ => asks_pure _
  · exact asks_pure _

theorem within_waitUntilHealthy (hname : T.container name) {report : StartReport} :
    (waitUntilHealthy config s name report).AsksWithin T [.look, .start] := by
  refine asks_bind (within_pollUntil hname _ _) fun p => ?_
  split
  split
  · exact asks_pure _
  · refine asks_bind ((Worker.within_inspect hname).mono (by decide)) fun info =>
      asks_bind (within_lastChance hname) fun p => ?_
    split
    split
    · exact asks_pure _
    · exact (within_fail hname).mono (by decide)

theorem asks_waitUntilHealthy {report : StartReport} :
    (waitUntilHealthy config s name report).AsksKinds [.look, .start] :=
  (within_waitUntilHealthy (T := .all) trivial).kinds

/-! ### Bringing a container up -/

theorem within_startExisting (hname : T.container name) {report : StartReport} :
    (startExisting config s name report).AsksWithin T [.look, .start] := by
  refine asks_bind ((Worker.within_start hname).mono (by decide)) fun answer => ?_
  split
  · exact asks_bind (asks_record _) fun _ => asks_pure _
  · exact (within_fail hname).mono (by decide)

theorem asks_startExisting {report : StartReport} :
    (startExisting config s name report).AsksKinds [.look, .start] :=
  (within_startExisting (T := .all) trivial).kinds

theorem within_waitIfAsked (hname : T.container name) {report : StartReport} :
    (waitIfAsked config s name report).AsksWithin T [.look, .start] := by
  unfold waitIfAsked
  split
  · exact within_waitUntilHealthy hname
  · exact asks_pure _

theorem asks_waitIfAsked {report : StartReport} :
    (waitIfAsked config s name report).AsksKinds [.look, .start] :=
  (within_waitIfAsked (T := .all) trivial).kinds

theorem within_collectRun (hs : T.Holds s) (hname : T.container name) {o : Outcome} :
    (collectRun s name o).AsksWithin T [.look, .wait, .takeDown, .restart] := by
  refine asks_bind (asks_engineOrFail ⟨by simp [Call.kind], hname⟩) fun exitCode => ?_
  refine asks_bind (asks_engineOrFail ⟨by simp [Call.kind], hname⟩) fun out => ?_
  refine asks_bind (asks_engineOrFail ⟨by simp [Call.kind], hname⟩) fun err => ?_
  have hfinish : ∀ u : Unit, AsksWithin (do
      if exitCode ≠ 0 then
        throw (.containerExited name exitCode ("\n".intercalate out) ("\n".intercalate err))
      return { o with
        exitCode := some exitCode
        stdout := some ("\n".intercalate out)
        stderr := some ("\n".intercalate err) }) T [.look, .wait, .takeDown, .restart] := fun _ =>
    asks_when (asks_throw _) fun _ => asks_pure _
  dsimp only
  split
  · exact asks_bind (asks_discard ((Worker.within_stopContainer hs).mono (by decide))) fun _ =>
      asks_bind (asks_discard ((Worker.within_removeContainer hs).mono (by decide))) hfinish
  · exact hfinish ()

theorem within_replaceIfDrifted (hs : T.Holds s) {info : Inspection} :
    (replaceIfDrifted c s name info).AsksWithin T [.look, .takeDown, .restart] := by
  refine asks_bind (within_compareWith.mono (by decide)) fun drift => ?_
  split
  · exact asks_bind (asks_record _) fun _ =>
      asks_bind (asks_discard (Worker.within_stopContainer hs)) fun _ =>
        asks_bind (asks_discard ((Worker.within_removeContainer hs).mono (by decide))) fun _ => asks_pure false
  · exact asks_pure true

theorem asks_ensureContainer :
    (ensureContainer c s name).AsksKinds [.look, .storage, .create, .takeDown, .restart] := by
  have hlook : (Worker.inspect name).AsksKinds [.look, .storage, .create, .takeDown, .restart] :=
    Worker.asks_inspect.mono (by decide)
  have hmake : AsksKinds (do
      discard (Worker.createContainer s)
      Procedure.record ("created container " ++ name)
      return (← Worker.inspect name, true)) [.look, .storage, .create, .takeDown, .restart] :=
    asks_bind (asks_discard (Worker.asks_createContainer.mono (by decide))) fun _ =>
      asks_bind (asks_record _) fun _ => asks_bind hlook fun _ => asks_pure _
  refine asks_bind hlook fun info => ?_
  cases info with
  | none => exact hmake
  | some live =>
    refine asks_bind ((within_replaceIfDrifted (Scope.holds_all s)).kinds.mono (by decide)) fun kept => ?_
    cases kept with
    | true => exact asks_pure _
    | false => exact hmake

theorem within_ensureImageNoted (hs : T.Holds s) : (ensureImageNoted s).AsksWithin T [.look, .fetch] :=
  asks_bind (Worker.within_ensureImage hs) fun pulled => asks_when (asks_record _) fun _ => asks_pure pulled

end Reconcile

/-! ### Invocations -/

theorem Reconciler.perform_recreate {r : Reconciler} {s : Spec} {name : String} (hname : s.name = some name) :
    r.perform .recreateOrRestartContainer s = Reconcile.assess r.comparator s >>= fun a =>
      Reconcile.carryOut r.comparator r.config s name a.decision a.outcome := by
  have hrequired : s.requireName .recreateOrRestartContainer = .ok name := Spec.requireName_eq_ok.2 hname
  unfold perform Reconcile.recreateOrRestart
  rw [hrequired]
  rfl

/-- What an invocation ensures is what its action ensures, once the parameters are there; but for the notes, which are
added to its outcome. -/
theorem Reconciler.ensures_run_of {r : Reconciler} {a : Action} {s : Spec} {h : History}
    {good : Outcome → History → Prop} {bad : Error → History → Prop}
    (hgood : ∀ o debug h', good { o with debug } h' ↔ good o h') :
    (r.run a s).Ensures h good bad ↔ match s.validateFor a with
      | .ok () => (r.perform a s).Ensures h good bad
      | .error e => bad e h := by
  rw [run, ensures_bind, ensures_ofExcept]
  cases s.validateFor a with
  | error e => rfl
  | ok _ =>
    dsimp only
    simp only [ensures_bind, ensures_pure, hgood]
    exact ensures_collectNotes _

theorem Reconciler.ensures_run {r : Reconciler} {a : Action} {s : Spec} {h : History}
    {good : History → Prop} {bad : Error → History → Prop} :
    (r.run a s).Ensures h (fun _ h' => good h') bad ↔ match s.validateFor a with
      | .ok () => (r.perform a s).Ensures h (fun _ h' => good h') bad
      | .error e => bad e h :=
  ensures_run_of fun _ _ _ => Iff.rfl

end Shipshape
