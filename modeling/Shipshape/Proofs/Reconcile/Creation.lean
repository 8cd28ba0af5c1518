import Shipshape.Proofs.Create.Request
import Shipshape.Proofs.Memory.Calm

/-!
# Making a container in a calm world

Where there is no container of the name, bringing it up leaves one that was made from the request for the
specification, running if it was to be started here (`knows_of_startContainer`).

Proof outline. Every procedure on the way is run to its end, and what is known of the container and of the image
behind its reference is carried along.
-/

namespace Shipshape

/-- The image that a container is made from: the local one, or the one that is fetched, if it is fetched under
the reference that was declared. -/
def World.localImage? (w : World) (s : Spec) : Option Image :=
  s.image.bind fun reference => (w.engine.images.get? reference).or
    (if (Create.pullRequest s reference).reference = reference then w.engine.registry.get? reference else none)

/-- The status that a container has after it was brought up. -/
def Spec.statusAfter (s : Spec) : String := if Reconcile.startRequested s then "running" else "created"

theorem World.localImage?_of_looked {w w' : World} (h : w.engine.Looked w'.engine) (s : Spec) :
    w'.localImage? s = w.localImage? s := by
  rw [localImage?, localImage?, h.images, h.registry]

open Procedure World

variable {s : Spec} {name reference : String} {known : Option Json → Prop} {image : Option Image}
  {w w' : World}

namespace Worker

theorem inspect_eq (h : w.faults = ∅) (n : String) : (inspect n).runIn w =
    (.ok (((w.engine.inspectContainer n).2.containers.get? n).map Inspection.mk),
      { w with calls := .engine (.inspectContainer n) :: w.calls, engine := (w.engine.inspectContainer n).2 }) := by
  have hreply : w.engine.answer (.inspectContainer n) = w.engine.inspectContainer n := rfl
  rw [inspect, runIn_engineIfFound, answer_engine h, hreply, MemoryEngine.inspectContainer_fst]
  cases (w.engine.inspectContainer n).2.containers.get? n with
  | none => rfl
  | some document => rfl

theorem runIn_inspect (hk : Knows name reference known image w) (hstable : Stable known) (n : String) :
    ∃ w', (inspect n).runIn w = (.ok ((w'.engine.containers.get? n).map Inspection.mk), w') ∧
      w.engine.Looked w'.engine ∧ Knows name reference known image w' := by
  have hlooked := MemoryEngine.looked_inspectContainer w.engine n
  exact ⟨_, inspect_eq hk.faults n, hlooked, hk.of_looked hstable hlooked⟩

theorem checkImage_eq (h : w.faults = ∅) (himage : s.image = some reference) : (checkImage s).runIn w =
    (.ok (w.engine.images.get? reference), { w with calls := .engine (.inspectImage reference) :: w.calls }) := by
  have hcheck : checkImage s = engineIfFound (.inspectImage reference) := by
    rw [checkImage, himage]
  have hreply : w.engine.answer (.inspectImage reference) =
      (MemoryEngine.found "image" reference (w.engine.images.get? reference), w.engine) := rfl
  rw [hcheck, runIn_engineIfFound, answer_engine h, hreply]
  cases w.engine.images.get? reference with
  | none => rfl
  | some i => rfl

theorem runIn_checkImage (hk : Knows name reference known image w) (himage : s.image = some reference) :
    ∃ w', (checkImage s).runIn w = (.ok image, w') ∧ w'.engine = w.engine ∧
      Knows name reference known image w' := by
  have hcheck := checkImage_eq hk.faults himage
  rw [hk.image] at hcheck
  exact ⟨_, hcheck, rfl, hk.containers hk.container⟩

theorem pullImage_eq (h : w.faults = ∅) (himage : s.image = some reference) : ∃ calls,
    (pullImage s).runIn w =
      (match w.engine.registry.get? (Create.pullRequest s reference).reference with
        | some i => .ok (w.engine.images.get? reference != some i)
        | none => .error (.imageNotFound reference),
      { w with calls, engine := (w.engine.pullImage (Create.pullRequest s reference)).2 }) := by
  have hrequired : s.requireImage .pullImage = .ok reference := Spec.requireImage_eq_ok.2 himage
  have hfaults : World.faults { w with calls := .engine (.inspectImage reference) :: w.calls } = ∅ := h
  unfold pullImage
  rw [hrequired, runIn_bind_ok (runIn_ofExcept _ _), runIn_bind_ok (checkImage_eq h himage), runIn_bind,
    runIn_engine]
  dsimp only
  rw [answer_engine hfaults]
  have hreply : w.engine.answer (.pullImage (Create.pullRequest s reference)) =
      w.engine.pullImage (Create.pullRequest s reference) := rfl
  rw [hreply, MemoryEngine.pullImage]
  cases w.engine.registry.get? (Create.pullRequest s reference).reference with
  | none => exact ⟨_, rfl⟩
  | some i => exact ⟨_, rfl⟩

theorem knows_of_pullImage {b : Bool} (hk : Knows name reference known image w)
    (himage : s.image = some reference) (h : (pullImage s).runIn w = (.ok b, w')) :
    Knows name reference known
      (if (Create.pullRequest s reference).reference = reference then w.engine.registry.get? reference
        else image) w' := by
  obtain ⟨calls, hpull⟩ := pullImage_eq hk.faults himage
  rw [hpull, MemoryEngine.pullImage] at h
  cases hregistry : w.engine.registry.get? (Create.pullRequest s reference).reference with
  | none =>
    rw [hregistry] at h
    cases h
  | some fetched =>
    rw [hregistry] at h
    injection h with _ h
    subst h
    refine hk.of_engine ?_ ?_ ?_ ?_ hk.container
    · rfl
    · rfl
    · rfl
    dsimp only
    rw [Dict.get?_insert]
    by_cases hsame : (Create.pullRequest s reference).reference = reference
    · rw [if_pos hsame.symm, if_pos hsame, ← hsame, hregistry]
    · rw [if_neg (Ne.symm hsame), if_neg hsame, hk.image]

theorem knows_of_ensureImage {b : Bool} (hk : Knows name reference known image w)
    (himage : s.image = some reference) (h : (ensureImage s).runIn w = (.ok b, w')) :
    Knows name reference known (w.localImage? s) w' := by
  have hlocal : w.localImage? s = image.or
      (if (Create.pullRequest s reference).reference = reference then w.engine.registry.get? reference
        else none) := by
    rw [localImage?, himage, Option.bind_some, hk.image]
  obtain ⟨w₁, hcheck, hengine, hk₁⟩ := runIn_checkImage hk himage
  have hdeclared : s.image.isNone = false := by
    rw [himage]
    rfl
  rw [hlocal, ← hengine]
  rw [ensureImage, hdeclared] at h
  have hrest : (do if (← checkImage s).isSome then return false else pullImage s : Procedure Bool).runIn w =
      (.ok b, w') := h
  rw [runIn_bind_ok hcheck] at hrest
  cases image with
  | some i =>
    injection hrest with _ hrest
    rw [← hrest]
    exact hk₁
  | none => exact knows_of_pullImage hk₁ himage hrest

theorem knows_of_storage {α : Type} {p : Procedure α} {result : Except Error α}
    (hk : Knows name reference known image w) (hp : p.AsksKinds [.storage]) (h : p.runIn w = (result, w')) :
    Knows name reference known image w' := by
  have hafter := Asks.runIn hp (fun _ _ hc hk => hk.storage (List.mem_singleton.1 hc))
    (fun _ ms hk => hk.pause ms) hk
  rwa [h] at hafter

theorem knows_of_create {r : ContainerRequest} {u : Unit} (hk : Knows name r.image (· = none) image w)
    (hname : r.name = name) (h : (engineOrFail (.createContainer r)).runIn w = (.ok u, w')) :
    Knows name r.image (MadeFrom r image "created") image w' := by
  have hfree : w.engine.containers.contains r.name = false := by
    rw [Dict.contains, hname, hk.container]
    rfl
  have hreply : w.engine.answer (.createContainer r) = (.ok (),
      { w.engine with containers :=
          w.engine.containers.insert r.name (Memory.describe r (w.engine.images.get? r.image)) }) := by
    show w.engine.createContainer r = _
    rw [MemoryEngine.createContainer, hfree]
    rfl
  rw [engineOrFail, runIn_bind, runIn_engine] at h
  dsimp only at h
  rw [answer_engine hk.faults, hreply] at h
  injection h with _ h
  subst h
  refine hk.containers ?_
  rw [hname, Dict.get?_insert_self, hk.image]
  exact ⟨_, rfl, fun _ _ => rfl, Memory.view_status⟩

theorem request_of_createContainer {b : Bool} (h : (createContainer s).runIn w = (.ok b, w')) :
    ∃ r, Create.request s = .ok r := by
  obtain ⟨_, w₁, -, h⟩ := runIn_bind_eq_ok.1 h
  obtain ⟨r, hrequest, -⟩ := runIn_ofExcept_bind_eq_ok.1 h
  exact ⟨r, hrequest⟩

theorem knows_of_createContainer {b : Bool} (hk : Knows name reference (· = none) image w)
    (hname : s.name = some name) (himage : s.image = some reference)
    (h : (createContainer s).runIn w = (.ok b, w')) : ∃ r, Create.request s = .ok r ∧
      Knows name reference (MadeFrom r image "created") image w' := by
  obtain ⟨_, w₁, hprovision, h⟩ := runIn_bind_eq_ok.1 h
  have hk₁ := knows_of_storage hk (asks_discard asks_provisionVolumes) hprovision
  obtain ⟨r, hrequest, h⟩ := runIn_ofExcept_bind_eq_ok.1 h
  have hr := Create.request_requested hrequest
  have hrname : r.name = name := Option.some.inj (hr.name.symm.trans hname)
  have hrimage : r.image = reference := Option.some.inj (hr.image.symm.trans himage)
  subst hrimage
  obtain ⟨_, w₃, hcreate, h⟩ := runIn_bind_eq_ok.1 h
  have hk₃ := knows_of_create hk₁ hrname hcreate
  refine ⟨r, hrequest, ?_⟩
  split at h
  · obtain ⟨n, -, h⟩ := runIn_ofExcept_bind_eq_ok.1 h
    obtain ⟨_, w₅, hunit, h⟩ := runIn_bind_eq_ok.1 h
    injection h with _ h
    subst h
    obtain ⟨_, hunit⟩ := exists_of_runIn_discard hunit
    injection hunit with _ hunit
    rw [← hunit]
    exact hk₃.unit .create n
  · injection h with _ h
    subst h
    exact hk₃

end Worker

namespace Reconcile

variable {c : Comparator} {config : Config}

theorem runIn_ensureContainer (hk : Knows name reference (· = none) image w) :
    ∃ w₁, Knows name reference (· = none) image w₁ ∧ (ensureContainer c s name).runIn w = (do
      discard (Worker.createContainer s)
      record ("created container " ++ name)
      return (← Worker.inspect name, true) : Procedure (Option Inspection × Bool)).runIn w₁ := by
  obtain ⟨w₁, hlook, -, hk₁⟩ := Worker.runIn_inspect hk stable_absent name
  refine ⟨w₁, hk₁, ?_⟩
  rw [ensureContainer, runIn_bind_ok hlook, hk₁.container]
  rfl

theorem knows_of_ensureContainer {found : Option Inspection × Bool}
    (hk : Knows name reference (· = none) image w) (hname : s.name = some name)
    (himage : s.image = some reference)
    (h : (ensureContainer c s name).runIn w = (.ok found, w')) : ∃ r, Create.request s = .ok r ∧
      Knows name reference (MadeFrom r image "created") image w' ∧
        found.1.any (·.isRunning) = false := by
  obtain ⟨w₁, hk₁, hmake⟩ := runIn_ensureContainer (c := c) (s := s) hk
  rw [hmake] at h
  obtain ⟨_, w₃, hcreate, h⟩ := runIn_bind_eq_ok.1 h
  obtain ⟨_, hcreate⟩ := exists_of_runIn_discard hcreate
  obtain ⟨r, hrequest, hk₃⟩ := Worker.knows_of_createContainer hk₁ hname himage hcreate
  obtain ⟨_, w₄, hrecord, h⟩ := runIn_bind_eq_ok.1 h
  injection hrecord with _ hw₄
  subst hw₄
  obtain ⟨w₅, hlook, -, hk₅⟩ := Worker.runIn_inspect hk₃ (stable_madeFrom r image "created") name
  rw [runIn_bind_ok hlook] at h
  injection h with hfound hw'
  injection hfound with hfound
  subst hfound hw'
  obtain ⟨document, hdocument, -, hstatus⟩ := hk₅.container
  refine ⟨r, hrequest, hk₅, ?_⟩
  rw [hdocument]
  show Inspection.isRunning ⟨document⟩ = false
  rw [Inspection.isRunning, hstatus]
  decide

theorem knows_of_ensureImageNoted {pulled : Bool} (hk : Knows name reference known image w)
    (himage : s.image = some reference) (h : (ensureImageNoted s).runIn w = (.ok pulled, w')) :
    Knows name reference known (w.localImage? s) w' := by
  obtain ⟨pulled', w₁, hensure, h⟩ := runIn_bind_eq_ok.1 h
  have hk₁ := Worker.knows_of_ensureImage hk himage hensure
  cases pulled' with
  | false =>
    injection h with _ h
    rwa [← h]
  | true =>
    injection h with _ h
    rwa [← h]

variable {r : ContainerRequest} {made : Option Image}

theorem knows_of_startExisting {status : String} {report report' : StartReport}
    (hk : Knows name reference (MadeFrom r made status) image w)
    (h : (startExisting config s name report).runIn w = (.ok report', w')) :
    Knows name reference (MadeFrom r made "running") image w' := by
  obtain ⟨hok, hk₁⟩ := hk.start
  obtain ⟨answer, w₁, hstart, h⟩ := runIn_bind_eq_ok.1 h
  rw [Worker.start, runIn_bind, runIn_engine] at hstart
  dsimp only at hstart
  rw [hok] at hstart
  injection hstart with hanswer hw₁
  injection hanswer with hanswer
  subst hanswer hw₁
  injection h with _ h
  rw [← h]
  exact hk₁

theorem knows_of_waitUntilHealthy {report : StartReport} {result : Except Error StartReport}
    (hk : Knows name reference (MadeFrom r made "running") image w)
    (h : (waitUntilHealthy config s name report).runIn w = (result, w')) :
    Knows name reference (MadeFrom r made "running") image w' := by
  have hasks : (waitUntilHealthy config s name report).AsksKinds [.look, .start] := asks_waitUntilHealthy
  have hafter := Asks.runIn hasks (I := Knows name reference (MadeFrom r made "running") image)
    (fun w c hc hk => ?_) (fun _ ms hk => hk.pause ms) hk
  · rwa [h] at hafter
  · rcases List.mem_cons.1 hc with hc | hc
    · exact hk.look (stable_madeFrom r made "running") hc
    · exact hk.start_any (List.mem_singleton.1 hc)

theorem startRequested_of_wait (hwait : s.wait = true) : startRequested s = true := by
  rw [startRequested, hwait, Bool.or_true, Bool.not_true, Bool.and_false, Bool.not_false]
  rfl

theorem knows_of_finish {status : String} {o o' : Outcome}
    (hk : Knows name reference (MadeFrom r made status) image w)
    (hstatus : s.wait = true → status = "running")
    (h : (do
        let o ← if s.wait then do
            pure { o with start := ← waitUntilHealthy config s name o.start }
          else pure o
        return o : Procedure Outcome).runIn w = (.ok o', w')) :
    Knows name reference (MadeFrom r made status) image w' := by
  dsimp only at h
  split at h
  · next hwait =>
    have hrunning := hstatus hwait
    subst hrunning
    obtain ⟨_, w₁, hw, h⟩ := runIn_bind_eq_ok.1 h
    injection h with _ h
    rw [← h]
    exact knows_of_waitUntilHealthy hk hw
  · injection h with _ h
    rwa [← h]

theorem image_of_startContainer {o o' : Outcome} (hk : Knows name reference (· = none) image w)
    (hname : s.name = some name) (h : (startContainer c config s o).runIn w = (.ok o', w')) :
    ∃ declared, s.image = some declared := by
  have hrequired : s.requireName .startContainer = .ok name := Spec.requireName_eq_ok.2 hname
  rw [startContainer, hrequired, runIn_bind_ok (runIn_ofExcept _ _)] at h
  cases himage : s.image with
  | some declared => exact ⟨declared, rfl⟩
  | none =>
    obtain ⟨pulled, w₁, hensure, h⟩ := runIn_bind_eq_ok.1 h
    have hskip : (ensureImageNoted s).runIn w = (.ok false, w) := by
      rw [ensureImageNoted, Worker.ensureImage, himage]
      rfl
    rw [hskip] at hensure
    injection hensure with _ hensure
    subst hensure
    obtain ⟨found, w₂, hmake, -⟩ := runIn_bind_eq_ok.1 h
    obtain ⟨w₃, -, hcreate⟩ := runIn_ensureContainer (c := c) (s := s) hk
    rw [hcreate] at hmake
    obtain ⟨_, w₄, hcreate, -⟩ := runIn_bind_eq_ok.1 hmake
    obtain ⟨_, hcreate⟩ := exists_of_runIn_discard hcreate
    obtain ⟨r, hrequest⟩ := Worker.request_of_createContainer hcreate
    have hdeclared := (Create.request_requested hrequest).image
    rw [himage] at hdeclared
    cases hdeclared

/-- Where there is no container, bringing it up leaves one that was made from the request. -/
theorem knows_of_startContainer {o o' : Outcome} (hk : Knows name reference (· = none) image w)
    (hname : s.name = some name) (himage : s.image = some reference) (hdetach : s.detach = true)
    (h : (startContainer c config s o).runIn w = (.ok o', w')) : ∃ r, Create.request s = .ok r ∧
      Knows name reference (MadeFrom r (w.localImage? s) s.statusAfter) (w.localImage? s) w' := by
  have hrequired : s.requireName .startContainer = .ok name := Spec.requireName_eq_ok.2 hname
  rw [startContainer, hrequired, runIn_bind_ok (runIn_ofExcept _ _)] at h
  obtain ⟨pulled, w₁, hensure, h⟩ := runIn_bind_eq_ok.1 h
  have hk₁ := knows_of_ensureImageNoted hk himage hensure
  obtain ⟨found, w₂, hmake, h⟩ := runIn_bind_eq_ok.1 h
  obtain ⟨r, hrequest, hk₂, hstopped⟩ := knows_of_ensureContainer hk₁ hname himage hmake
  refine ⟨r, hrequest, ?_⟩
  dsimp only at h
  simp only [hdetach, if_true, hstopped, Bool.not_false, Bool.and_true] at h
  split at h
  · next hrequested =>
    obtain ⟨report, w₃, hstarted, h⟩ := runIn_bind_eq_ok.1 h
    obtain ⟨o₁, w₄, hpure, h⟩ := runIn_bind_eq_ok.1 h
    injection hpure with _ hw₄
    subst hw₄
    rw [Spec.statusAfter, if_pos hrequested]
    exact knows_of_finish (knows_of_startExisting hk₂ hstarted) (fun _ => rfl) h
  · next hrequested =>
    obtain ⟨o₁, w₃, hpure, h⟩ := runIn_bind_eq_ok.1 h
    injection hpure with _ hw₃
    subst hw₃
    rw [Spec.statusAfter, if_neg hrequested]
    exact knows_of_finish hk₂ (fun hwait => absurd (startRequested_of_wait hwait) hrequested) h

end Reconcile

end Shipshape
