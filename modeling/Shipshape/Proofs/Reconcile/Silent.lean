import Shipshape.Proofs.Reconcile.Unchanged

/-!
# What is changed in silence

`unchanged_outcome_iff`: that nothing changed is true wherever an invocation says so, in every state of an engine
in memory, exactly if it is none of those that change something in silence.

Proof outline. All other invocations own up. For the exceptions there are states in which they change something:
for a container that is found as declared, one in which it runs; its run is collected, removed and not reported
(`collected_in_silence`). For an image that is stored elsewhere, one in which it is there under the declared
reference already (`fetched_in_silence`).
-/

namespace Shipshape

open Procedure World

variable {s : Spec} {name reference : String}

/-! ### A run that is removed in silence -/

/-- Looks find a container as it is described, and change nothing. -/
structure MemoryEngine.Shows (m : MemoryEngine) (name : String) (document : Json) : Prop where
  container : m.containers.get? name = some document
  polls : m.pollsUntilHealthy = 0
  calm : MemoryEngine.isSettling document = false

theorem MemoryEngine.Shows.inspect {m : MemoryEngine} {document : Json} (h : m.Shows name document) :
    (m.inspectContainer name).2 = m := by
  have hpolls : m.pollsUntilHealthy - 1 = m.pollsUntilHealthy := by rw [h.polls]
  unfold MemoryEngine.inspectContainer
  dsimp only
  rw [hpolls, h.container]
  simp only [h.calm, Bool.and_false, Bool.false_eq_true, if_false]

section shown

variable {w : World} {document : Json} {c : Comparator} {config : Config} {o : Outcome}

theorem Worker.inspect_shown (h : w.faults = ∅) (hs : w.engine.Shows name document) : ∃ calls,
    (inspect name).runIn w = (.ok (some ⟨document⟩), { w with calls }) := by
  have hlook := Worker.inspect_eq h name
  rw [hs.inspect, hs.container] at hlook
  exact ⟨_, hlook⟩

namespace Reconcile

theorem ensureImageNoted_local {image : Image} (h : w.faults = ∅) (himage : s.image = some reference)
    (hlocal : w.engine.images.get? reference = some image) : ∃ calls,
    (ensureImageNoted s).runIn w = (.ok false, { w with calls }) := by
  have hcheck := Worker.checkImage_eq h himage
  have hensure : (Worker.ensureImage s).runIn w =
      (do if (← Worker.checkImage s).isSome then return false else Worker.pullImage s : Procedure Bool).runIn w := by
    unfold Worker.ensureImage
    rw [himage]
    rfl
  rw [hlocal] at hcheck
  rw [runIn_bind_ok hcheck] at hensure
  exact ⟨_, runIn_bind_ok hensure _⟩

theorem ensureContainer_shown {image : Image} {d : Drift × List Note} (h : w.faults = ∅)
    (hs : w.engine.Shows name document) (himage : s.image = some reference)
    (hlocal : w.engine.images.get? reference = some image) (hcompare : c.compare s ⟨document⟩ (some image) = .ok d)
    (hkeys : ∀ a ∈ d.1.keys, a = .state) : ∃ calls,
    (ensureContainer c s name).runIn w = (.ok (some ⟨document⟩, false), { w with calls }) := by
  obtain ⟨calls, hlook⟩ := Worker.inspect_shown h hs
  have hfaults : World.faults { w with calls } = ∅ := h
  have hdrift := compareWith_eq c ⟨document⟩ hfaults himage
  dsimp only at hdrift
  rw [hlocal, hcompare] at hdrift
  have hsame : d.1.keys.any (· != .state) = false := by
    rw [List.any_eq_false]
    intro a ha
    rw [hkeys a ha]
    decide
  unfold ensureContainer
  rw [runIn_bind_ok hlook]
  dsimp only
  have hkept : (replaceIfDrifted c s name ⟨document⟩).runIn { w with calls } =
      (.ok true, { w with calls := .engine (.inspectImage reference) :: calls }) := by
    unfold replaceIfDrifted
    rw [runIn_bind_ok hdrift, hsame]
    rfl
  rw [runIn_bind_ok hkept]
  exact ⟨_, rfl⟩

theorem waitUntilHealthy_shown (config : Config) (s : Spec) (report : StartReport) (h : w.faults = ∅)
    (hs : w.engine.Shows name document) (hready : Inspection.isReady ⟨document⟩ = true) : ∃ calls,
    (waitUntilHealthy config s name report).runIn w = (.ok report, { w with calls }) := by
  obtain ⟨calls, hlook⟩ := Worker.inspect_shown h hs
  have hpoll : (poll config s name report).runIn w = (.ok (true, report), { w with calls }) := by
    unfold poll
    rw [runIn_bind_ok hlook]
    dsimp only
    rw [hready]
    rfl
  have hloop : ∀ left, (pollUntil config s name report left).runIn w =
      (.ok (true, report), { w with calls }) := by
    intro left
    rw [pollUntil]
    exact runIn_bind_ok hpoll _
  exact ⟨calls, runIn_bind_ok (hloop _) _⟩

end Reconcile

/-! ### The end of a run -/

theorem MemoryEngine.Shows.exited {m : MemoryEngine} {document : Json} (h : m.Shows name document) :
    (m.modify name (MemoryEngine.setStatus "exited")).2.Shows name (MemoryEngine.setStatus "exited" document) := by
  refine ⟨?_, ?_, ?_⟩
  · rw [MemoryEngine.get?_modify, if_pos rfl, h.container]
    rfl
  · rw [MemoryEngine.modify_snd]
    exact h.polls
  · unfold MemoryEngine.isSettling
    rw [MemoryEngine.health_setStatus]
    exact h.calm

theorem Procedure.engineOrFail_eq {call : EngineCall} {reply : call.Reply} {m : MemoryEngine} (h : w.faults = ∅)
    (hreply : w.engine.answer call = (.ok reply, m)) : (engineOrFail call).runIn w =
      (.ok reply, { w with calls := .engine call :: w.calls, engine := m }) := by
  unfold engineOrFail
  rw [runIn_bind, runIn_engine]
  dsimp only
  rw [answer_engine h, hreply]
  rfl

theorem Procedure.discard_eq {α : Type} {p : Procedure α} {a : α} {w' : World} (h : p.runIn w = (.ok a, w')) :
    (discard p).runIn w = (.ok (), w') := by
  refine (runIn_map (fun _ => ()) p w).trans ?_
  rw [h]
  rfl

namespace Worker

theorem stopContainer_shown (h : w.faults = ∅) (hs : w.engine.Shows name document) (hname : s.name = some name)
    (hstopped : Inspection.isRunning ⟨document⟩ = false) : ∃ calls,
    (stopContainer s).runIn w = (.ok false, { w with calls }) := by
  obtain ⟨calls, hlook⟩ := inspect_shown h hs
  have hrequired : s.requireName .stopContainer = .ok name := Spec.requireName_eq_ok.2 hname
  unfold stopContainer
  rw [hrequired, runIn_bind_ok (runIn_ofExcept _ _), runIn_bind_ok hlook]
  dsimp only
  rw [hstopped]
  exact ⟨calls, rfl⟩

theorem removeContainer_shown (h : w.faults = ∅) (hs : w.engine.Shows name document) (hname : s.name = some name) :
    ∃ w', (removeContainer s).runIn w = (.ok true, w') ∧ w'.engine.containers.get? name = none := by
  have hrequired : s.requireName .removeContainer = .ok name := Spec.requireName_eq_ok.2 hname
  obtain ⟨calls, hlook⟩ : ∃ calls, (inspect name).runIn (w.answer (.unit .remove name)).2 =
      (.ok (some ⟨document⟩), { w with calls }) := inspect_shown h hs
  have hfaults : World.faults { w with calls } = ∅ := h
  have hthere : w.engine.containers.contains name = true := by
    unfold Dict.contains
    rw [hs.container]
    rfl
  have hreply : w.engine.answer (.removeContainer name true) =
      (.ok (), { w.engine with containers := w.engine.containers.erase name }) := by
    show w.engine.removeContainer name = _
    unfold MemoryEngine.removeContainer
    rw [if_pos hthere]
  unfold removeContainer
  rw [hrequired, runIn_bind_ok (runIn_ofExcept _ _), runIn_bind_ok (runIn_unit _ _ _), runIn_bind_ok hlook]
  simp only [Option.isNone_some, Bool.false_eq_true, if_false]
  rw [runIn_bind, runIn_engine]
  dsimp only
  rw [answer_engine hfaults, hreply]
  refine ⟨_, rfl, ?_⟩
  exact (Dict.get?_erase _ _ _).trans (if_pos rfl)

end Worker

namespace Reconcile

theorem waitExit_shown (name : String) (h : w.faults = ∅) (hexit : w.engine.exitCode = 0) : ∃ calls,
    (Worker.waitExit name).runIn w =
      (.ok 0, { w with calls, engine := (w.engine.modify name (MemoryEngine.setStatus "exited")).2 }) := by
  refine ⟨_, engineOrFail_eq h ?_⟩
  show w.engine.waitContainer name = _
  unfold MemoryEngine.waitContainer
  rw [hexit]

theorem logs_shown (name : String) (h : w.faults = ∅) (stream : LogStream) : ∃ lines calls,
    (Worker.logs name stream none).runIn w = (.ok lines, { w with calls }) :=
  ⟨_, _, engineOrFail_eq h rfl⟩

theorem collectRun_shown (h : w.faults = ∅) (hs : w.engine.Shows name document) (hname : s.name = some name)
    (hremove : s.removeOnExit = true) (hexit : w.engine.exitCode = 0) : ∃ o' w',
    (collectRun s name o).runIn w = (.ok o', w') ∧ o'.changed = o.changed ∧
      w'.engine.containers.get? name = none := by
  have hstopped : Inspection.isRunning ⟨MemoryEngine.setStatus "exited" document⟩ = false := by
    unfold Inspection.isRunning
    rw [MemoryEngine.status_setStatus]
    decide
  let ended (calls : List Call) : World :=
    { w with calls, engine := (w.engine.modify name (MemoryEngine.setStatus "exited")).2 }
  have hfaults : ∀ calls, (ended calls).faults = ∅ := fun _ => h
  obtain ⟨calls, hwait⟩ := waitExit_shown name h hexit
  obtain ⟨out, calls₁, hout⟩ := logs_shown name (hfaults calls) .stdout
  obtain ⟨err, calls₂, herr⟩ := logs_shown name (hfaults calls₁) .stderr
  obtain ⟨calls₃, hstop⟩ := Worker.stopContainer_shown (hfaults calls₂) hs.exited hname hstopped
  obtain ⟨w', hgone, hnone⟩ := Worker.removeContainer_shown (hfaults calls₃) hs.exited hname
  unfold collectRun
  rw [runIn_bind_ok hwait, runIn_bind_ok hout, runIn_bind_ok herr]
  dsimp only
  rw [if_pos hremove, runIn_bind_ok (discard_eq hstop), runIn_bind_ok (discard_eq hgone)]
  exact ⟨_, w', rfl, rfl, hnone⟩

theorem bringUp_shown (config : Config) (o : Outcome) (h : w.faults = ∅) (hs : w.engine.Shows name document)
    (hname : s.name = some name) (hready : Inspection.isReady ⟨document⟩ = true) (hdetach : s.detach = false)
    (hremove : s.removeOnExit = true) (hexit : w.engine.exitCode = 0) : ∃ o' w',
    (bringUp config s name (some ⟨document⟩) o).runIn w = (.ok o', w') ∧ o'.changed = o.changed ∧
      w'.engine.containers.get? name = none := by
  have hrunning : Inspection.isRunning ⟨document⟩ = true := by
    unfold Inspection.isReady at hready
    exact (Bool.and_eq_true_iff.1 hready).1
  unfold bringUp
  rw [Option.any_some, hrunning, hdetach]
  simp only [Bool.not_true, Bool.and_false, Bool.false_eq_true, if_false]
  rw [runIn_bind_ok (runIn_pure o w)]
  by_cases hwait : s.wait = true
  · obtain ⟨calls, hlook⟩ := waitUntilHealthy_shown config s o.start h hs hready
    have hfaults : World.faults { w with calls } = ∅ := h
    simp only [hwait, if_true]
    rw [runIn_bind_ok hlook]
    exact collectRun_shown hfaults hs hname hremove hexit
  · rw [if_neg hwait]
    exact collectRun_shown h hs hname hremove hexit

end Reconcile

end shown

theorem Comparator.Matchable.running {c : Comparator} (h : c.Matchable s) : ∃ document image d,
    c.compare s ⟨document⟩ (some image) = .ok d ∧ (∀ a ∈ d.1.keys, a = .state) ∧
      Inspection.isReady ⟨document⟩ = true ∧ MemoryEngine.isSettling document = false := by
  obtain ⟨live, image, d, hcompare, hkeys⟩ := h
  obtain ⟨hvalid, hrules⟩ := exists_compare_iff.1 ⟨d, hcompare⟩
  let document := live.document.setField "State" (.ofFields [("Status", .str "running")])
  have hagree : Inspection.AgreeOutsideState ⟨document⟩ live := Inspection.agreeOutsideState_setField _ _
  have hstate : Inspection.state ⟨document⟩ = .ofList [("Status", .str "running")] := by
    have hget : document.getD "State" = .ofFields [("Status", .str "running")] := by
      rw [Json.getD, Json.get?, Json.fields_setField, Dict.get?_insert_self, Option.getD_some]
    unfold Inspection.state Inspection.sectionOf
    rw [hget]
    exact Json.fields_ofDict _
  obtain ⟨d', hcompare'⟩ : ∃ d', c.compare s ⟨document⟩ (some image) = .ok d' := by
    refine exists_compare_iff.2 ⟨hvalid, fun a => ?_⟩
    by_cases ha : a = .state
    · rw [ha]
      exact ⟨_, rfl⟩
    · rw [differs_congr hagree ha]
      exact hrules a
  refine ⟨document, image, d', hcompare', fun a ha => ?_, ?_, ?_⟩
  · by_contra hne
    rw [mem_keys_of_compare hcompare', differs_congr hagree hne, ← mem_keys_of_compare hcompare] at ha
    exact hne (hkeys a ha)
  · unfold Inspection.isReady Inspection.isRunning Inspection.status? Inspection.health?
    rw [hstate]
    rfl
  · unfold MemoryEngine.isSettling Inspection.health?
    rw [hstate]
    rfl

namespace Reconciler

variable {r : Reconciler}

/-- An invocation changes something in some state of the engine, and says that nothing changed. -/
def MisleadsIn (r : Reconciler) (a : Action) (s : Spec) (m : MemoryEngine) : Prop :=
  ∃ o w', (r.run a s).runIn { engine := m } = (.ok o, w') ∧ o.changed = false ∧ ¬ m.SameThings w'.engine

theorem misleadsIn_of_perform {a : Action} {m : MemoryEngine} {o : Outcome} {w' : World}
    (hv : s.validateFor a = .ok ()) (h : (r.perform a s).runIn { engine := m } = (.ok o, w'))
    (ho : o.changed = false) (hdiffers : ¬ m.SameThings w'.engine) : r.MisleadsIn a s m := by
  obtain ⟨debug, hrun⟩ := runIn_run (w := { engine := m }) (r := r) hv
  rw [h] at hrun
  exact ⟨_, w', hrun, ho, hdiffers⟩

theorem collected_in_silence (hname : s.name = some name) (himage : s.image = some reference)
    (hdetach : s.detach = false) (hremove : s.removeOnExit = true) (hmatch : r.comparator.Matchable s) :
    ∃ m, r.MisleadsIn .startContainer s m := by
  obtain ⟨document, image, d, hcompare, hkeys, hready, hcalm⟩ := hmatch.running
  let m : MemoryEngine :=
    { containers := Dict.insert name document ∅, images := Dict.insert reference image ∅ }
  have hs : m.Shows name document := ⟨Dict.get?_insert_self _ _ _, rfl, hcalm⟩
  have hlocal : m.images.get? reference = some image := Dict.get?_insert_self _ _ _
  have hvalid : s.validate = .ok () := (Comparator.exists_compare_iff.1 ⟨d, hcompare⟩).1
  have hv : s.validateFor .startContainer = .ok () :=
    Spec.validateFor_eq_ok (fun _ => ⟨reference, himage⟩) fun _ => ⟨name, hname⟩
  obtain ⟨calls, hensure⟩ := Reconcile.ensureImageNoted_local (w := { engine := m }) rfl himage hlocal
  obtain ⟨calls', hfound⟩ := Reconcile.ensureContainer_shown (w := { engine := m, calls }) rfl hs himage hlocal
    hcompare hkeys
  obtain ⟨o, w', hrun, ho, hgone⟩ := Reconcile.bringUp_shown (w := { engine := m, calls := calls' })
    r.config {} rfl hs hname hready hdetach hremove rfl
  have hperform : (r.perform .startContainer s).runIn { engine := m } = (.ok o, w') := by
    show (Procedure.ofExcept s.validate >>= fun _ => Reconcile.startContainer r.comparator r.config s {}).runIn _ = _
    rw [hvalid, runIn_bind_ok (runIn_ofExcept _ _), Reconcile.startContainer_eq,
      Spec.requireName_eq_ok.2 hname, runIn_bind_ok (runIn_ofExcept _ _), runIn_bind_ok hensure, runIn_bind_ok hfound]
    exact hrun
  refine ⟨m, misleadsIn_of_perform hv hperform ho fun hsame => ?_⟩
  have hrel := hsame.containers name
  rw [hs.container, hgone] at hrel
  cases hrel

theorem fetched_in_silence (himage : s.image = some reference)
    (hother : (Create.pullRequest s reference).reference ≠ reference) : ∃ m, r.MisleadsIn .pullImage s m := by
  let i : Image := { id := "1" }
  let m : MemoryEngine :=
    { images := Dict.insert reference i ∅
      registry := Dict.insert (Create.pullRequest s reference).reference i ∅ }
  have hlocal : m.images.get? reference = some i := Dict.get?_insert_self _ _ _
  have hregistry : m.registry.get? (Create.pullRequest s reference).reference = some i :=
    Dict.get?_insert_self _ _ _
  have hv : s.validateFor .pullImage = .ok () := Spec.validateFor_eq_ok (fun _ => ⟨reference, himage⟩) nofun
  obtain ⟨calls, hpull⟩ := Worker.pullImage_eq (w := { engine := m }) rfl himage
  simp only [hregistry, hlocal, bne_self_eq_false] at hpull
  have hperform : (r.perform .pullImage s).runIn { engine := m } =
      (.ok { changed := false }, { engine := (m.pullImage (Create.pullRequest s reference)).2, calls }) :=
    runIn_bind_ok hpull _
  refine ⟨m, misleadsIn_of_perform hv hperform rfl fun hsame => ?_⟩
  have himages := hsame.images (Create.pullRequest s reference).reference
  unfold MemoryEngine.pullImage at himages
  rw [hregistry] at himages
  dsimp only at himages
  rw [Dict.get?_insert_self, Dict.get?_insert_of_ne _ _ hother] at himages
  cases himages

/-- That nothing changed is true wherever it is said, exactly if the invocation changes nothing in silence. -/
theorem unchanged_outcome_iff (r : Reconciler) (a : Action) (s : Spec) :
    (∀ (m : MemoryEngine) (supervisor : Dict Bool) (host : HostTree) (o : Outcome) (w' : World),
      (r.run a s).runIn { engine := m, supervisor, host } = (.ok o, w') → o.changed = false →
        m.SameThings w'.engine) ↔ ¬ r.ChangesSilently s a := by
  constructor
  · intro hhonest hsilent
    have hmisleads : ∃ m, r.MisleadsIn a s m := by
      rcases hsilent with ⟨name, reference, hname, himage, hdetach, hremove, hmatch⟩ | ⟨reference, himage, hother⟩
      · exact collected_in_silence hname himage hdetach hremove hmatch
      · exact fetched_in_silence himage hother
    obtain ⟨m, o, w', hrun, ho, hdiffers⟩ := hmisleads
    exact hdiffers (hhonest m ∅ .standard o w' hrun ho)
  · intro hloud m supervisor host o w' hrun ho
    obtain ⟨hv, o₁, debug, hperform, rfl⟩ := perform_of_runIn_run hrun
    exact ownsUp_perform hv hloud _ o₁ w' rfl hperform ho

/-! ### A job of which nothing is left -/

/-- A job whose container is removed when it ends. -/
def jobSpec : Spec := { name := some "web", image := some "nginx", detach := false, removeOnExit := true }

/-- How bringing a container up goes. -/
def bringUpIn (s : Spec) (m : MemoryEngine) : Except Error Outcome × World :=
  ((ofSpec s {} .path).run .startContainer s).runIn { engine := m }

/-- An engine in which the container of the job runs already, because it was brought up to stay. -/
def jobEngine : MemoryEngine :=
  (bringUpIn { jobSpec with detach := true } { images := .ofList [("nginx", { id := "1" })] }).2.engine

/-- The container of the job is gone, and nothing is said to have changed. -/
theorem job_removed_in_silence : ¬ ∀ (r : Reconciler) (a : Action) (s : Spec) (m : MemoryEngine)
    (supervisor : Dict Bool) (host : HostTree) (o : Outcome) (w' : World),
      (r.run a s).runIn { engine := m, supervisor, host } = (.ok o, w') → o.changed = false →
        m.SameThings w'.engine := by
  intro hclaim
  have hunchanged : (bringUpIn jobSpec jobEngine).1.toOption.map (·.changed) = some false := by decide +kernel
  have hbefore : (jobEngine.containers.get? "web").isSome = true := by decide +kernel
  have hafter : ((bringUpIn jobSpec jobEngine).2.engine.containers.get? "web").isNone = true := by decide +kernel
  rcases hrun : bringUpIn jobSpec jobEngine with ⟨result, w'⟩
  rw [hrun] at hunchanged hafter
  rcases result with e | o
  · cases hunchanged
  · injection hunchanged with hunchanged
    have hsame := (hclaim _ _ jobSpec jobEngine ∅ .standard o w' hrun hunchanged).containers "web"
    obtain ⟨document, hfound⟩ := Option.isSome_iff_exists.1 hbefore
    rw [hfound, Option.isNone_iff_eq_none.1 hafter] at hsame
    cases hsame

end Reconciler

end Shipshape
