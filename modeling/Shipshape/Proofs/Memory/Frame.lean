import Shipshape.Proofs.Memory.Calm

/-!
# What a run leaves alone

`World.TouchesOnly T w w'`: on the way from one world to the other, containers out of scope stay as they were,
volumes neither disappear nor change nor appear but for those named in `T`, and of the local images only those
change that are removed by name or fetched, and only images in scope are fetched.

Proof outline. A call about what is in scope touches no more than that (`Call.stays_of_within`), and so does what is
put together from such calls (`Procedure.stays_bind`). Creating a volume is the exception among the calls, since
it would replace one that exists; whoever creates one looks for it first (`Worker.stays_createVolume`). That a
look finds a volume that exists takes an engine that hides none (`World.SeesVolumes`).
-/

namespace Shipshape

/-- What may be touched. -/
structure Targets extends Scope where
  /-- The volumes that may be made. -/
  madeVolume : String → Prop
  removedVolume : String → Prop
  removedImage : String → Prop

namespace MemoryEngine

/-- Behind these calls nothing else was touched. -/
structure TouchesOnly (T : Targets) (calls : List Call) (m m' : MemoryEngine) : Prop where
  containers : ∀ name, ¬ T.container name → m'.containers.get? name = m.containers.get? name
  keptVolumes : ∀ name v, m.volumes.get? name = some v → ¬ T.removedVolume name → m'.volumes.get? name = some v
  madeVolumes : ∀ name, m.volumes.get? name = none → ¬ T.madeVolume name → m'.volumes.get? name = none
  images : ∀ reference, ¬ T.removedImage reference →
    (∀ q, Call.engine (.pullImage q) ∈ calls → q.reference ≠ reference) →
      m'.images.get? reference = m.images.get? reference

variable {T : Targets} {calls calls' : List Call} {m m' m'' : MemoryEngine}

theorem TouchesOnly.refl (m : MemoryEngine) : TouchesOnly T calls m m :=
  ⟨fun _ _ => rfl, fun _ _ h _ => h, fun _ h _ => h, fun _ _ _ => rfl⟩

theorem TouchesOnly.trans (h : m.TouchesOnly T calls m') (h' : m'.TouchesOnly T calls' m'') :
    m.TouchesOnly T (calls' ++ calls) m'' := by
  refine ⟨fun name hname => ?_, fun name v hv hname => ?_, fun name hnone hname => ?_,
    fun reference hremoved hpulls => ?_⟩
  · exact (h'.containers name hname).trans (h.containers name hname)
  · exact h'.keptVolumes name v (h.keptVolumes name v hv hname) hname
  · exact h'.madeVolumes name (h.madeVolumes name hnone hname) hname
  · rw [h'.images reference hremoved fun q hq => hpulls q (List.mem_append_left _ hq)]
    exact h.images reference hremoved fun q hq => hpulls q (List.mem_append_right _ hq)

theorem touchesOnly_of_container {name : String} (hname : T.container name)
    (hcontainers : ∀ n, n ≠ name → m'.containers.get? n = m.containers.get? n)
    (hvolumes : m'.volumes = m.volumes) (himages : m'.images = m.images) : m.TouchesOnly T calls m' := by
  refine ⟨fun n hn => hcontainers n ?_, fun _ _ h _ => hvolumes ▸ h, fun _ h _ => hvolumes ▸ h,
    fun _ _ _ => by rw [himages]⟩
  rintro rfl
  exact hn hname

theorem touchesOnly_modify {name : String} (hname : T.container name) (m : MemoryEngine) (f : Json → Json) :
    m.TouchesOnly T calls (m.modify name f).2 := by
  refine touchesOnly_of_container hname (fun n hn => ?_) (by rw [modify_snd]) (by rw [modify_snd])
  rw [get?_modify, if_neg hn]

theorem touchesOnly_startContainer {name : String} (hname : T.container name) (m : MemoryEngine) :
    m.TouchesOnly T calls (m.startContainer name).2 := by
  unfold startContainer
  split
  · exact touchesOnly_of_container hname (fun _ _ => rfl) rfl rfl
  · split
    · exact touchesOnly_of_container hname (fun _ _ => rfl) rfl rfl
    · exact touchesOnly_modify hname m m.started

theorem touchesOnly_inspectContainer {name : String} (hname : T.container name) (m : MemoryEngine) :
    m.TouchesOnly T calls (m.inspectContainer name).2 := by
  have hlooked := looked_inspectContainer m name
  refine touchesOnly_of_container hname (fun n hn => ?_) hlooked.volumes hlooked.images
  rw [inspectContainer]
  dsimp only
  split
  · rfl
  · split
    · exact Dict.get?_insert_of_ne _ _ hn
    · rfl

theorem touchesOnly_createContainer {r : ContainerRequest} (hname : T.container r.name) (m : MemoryEngine) :
    m.TouchesOnly T calls (m.createContainer r).2 := by
  unfold createContainer
  split
  · exact .refl m
  · exact touchesOnly_of_container hname (fun n hn => Dict.get?_insert_of_ne _ _ hn) rfl rfl

theorem touchesOnly_removeContainer {name : String} (hname : T.container name) (m : MemoryEngine) :
    m.TouchesOnly T calls (m.removeContainer name).2 := by
  unfold removeContainer
  split
  · refine touchesOnly_of_container hname (fun n hn => ?_) rfl rfl
    rw [Dict.get?_erase, if_neg hn]
  · exact .refl m

theorem touchesOnly_pullImage (q : PullRequest) (m : MemoryEngine) :
    m.TouchesOnly T [.engine (.pullImage q)] (m.pullImage q).2 := by
  unfold pullImage
  split
  · exact .refl m
  · refine ⟨fun _ _ => rfl, fun _ _ h _ => h, fun _ h _ => h, fun reference _ hpulls => ?_⟩
    exact Dict.get?_insert_of_ne _ _ (hpulls q (List.mem_singleton.2 rfl)).symm

theorem touchesOnly_exec (m : MemoryEngine) : m.TouchesOnly T calls m.exec.2 := by
  unfold exec
  split
  · exact .refl m
  · exact ⟨fun _ _ => rfl, fun _ _ h _ => h, fun _ h _ => h, fun _ _ _ => rfl⟩

theorem touchesOnly_removeVolume {name : String} (hname : T.removedVolume name) (m : MemoryEngine) :
    m.TouchesOnly T calls (m.removeVolume name).2 := by
  unfold removeVolume
  split
  · exact .refl m
  · refine ⟨fun _ _ => rfl, fun n v hv hn => ?_, fun n hnone _ => ?_, fun _ _ _ => rfl⟩
    · have hne : n ≠ name := by
        rintro rfl
        exact hn hname
      rwa [Dict.get?_erase, if_neg hne]
    · rw [Dict.get?_erase]
      split
      · rfl
      · exact hnone

theorem touchesOnly_removeImage {reference : String} (hremoved : T.removedImage reference) (m : MemoryEngine) :
    m.TouchesOnly T calls (m.removeImage reference).2 := by
  unfold removeImage
  split
  · exact .refl m
  · refine ⟨fun _ _ => rfl, fun _ _ h _ => h, fun _ h _ => h, fun other hother _ => ?_⟩
    have hne : other ≠ reference := by
      rintro rfl
      exact hother hremoved
    rw [Dict.get?_erase, if_neg hne]

theorem touchesOnly_createVolume {r : VolumeRequest} (hname : T.madeVolume r.name) (m : MemoryEngine)
    (hnone : m.volumes.get? r.name = none) : m.TouchesOnly T calls (m.createVolume r).2 := by
  refine ⟨fun _ _ => rfl, fun n v hv _ => ?_, fun n hn hmade => ?_, fun _ _ _ => rfl⟩
  · have hne : n ≠ r.name := by
      rintro rfl
      rw [hnone] at hv
      cases hv
    exact (Dict.get?_insert_of_ne _ _ hne).trans hv
  · have hne : n ≠ r.name := by
      rintro rfl
      exact hmade hname
    exact (Dict.get?_insert_of_ne _ _ hne).trans hn

end MemoryEngine

/-! ### Worlds -/

namespace World

def Scripted (w : World) (name : String) (f : Fault) : Prop :=
  ∃ queue, w.faults.get? name = some queue ∧ some f ∈ queue

/-- No volume is said not to exist by order. -/
def SeesVolumes (w : World) : Prop := ∀ f, w.Scripted "inspect_volume" f → f.isNotFound = false

/-- On the way from one world to another nothing else was touched, and no image fetched but those in scope. -/
def TouchesOnly (T : Targets) (w w' : World) : Prop :=
  ∃ calls, w'.calls = calls ++ w.calls ∧ (∀ q, Call.engine (.pullImage q) ∈ calls → T.image q) ∧
    w.engine.TouchesOnly T calls w'.engine

variable {T : Targets} {w w' w'' : World}

theorem TouchesOnly.refl (w : World) : w.TouchesOnly T w := ⟨[], rfl, nofun, .refl _⟩

theorem TouchesOnly.trans (h : w.TouchesOnly T w') (h' : w'.TouchesOnly T w'') : w.TouchesOnly T w'' := by
  obtain ⟨calls, hcalls, hpulls, hengine⟩ := h
  obtain ⟨calls', hcalls', hpulls', hengine'⟩ := h'
  refine ⟨calls' ++ calls, by rw [hcalls', hcalls, List.append_assoc], fun q hq => ?_, hengine.trans hengine'⟩
  exact (List.mem_append.1 hq).elim (hpulls' q) (hpulls q)

theorem nextFault_cases (w : World) (name : String) : ∃ faults : Dict (List (Option Fault)),
    (∀ name' f, World.Scripted { w with faults } name' f → w.Scripted name' f) ∧
      ((∃ f, w.Scripted name f ∧ w.nextFault name = (some f, { w with faults })) ∨
        w.nextFault name = (none, { w with faults })) := by
  unfold nextFault
  split
  · next fault rest hget =>
    refine ⟨w.faults.insert name rest, ?_, ?_⟩
    · rintro name' f ⟨queue, hqueue, hf⟩
      dsimp only at hqueue
      rw [Dict.get?_insert] at hqueue
      split at hqueue
      · next hname =>
        injection hqueue with hqueue
        subst hname hqueue
        exact ⟨_, hget, List.mem_cons_of_mem _ hf⟩
      · exact ⟨queue, hqueue, hf⟩
    · cases fault with
      | some f => exact .inl ⟨f, ⟨_, hget, List.mem_cons_self⟩, rfl⟩
      | none => exact .inr rfl
  · exact ⟨w.faults, fun _ _ h => h, .inr rfl⟩

theorem answer_engine_cases (w : World) (c : EngineCall) : ∃ faults : Dict (List (Option Fault)),
    (∀ name f, World.Scripted { w with faults } name f → w.Scripted name f) ∧
      ((∃ f, w.Scripted c.name f ∧
          w.answer (.engine c) = (.error f, { w with calls := .engine c :: w.calls, faults })) ∨
        w.answer (.engine c) = ((w.engine.answer c).1,
          { w with calls := .engine c :: w.calls, faults, engine := (w.engine.answer c).2 })) := by
  obtain ⟨faults, hscripted, hnext⟩ := nextFault_cases { w with calls := .engine c :: w.calls } c.name
  have hanswer : w.answer (.engine c) = answerEngine { w with calls := .engine c :: w.calls } c := rfl
  refine ⟨faults, hscripted, ?_⟩
  rw [hanswer, answerEngine]
  rcases hnext with ⟨f, hf, hnext⟩ | hnext
  · exact .inl ⟨f, hf, by rw [hnext]⟩
  · exact .inr (by rw [hnext])

theorem calls_answer (w : World) (c : Call) : (w.answer c).2.calls = c :: w.calls := by
  cases c with
  | unit c n => rfl
  | hostPath path => rfl
  | engine c =>
    obtain ⟨faults, -, ⟨f, -, hanswer⟩ | hanswer⟩ := w.answer_engine_cases c
    · rw [hanswer]
    · rw [hanswer]

theorem seesVolumes_answer (h : w.SeesVolumes) (c : Call) : (w.answer c).2.SeesVolumes := by
  cases c with
  | unit c n => exact h
  | hostPath path => exact h
  | engine c =>
    obtain ⟨faults, hscripted, ⟨f, -, hanswer⟩ | hanswer⟩ := w.answer_engine_cases c
    · rw [hanswer]
      exact fun f hf => h f (hscripted _ f hf)
    · rw [hanswer]
      exact fun f hf => h f (hscripted _ f hf)

theorem touchesOnly_answer (w : World) {c : Call} (hpulls : ∀ q, c = .engine (.pullImage q) → T.image q)
    (h : w.engine.TouchesOnly T [c] (w.answer c).2.engine) : w.TouchesOnly T (w.answer c).2 :=
  ⟨[c], calls_answer w c, fun q hq => hpulls q (List.mem_singleton.1 hq).symm, h⟩

end World

/-! ### Calls and procedures -/

def Call.Stays (T : Targets) (c : Call) : Prop := ∀ w : World, w.TouchesOnly T (w.answer c).2

namespace Call

variable {T : Targets}

theorem stays_engine {c : EngineCall} (hpulls : ∀ q, c = .pullImage q → T.image q)
    (h : ∀ m : MemoryEngine, m.TouchesOnly T [.engine c] (m.answer c).2) : (Call.engine c).Stays T := by
  intro w
  refine World.touchesOnly_answer w ?_ ?_
  · rintro q ⟨⟩
    exact hpulls q rfl
  · obtain ⟨faults, -, ⟨f, -, hanswer⟩ | hanswer⟩ := w.answer_engine_cases c
    · rw [hanswer]
      exact .refl _
    · rw [hanswer]
      exact h w.engine

/-- The kinds of calls that touch nothing but what is in scope. -/
def scopedKinds : List CallKind := [.look, .probe, .fetch, .create, .start, .wait, .takeDown, .restart]

theorem stays_of_within {c : Call} (hc : c.Within T.toScope) (hk : c.kind ∈ scopedKinds) : c.Stays T := by
  cases c with
  | unit c n => exact fun w => World.touchesOnly_answer w nofun (.refl _)
  | hostPath path => exact absurd hk (of_decide_eq_false rfl)
  | engine c =>
    cases c with
    | inspectContainer n => exact stays_engine nofun (MemoryEngine.touchesOnly_inspectContainer hc)
    | createContainer r => exact stays_engine nofun (MemoryEngine.touchesOnly_createContainer hc)
    | startContainer n => exact stays_engine nofun (MemoryEngine.touchesOnly_startContainer hc)
    | stopContainer n seconds => exact stays_engine nofun fun m => MemoryEngine.touchesOnly_modify hc m _
    | restartContainer n seconds => exact stays_engine nofun fun m => MemoryEngine.touchesOnly_modify hc m _
    | removeContainer n force => exact stays_engine nofun (MemoryEngine.touchesOnly_removeContainer hc)
    | waitContainer n => exact stays_engine nofun fun m => MemoryEngine.touchesOnly_modify hc m _
    | logs n stream tail => exact stays_engine nofun .refl
    | exec n argv user => exact stays_engine nofun MemoryEngine.touchesOnly_exec
    | inspectImage reference => exact stays_engine nofun .refl
    | pullImage q =>
      refine stays_engine ?_ (MemoryEngine.touchesOnly_pullImage q)
      rintro q ⟨⟩
      exact hc
    | _ => exact absurd hk (of_decide_eq_false rfl)

theorem stays_inspectVolume (name : String) : (Call.engine (.inspectVolume name)).Stays T :=
  stays_engine nofun .refl

theorem stays_removeVolume {name : String} (hname : T.removedVolume name) :
    (Call.engine (.removeVolume name)).Stays T :=
  stays_engine nofun (MemoryEngine.touchesOnly_removeVolume hname)

theorem stays_removeImage {reference : String} (hremoved : T.removedImage reference) :
    (Call.engine (.removeImage reference)).Stays T :=
  stays_engine nofun (MemoryEngine.touchesOnly_removeImage hremoved)

theorem stays_hostPath (path : String) : (Call.hostPath path).Stays T :=
  fun w => World.touchesOnly_answer w nofun (.refl _)

end Call

namespace Procedure

open World

variable {α β : Type} {T : Targets} {p : Procedure α} {f : α → Procedure β}

/-- In a world that hides no volume, a procedure touches nothing else, whether it returns or fails. -/
def Stays (T : Targets) (p : Procedure α) : Prop :=
  ∀ w : World, w.SeesVolumes → w.TouchesOnly T (p.runIn w).2

theorem seesVolumes_runIn (p : Procedure α) {w : World} (h : w.SeesVolumes) : (p.runIn w).2.SeesVolumes := by
  have hany : p.Asks fun _ => True := Program.asks_anything p.run
  exact Asks.runIn hany (I := World.SeesVolumes) (fun v c _ hv => seesVolumes_answer hv c) (fun _ _ hv => hv) h

theorem stays_of_asks (hp : p.Asks fun c => c.Stays T) : p.Stays T := by
  intro w _
  refine Asks.runIn hp (I := fun v => w.TouchesOnly T v) (fun v c hc hv => hv.trans (hc v)) ?_ (.refl w)
  exact fun v ms hv => hv.trans ⟨[], rfl, nofun, .refl _⟩

theorem AsksWithin.stays {kinds : List CallKind} (hp : p.AsksWithin T.toScope kinds)
    (h : ∀ k ∈ kinds, k ∈ Call.scopedKinds) : p.Stays T :=
  stays_of_asks (Asks.mono hp fun c hc => Call.stays_of_within hc.2 (h c.kind hc.1))

theorem stays_bind (hp : p.Stays T) (hf : ∀ a, (f a).Stays T) : (p >>= f).Stays T := by
  intro w h
  have hfirst := hp w h
  have hsees := seesVolumes_runIn p h
  rw [runIn_bind]
  cases hrun : p.runIn w with
  | mk result w' =>
    rw [hrun] at hfirst hsees
    cases result with
    | ok a => exact hfirst.trans (hf a w' hsees)
    | error e => exact hfirst

theorem stays_pure (a : α) : (pure a : Procedure α).Stays T := fun w _ => .refl w

theorem stays_ofExcept_bind {r : Except Error α} (hf : ∀ a, r = .ok a → (f a).Stays T) :
    (ofExcept r >>= f).Stays T := by
  cases r with
  | ok a => exact hf a rfl
  | error e => exact fun w _ => .refl w

theorem stays_collectNotes (hp : p.Stays T) : p.collectNotes.Stays T := by
  intro w h
  obtain ⟨notes, hnotes⟩ := runIn_collectNotes p w
  rw [hnotes]
  exact hp w h

theorem stays_discard (hp : p.Stays T) : (discard p).Stays T := by
  intro w h
  have hmap : (discard p).runIn w = ((p.runIn w).1.map fun _ => (), (p.runIn w).2) := runIn_map _ p w
  rw [hmap]
  exact hp w h

end Procedure

theorem World.get?_of_inspectVolume {w : World} {name : String} {f : Fault} (h : w.SeesVolumes)
    (hanswer : (w.answer (.engine (.inspectVolume name))).1 = .error f) (hf : f.isNotFound = true) :
    (w.answer (.engine (.inspectVolume name))).2.engine.volumes.get? name = none := by
  obtain ⟨faults, -, ⟨f', hscripted, hcase⟩ | hcase⟩ := w.answer_engine_cases (.inspectVolume name)
  · rw [hcase] at hanswer
    injection hanswer with hanswer
    rw [← hanswer, h f' hscripted] at hf
    cases hf
  · rw [hcase] at hanswer ⊢
    cases hget : w.engine.volumes.get? name with
    | none => exact hget
    | some v =>
      rw [MemoryEngine.answer, hget] at hanswer
      cases hanswer

/-- Who looks for a volume before it is made makes none that exists. -/
theorem Worker.stays_createVolume {T : Targets} {name : String} (hname : T.madeVolume name) :
    (createVolume name).Stays T := by
  intro w h
  have hlook := Call.stays_inspectVolume (T := T) name w
  rw [createVolume, Procedure.runIn_bind, Procedure.runIn_engineIfFound]
  cases hanswer : (w.answer (.engine (.inspectVolume name))).1 with
  | ok v => exact hlook
  | error f =>
    cases hf : f.isNotFound with
    | false =>
      simp only [hf, Bool.false_eq_true, if_false]
      exact hlook
    | true =>
      have hnone := World.get?_of_inspectVolume h hanswer hf
      refine hlook.trans ?_
      generalize (w.answer (.engine (.inspectVolume name))).2 = v at hnone
      have hmade : v.TouchesOnly T (v.answer (.engine (.createVolume (volumeRequest name)))).2 := by
        refine World.touchesOnly_answer v nofun ?_
        obtain ⟨faults, -, ⟨f, -, hcase⟩ | hcase⟩ := v.answer_engine_cases (.createVolume (volumeRequest name))
        · rw [hcase]
          exact .refl _
        · rw [hcase]
          exact MemoryEngine.touchesOnly_createVolume hname v.engine hnone
      simp only [hf, if_true, Option.isSome_none, Bool.false_eq_true, if_false]
      rw [Procedure.runIn_bind, Procedure.runIn_engineOrFail]
      cases (v.answer (.engine (.createVolume (volumeRequest name)))).1 with
      | ok record => exact hmade
      | error f => exact hmade

end Shipshape
