import Shipshape.Proofs.Create.Request
import Shipshape.Proofs.Memory.Supervisor
import Shipshape.Reconcile.Run

/-!
# Doing it again changes nothing

`run_twice`: where stopping or removing a container, creating or removing a volume, or removing an image succeeded,
doing the same again succeeds, says that nothing changed, and leaves containers, images and volumes as they were
left. There is one exception: an engine in memory lets a container turn healthy when it is looked at, also one that
was stopped (`healthy_though_stopped`). All this is about an engine in memory beside a sound supervisor.

Proof outline. Behind each action the state is what the action was for (`Supervisor.Done`), which the calls that it
succeeded with show one by one (`done_of_returns`). In such a state the action finds nothing to do with its first
look (`returns_again`).
-/

namespace Shipshape

namespace Supervisor

variable {υ : Type} {S : Supervisor υ} {s : Spec} {name reference : String} {x y : Site υ}

/-! ### Stopping -/

theorem idles_of_returns_stopRunning (hS : S.Sound) {document : Json} {u : Unit}
    (hget : x.engine.containers.get? name = some document)
    (h : S.beside.Returns (Worker.stopRunning s name) x u y) : y.Idles name := by
  unfold Worker.stopRunning at h
  split at h
  · obtain ⟨u, z, hwrite, h⟩ := S.beside.returns_bind.1 h
    obtain ⟨said, hwrite⟩ := S.beside.returns_discard.1 hwrite
    obtain ⟨stopped, w, hstop, h⟩ := S.beside.returns_bind.1 h
    have hsame : z.engine = x.engine := by
      rw [S.beside.returns_unit, answer_unit] at hwrite
      rw [← (Prod.mk.inj hwrite).2]
      exact hS.units .create (by decide) name x.engine x.units
    cases stopped with
    | false => cases h
    | true =>
      obtain ⟨-, rfl⟩ := S.beside.returns_pure.1 h
      rw [S.beside.returns_unit, answer_unit] at hstop
      obtain ⟨hsaid, rfl⟩ := Prod.mk.inj hstop
      exact hS.stopped name z.engine z.units document hsaid (hsame ▸ hget)
  · rw [S.beside.returns_engineOrFail] at h
    obtain ⟨-, rfl⟩ := Prod.mk.inj h
    exact MemoryEngine.exists_of_exited hget

theorem of_returns_stopContainer (hS : S.Sound) {stopped : Bool}
    (h : S.beside.Returns (Worker.stopContainer s) x stopped y) :
    ∃ name, s.name = some name ∧ (y.Lacks name ∧ s.ignoreMissing = true ∨ y.Idles name) := by
  obtain ⟨name, hname, h⟩ := S.beside.returns_ofExcept_bind.1 h
  refine ⟨name, Spec.requireName_eq_ok.1 hname, ?_⟩
  obtain ⟨info, z, hlook, h⟩ := S.beside.returns_bind.1 h
  obtain ⟨rfl, rfl⟩ := returns_inspect.1 hlook
  rcases hget : (x.look name).engine.containers.get? name with _ | document
  · simp only [hget, Option.map_none] at h
    split at h
    · next hmissing =>
      obtain ⟨-, rfl⟩ := S.beside.returns_pure.1 h
      exact .inl ⟨hget, hmissing⟩
    · cases h
  · simp only [hget, Option.map_some] at h
    right
    split at h
    · next hidle =>
      obtain ⟨-, rfl⟩ := S.beside.returns_pure.1 h
      exact ⟨document, hget, by simpa using hidle⟩
    · obtain ⟨u, w, hstop, h⟩ := S.beside.returns_bind.1 h
      obtain ⟨-, rfl⟩ := S.beside.returns_pure.1 h
      exact idles_of_returns_stopRunning hS hget hstop

theorem returns_stopContainer_again (hname : s.name = some name)
    (h : x.Lacks name ∧ s.ignoreMissing = true ∨ x.Idles name) :
    S.beside.Returns (Worker.stopContainer s) x false (x.look name) := by
  refine S.beside.returns_ofExcept_bind.2 ⟨name, Spec.requireName_eq_ok.2 hname, ?_⟩
  refine S.beside.returns_bind.2 ⟨_, _, returns_inspect.2 ⟨rfl, rfl⟩, ?_⟩
  rcases h with ⟨hlacks, hmissing⟩ | hidles
  · have hget : (x.look name).engine.containers.get? name = none := hlacks.look
    simp only [hget, Option.map_none, hmissing, if_true]
    exact S.beside.returns_pure.2 ⟨rfl, rfl⟩
  · obtain ⟨document, hget, hidle⟩ := hidles.look
    simp only [hget, Option.map_some, hidle, Bool.not_false, if_true]
    exact S.beside.returns_pure.2 ⟨rfl, rfl⟩

/-! ### Removing -/

theorem lacks_of_removeContainer {y : Site υ} {reply : Except Fault Unit} {force : Bool}
    (h : S.beside.answer x (.engine (.removeContainer name force)) = (reply, y)) : y.Lacks name := by
  obtain ⟨-, rfl⟩ := Prod.mk.inj h
  show (x.engine.removeContainer name).2.containers.get? name = none
  rw [MemoryEngine.removeContainer]
  split
  · exact (Dict.get?_erase _ _ _).trans (if_pos rfl)
  · next hmissing => simpa [Dict.contains] using hmissing

theorem of_returns_removeContainer (hS : S.Sound) {removed : Bool}
    (h : S.beside.Returns (Worker.removeContainer s) x removed y) :
    ∃ name, s.name = some name ∧ y.Lacks name ∧ S.hasUnit y.units name = false := by
  obtain ⟨name, hname, h⟩ := S.beside.returns_ofExcept_bind.1 h
  refine ⟨name, Spec.requireName_eq_ok.1 hname, ?_⟩
  obtain ⟨unitRemoved, z, hunit, h⟩ := S.beside.returns_bind.1 h
  have hgone : S.hasUnit z.units name = false := by
    rw [S.beside.returns_unit, answer_unit] at hunit
    rw [← (Prod.mk.inj hunit).2]
    exact hS.gone name x.engine x.units
  obtain ⟨info, w, hlook, h⟩ := S.beside.returns_bind.1 h
  obtain ⟨rfl, rfl⟩ := returns_inspect.1 hlook
  rcases hget : (z.look name).engine.containers.get? name with _ | document
  · simp only [hget, Option.map_none, Option.isNone_none, if_true] at h
    obtain ⟨-, rfl⟩ := S.beside.returns_pure.1 h
    exact ⟨hget, hgone⟩
  · simp only [hget, Option.map_some, Option.isNone_some, Bool.false_eq_true, if_false] at h
    obtain ⟨reply, v, hremove, h⟩ := S.beside.returns_bind.1 h
    rw [S.beside.returns_engine] at hremove
    have hlacks : v.Lacks name := lacks_of_removeContainer hremove
    have hunits : v.units = z.units := by
      obtain ⟨-, rfl⟩ := Prod.mk.inj hremove
      rfl
    rcases reply with f | ⟨⟩
    · obtain ⟨info, u, hagain, h⟩ := S.beside.returns_bind.1 h
      obtain ⟨rfl, rfl⟩ := returns_inspect.1 hagain
      split at h
      · cases h
      · obtain ⟨-, rfl⟩ := S.beside.returns_pure.1 h
        exact ⟨hlacks.look, hunits ▸ hgone⟩
    · obtain ⟨-, rfl⟩ := S.beside.returns_pure.1 h
      exact ⟨hlacks, hunits ▸ hgone⟩

theorem returns_removeContainer_again (hS : S.Sound) (hname : s.name = some name) (hlacks : x.Lacks name)
    (hunit : S.hasUnit x.units name = false) : ∃ y, S.beside.Returns (Worker.removeContainer s) x false y ∧
      y.engine = (x.look name).engine := by
  have hanswer : (S.answer .remove name x.engine x.units).1 = false := by
    by_contra hsaid
    rw [hS.removed name x.engine x.units (by simpa using hsaid)] at hunit
    cases hunit
  have hengine : (S.beside.answer x (.unit .remove name)).2.engine = x.engine :=
    hS.units .remove (by decide) name x.engine x.units
  obtain ⟨z, hz⟩ : ∃ z, S.beside.answer x (.unit .remove name) = (false, z) := ⟨_, Prod.ext hanswer rfl⟩
  rw [hz] at hengine
  have hmissing : z.Lacks name := by
    rw [Site.Lacks, hengine]
    exact hlacks
  refine ⟨z.look name, S.beside.returns_ofExcept_bind.2 ⟨name, Spec.requireName_eq_ok.2 hname, ?_⟩, ?_⟩
  · refine S.beside.returns_bind.2 ⟨false, z, S.beside.returns_unit.2 hz, ?_⟩
    refine S.beside.returns_bind.2 ⟨none, z.look name, returns_inspect.2 ⟨rfl, ?_⟩, ?_⟩
    · rw [show (z.look name).engine.containers.get? name = none from hmissing.look]
      rfl
    · exact S.beside.returns_pure.2 ⟨rfl, rfl⟩
  · rw [Site.look, Site.look, hengine]

theorem of_returns_stopAndRemove (hS : S.Sound) {o : Outcome}
    (h : S.beside.Returns (Reconcile.stopAndRemove s) x o y) : ∃ name, s.name = some name ∧ y.Lacks name := by
  obtain ⟨name, hname, h⟩ := S.beside.returns_ofExcept_bind.1 h
  have hname := Spec.requireName_eq_ok.1 hname
  obtain ⟨info, z, hlook, h⟩ := S.beside.returns_bind.1 h
  obtain ⟨rfl, rfl⟩ := returns_inspect.1 hlook
  split at h
  · next hnone =>
    obtain ⟨-, rfl⟩ := S.beside.returns_pure.1 h
    exact ⟨name, hname, by simpa [Site.Lacks] using hnone⟩
  · obtain ⟨_, z, hstop, h⟩ := S.beside.returns_bind.1 h
    obtain ⟨_, w, hremove, h⟩ := S.beside.returns_bind.1 h
    obtain ⟨-, rfl⟩ := S.beside.returns_pure.1 h
    obtain ⟨removed, hremove⟩ := S.beside.returns_discard.1 hremove
    obtain ⟨name, hname, hlacks, -⟩ := of_returns_removeContainer hS hremove
    exact ⟨name, hname, hlacks⟩

theorem returns_stopAndRemove_again (hname : s.name = some name) (hlacks : x.Lacks name) :
    S.beside.Returns (Reconcile.stopAndRemove s) x { changed := false } (x.look name) := by
  refine S.beside.returns_ofExcept_bind.2 ⟨name, Spec.requireName_eq_ok.2 hname, ?_⟩
  refine S.beside.returns_bind.2 ⟨none, x.look name, returns_inspect.2 ⟨rfl, ?_⟩, ?_⟩
  · rw [show (x.look name).engine.containers.get? name = none from hlacks.look]
    rfl
  · exact S.beside.returns_pure.2 ⟨rfl, rfl⟩

/-! ### Volumes and images -/

theorem returns_found {c : EngineCall} {what : String} {kept reply : Option c.Reply}
    (hc : x.engine.answer c = (MemoryEngine.found what name kept, x.engine)) :
    S.beside.Returns (Procedure.engineIfFound c) x reply y ↔ x = y ∧ reply = kept := by
  have hanswer : S.beside.answer x (.engine c) = (MemoryEngine.found what name kept, x) := by
    rw [answer_engine, hc]
  rw [Responder.returns_engineIfFound, hanswer]
  rcases kept with _ | v
  · constructor
    · rintro (⟨v, -, ⟨⟩⟩ | ⟨f, rfl, -, h⟩)
      exact ⟨(Prod.mk.inj h).2, rfl⟩
    · rintro ⟨rfl, rfl⟩
      exact .inr ⟨_, rfl, rfl, rfl⟩
  · constructor
    · rintro (⟨v, rfl, h⟩ | ⟨f, -, -, ⟨⟩⟩)
      obtain ⟨hv, rfl⟩ := Prod.mk.inj h
      injection hv with hv
      exact ⟨rfl, by rw [hv]⟩
    · rintro ⟨rfl, rfl⟩
      exact .inl ⟨v, rfl, rfl⟩

theorem returns_inspectVolume {v : Option VolumeRecord} :
    S.beside.Returns (Procedure.engineIfFound (.inspectVolume name)) x v y ↔
      x = y ∧ v = x.engine.volumes.get? name :=
  returns_found rfl

theorem returns_checkImage {image : Option Image} (himage : s.image = some reference) :
    S.beside.Returns (Worker.checkImage s) x image y ↔ x = y ∧ image = x.engine.images.get? reference := by
  rw [Worker.checkImage, himage]
  exact returns_found rfl

theorem of_returns_createVolume {created : Option VolumeRecord}
    (h : S.beside.Returns (Worker.createVolume name) x created y) : (y.engine.volumes.get? name).isSome = true := by
  obtain ⟨v, z, hlook, h⟩ := S.beside.returns_bind.1 h
  obtain ⟨rfl, rfl⟩ := returns_inspectVolume.1 hlook
  split at h
  · next hthere =>
    obtain ⟨-, rfl⟩ := S.beside.returns_pure.1 h
    exact hthere
  · obtain ⟨v, z, hmake, h⟩ := S.beside.returns_bind.1 h
    obtain ⟨-, rfl⟩ := S.beside.returns_pure.1 h
    rw [S.beside.returns_engineOrFail] at hmake
    obtain ⟨-, rfl⟩ := Prod.mk.inj hmake
    show ((x.engine.createVolume (Worker.volumeRequest name)).2.volumes.get? name).isSome = true
    rw [MemoryEngine.createVolume, Worker.volumeRequest, Dict.get?_insert_self]
    rfl

theorem returns_createVolume_again (h : (x.engine.volumes.get? name).isSome = true) :
    S.beside.Returns (Worker.createVolume name) x none x := by
  refine S.beside.returns_bind.2 ⟨_, x, returns_inspectVolume.2 ⟨rfl, rfl⟩, ?_⟩
  rw [if_pos h]
  exact S.beside.returns_pure.2 ⟨rfl, rfl⟩

theorem of_returns_removeVolume {removed : Bool} (h : S.beside.Returns (Worker.removeVolume name) x removed y) :
    y.engine.volumes.get? name = none := by
  obtain ⟨v, z, hlook, h⟩ := S.beside.returns_bind.1 h
  obtain ⟨rfl, rfl⟩ := returns_inspectVolume.1 hlook
  split at h
  · next hnone =>
    obtain ⟨-, rfl⟩ := S.beside.returns_pure.1 h
    exact Option.isNone_iff_eq_none.1 hnone
  · obtain ⟨reply, z, hremove, h⟩ := S.beside.returns_bind.1 h
    rw [S.beside.returns_engine, answer_engine, MemoryEngine.answer, MemoryEngine.removeVolume] at hremove
    rcases reply with f | ⟨⟩
    · cases h
    · obtain ⟨-, rfl⟩ := S.beside.returns_pure.1 h
      split at hremove
      · cases hremove
      · obtain ⟨-, rfl⟩ := Prod.mk.inj hremove
        exact (Dict.get?_erase _ _ _).trans (if_pos rfl)

theorem returns_removeVolume_again (h : x.engine.volumes.get? name = none) :
    S.beside.Returns (Worker.removeVolume name) x false x := by
  refine S.beside.returns_bind.2 ⟨none, x, returns_inspectVolume.2 ⟨rfl, h.symm⟩, ?_⟩
  exact S.beside.returns_pure.2 ⟨rfl, rfl⟩

theorem of_returns_removeImage {removed : Bool} (h : S.beside.Returns (Worker.removeImage s) x removed y) :
    ∃ reference, s.image = some reference ∧ y.engine.images.get? reference = none := by
  obtain ⟨reference, himage, h⟩ := S.beside.returns_ofExcept_bind.1 h
  have himage := Spec.requireImage_eq_ok.1 himage
  refine ⟨reference, himage, ?_⟩
  obtain ⟨v, z, hlook, h⟩ := S.beside.returns_bind.1 h
  obtain ⟨rfl, rfl⟩ := (returns_checkImage himage).1 hlook
  split at h
  · next hnone =>
    obtain ⟨-, rfl⟩ := S.beside.returns_pure.1 h
    exact Option.isNone_iff_eq_none.1 hnone
  · obtain ⟨reply, z, hremove, h⟩ := S.beside.returns_bind.1 h
    rw [S.beside.returns_engine, answer_engine, MemoryEngine.answer, MemoryEngine.removeImage] at hremove
    rcases reply with f | ⟨⟩
    · cases h
    · obtain ⟨-, rfl⟩ := S.beside.returns_pure.1 h
      split at hremove
      · cases hremove
      · obtain ⟨-, rfl⟩ := Prod.mk.inj hremove
        exact (Dict.get?_erase _ _ _).trans (if_pos rfl)

theorem returns_removeImage_again (himage : s.image = some reference)
    (h : x.engine.images.get? reference = none) : S.beside.Returns (Worker.removeImage s) x false x := by
  refine S.beside.returns_ofExcept_bind.2 ⟨reference, Spec.requireImage_eq_ok.2 himage, ?_⟩
  refine S.beside.returns_bind.2 ⟨none, x, (returns_checkImage himage).2 ⟨rfl, h.symm⟩, ?_⟩
  exact S.beside.returns_pure.2 ⟨rfl, rfl⟩

end Supervisor

/-! ### Invocations -/

/-- The actions that leave nothing to do for themselves. -/
def Action.repeatable : List Action :=
  [.stopContainer, .removeContainer, .stopAndRemoveContainer, .createVolume, .removeVolume, .removeImage]

/-- Behind one of these actions the state is what it was for. -/
def Supervisor.Done {υ : Type} (S : Supervisor υ) (s : Spec) (x : Site υ) : Action → Prop
  | .stopContainer => ∃ name, s.name = some name ∧ (x.Lacks name ∧ s.ignoreMissing = true ∨ x.Idles name)
  | .removeContainer => ∃ name, s.name = some name ∧ x.Lacks name ∧ S.hasUnit x.units name = false
  | .stopAndRemoveContainer => ∃ name, s.name = some name ∧ x.Lacks name
  | .createVolume => ∃ name, s.name = some name ∧ (x.engine.volumes.get? name).isSome = true
  | .removeVolume => ∃ name, s.name = some name ∧ x.engine.volumes.get? name = none
  | .removeImage => ∃ reference, s.image = some reference ∧ x.engine.images.get? reference = none
  | _ => False

/-- Containers, images and volumes are as they were; but a container that is looked at to stop it may turn healthy. -/
structure MemoryEngine.AsLeft (a : Action) (s : Spec) (m m' : MemoryEngine) : Prop where
  containers : m'.containers = m.containers ∨
    a = .stopContainer ∧ ∃ name, s.name = some name ∧ TurnedHealthy name m m'
  images : m'.images = m.images
  volumes : m'.volumes = m.volumes

theorem MemoryEngine.AsLeft.refl {a : Action} {s : Spec} (m : MemoryEngine) : AsLeft a s m m := ⟨.inl rfl, rfl, rfl⟩

theorem MemoryEngine.asLeft_look {a : Action} {s : Spec} {m : MemoryEngine} {name : String}
    (h : m.containers.get? name = none ∨ a = .stopContainer ∧ s.name = some name) :
    AsLeft a s m (m.inspectContainer name).2 := by
  have hlooked := looked_inspectContainer m name
  refine ⟨?_, hlooked.images, hlooked.volumes⟩
  rcases h with hnone | ⟨ha, hname⟩
  · exact .inl (containers_inspectContainer_of_none hnone)
  · rcases containers_inspectContainer m name with hsame | hhealthy
    · exact .inl hsame
    · exact .inr ⟨ha, name, hname, hhealthy⟩

namespace Reconciler

variable {υ : Type} {S : Supervisor υ} {r : Reconciler} {a : Action} {s : Spec} {x y : Site υ} {o : Outcome}

theorem returns_run {σ : Type} {E : Responder σ} {x y : σ} (h : E.Returns (r.run a s) x o y) :
    s.validateFor a = .ok () ∧ ∃ o', E.Returns (r.perform a s) x o' y := by
  obtain ⟨_, hv, h⟩ := E.returns_ofExcept_bind.1 h
  obtain ⟨⟨o', notes⟩, z, hperform, h⟩ := E.returns_bind.1 h
  obtain ⟨-, rfl⟩ := E.returns_pure.1 h
  exact ⟨hv, o', E.returns_collectNotes.1 ⟨notes, hperform⟩⟩

theorem returns_run_of_perform {σ : Type} {E : Responder σ} {x y : σ} (hv : s.validateFor a = .ok ())
    (h : E.Returns (r.perform a s) x o y) :
    ∃ lines, E.Returns (r.run a s) x { o with debug := lines } y := by
  obtain ⟨notes, hnotes⟩ := E.returns_collectNotes.2 h
  refine ⟨_, E.returns_ofExcept_bind.2 ⟨(), hv, E.returns_bind.2 ⟨_, y, hnotes, E.returns_pure.2 ⟨rfl, rfl⟩⟩⟩⟩

theorem done_of_returns (hS : S.Sound) (ha : a ∈ Action.repeatable)
    (h : S.beside.Returns (r.perform a s) x o y) : S.Done s y a := by
  cases a with
  | stopContainer =>
    obtain ⟨stopped, z, hstop, h⟩ := S.beside.returns_bind.1 h
    obtain ⟨-, rfl⟩ := S.beside.returns_pure.1 h
    exact Supervisor.of_returns_stopContainer hS hstop
  | removeContainer =>
    obtain ⟨removed, z, hremove, h⟩ := S.beside.returns_bind.1 h
    obtain ⟨-, rfl⟩ := S.beside.returns_pure.1 h
    exact Supervisor.of_returns_removeContainer hS hremove
  | stopAndRemoveContainer => exact Supervisor.of_returns_stopAndRemove hS h
  | createVolume =>
    obtain ⟨name, hname, h⟩ := S.beside.returns_ofExcept_bind.1 h
    obtain ⟨created, z, hcreate, h⟩ := S.beside.returns_bind.1 h
    obtain ⟨-, rfl⟩ := S.beside.returns_pure.1 h
    exact ⟨name, Spec.requireName_eq_ok.1 hname, Supervisor.of_returns_createVolume hcreate⟩
  | removeVolume =>
    obtain ⟨name, hname, h⟩ := S.beside.returns_ofExcept_bind.1 h
    obtain ⟨removed, z, hremove, h⟩ := S.beside.returns_bind.1 h
    obtain ⟨-, rfl⟩ := S.beside.returns_pure.1 h
    exact ⟨name, Spec.requireName_eq_ok.1 hname, Supervisor.of_returns_removeVolume hremove⟩
  | removeImage =>
    obtain ⟨removed, z, hremove, h⟩ := S.beside.returns_bind.1 h
    obtain ⟨-, rfl⟩ := S.beside.returns_pure.1 h
    exact Supervisor.of_returns_removeImage hremove
  | _ => exact absurd ha (by decide)

theorem returns_again (hS : S.Sound) (h : S.Done s x a) : ∃ y,
    S.beside.Returns (r.perform a s) x { changed := false } y ∧ x.engine.AsLeft a s y.engine := by
  cases a with
  | stopContainer =>
    obtain ⟨name, hname, hdone⟩ := h
    have hstop := Supervisor.returns_stopContainer_again (S := S) hname hdone
    refine ⟨x.look name, S.beside.returns_bind.2 ⟨_, _, hstop, S.beside.returns_pure.2 ⟨rfl, rfl⟩⟩, ?_⟩
    exact MemoryEngine.asLeft_look (.inr ⟨rfl, hname⟩)
  | removeContainer =>
    obtain ⟨name, hname, hlacks, hunit⟩ := h
    obtain ⟨y, hremove, hengine⟩ := Supervisor.returns_removeContainer_again hS hname hlacks hunit
    refine ⟨y, S.beside.returns_bind.2 ⟨_, _, hremove, S.beside.returns_pure.2 ⟨rfl, rfl⟩⟩, ?_⟩
    rw [hengine]
    exact MemoryEngine.asLeft_look (.inl hlacks)
  | stopAndRemoveContainer =>
    obtain ⟨name, hname, hlacks⟩ := h
    exact ⟨x.look name, Supervisor.returns_stopAndRemove_again hname hlacks, MemoryEngine.asLeft_look (.inl hlacks)⟩
  | createVolume =>
    obtain ⟨name, hname, hthere⟩ := h
    have hcreate := Supervisor.returns_createVolume_again (S := S) hthere
    refine ⟨x, S.beside.returns_ofExcept_bind.2 ⟨name, Spec.requireName_eq_ok.2 hname, ?_⟩, .refl _⟩
    exact S.beside.returns_bind.2 ⟨_, _, hcreate, S.beside.returns_pure.2 ⟨rfl, rfl⟩⟩
  | removeVolume =>
    obtain ⟨name, hname, hnone⟩ := h
    have hremove := Supervisor.returns_removeVolume_again (S := S) hnone
    refine ⟨x, S.beside.returns_ofExcept_bind.2 ⟨name, Spec.requireName_eq_ok.2 hname, ?_⟩, .refl _⟩
    exact S.beside.returns_bind.2 ⟨_, _, hremove, S.beside.returns_pure.2 ⟨rfl, rfl⟩⟩
  | removeImage =>
    obtain ⟨reference, himage, hnone⟩ := h
    have hremove := Supervisor.returns_removeImage_again (S := S) himage hnone
    exact ⟨x, S.beside.returns_bind.2 ⟨_, _, hremove, S.beside.returns_pure.2 ⟨rfl, rfl⟩⟩, .refl _⟩
  | _ => exact h.elim

/-- Where stopping, removing, or creating a volume succeeded, doing it again succeeds, says that nothing changed, and
leaves containers, images and volumes as they were left; but a container that is looked at to stop it may turn
healthy. -/
theorem run_twice (hS : S.Sound) (ha : a ∈ Action.repeatable) (h : S.beside.Returns (r.run a s) x o y) :
    ∃ o' z, S.beside.Returns (r.run a s) y o' z ∧ o'.changed = false ∧ y.engine.AsLeft a s z.engine := by
  obtain ⟨hv, o₁, hfirst⟩ := returns_run h
  obtain ⟨z, hsecond, hleft⟩ := returns_again (r := r) hS (done_of_returns hS ha hfirst)
  obtain ⟨lines, hrun⟩ := returns_run_of_perform hv hsecond
  exact ⟨_, z, hrun, rfl, hleft⟩

end Reconciler

/-! ### A container that turns healthy after it was stopped -/

/-- A specification that only names its container. -/
def namedSpec : Spec := { name := some "web" }

/-- An engine in which the container runs and is starting, and turns healthy at the look after the next. -/
def settlingSite : Site (List String) where
  engine := {
    containers := .ofList [("web", .ofFields [("State", .ofFields [("Status", .str "running"),
      ("Health", .ofFields [("Status", .str "starting")])])])]
    pollsUntilHealthy := 1 }
  units := []

def stopNamed : Procedure Outcome := (Reconciler.ofSpec namedSpec {} .path).run .stopContainer namedSpec

theorem run_twice_stopNamed : Supervisor.plain.Sound ∧ Action.stopContainer ∈ Action.repeatable ∧
    ∃ o y, Supervisor.plain.beside.Returns stopNamed settlingSite o y ∧ o.changed = true ∧
      ∃ o' z, Supervisor.plain.beside.Returns stopNamed y o' z ∧ o'.changed = false ∧
        y.engine.AsLeft .stopContainer namedSpec z.engine := by
  obtain ⟨o, y, hfirst, hchanged⟩ : ∃ o y, Supervisor.plain.beside.Returns stopNamed settlingSite o y ∧
      o.changed = true := ⟨_, _, rfl, rfl⟩
  exact ⟨Supervisor.sound_plain, by decide, o, y, hfirst, hchanged,
    Reconciler.run_twice Supervisor.sound_plain (by decide) hfirst⟩

def Site.health? {υ : Type} (x : Site υ) (name : String) : Option String :=
  (x.engine.containers.get? name).bind fun document => Inspection.health? ⟨document⟩

/-- Looking at a stopped container a second time may change it: it turns healthy. -/
theorem healthy_though_stopped : ¬ ∀ (υ : Type) (S : Supervisor υ) (r : Reconciler) (a : Action) (s : Spec)
    (x y : Site υ) (o : Outcome), S.Sound → a ∈ Action.repeatable → S.beside.Returns (r.run a s) x o y →
      ∃ o' z, S.beside.Returns (r.run a s) y o' z ∧ o'.changed = false ∧
        z.engine.containers = y.engine.containers ∧ z.engine.images = y.engine.images ∧
        z.engine.volumes = y.engine.volumes := by
  intro hclaim
  obtain ⟨o, y, hfirst, o', z, hsecond, hstarting, hhealthy⟩ :
      ∃ o y, Supervisor.plain.beside.Returns stopNamed settlingSite o y ∧
        ∃ o' z, Supervisor.plain.beside.Returns stopNamed y o' z ∧
          y.health? "web" = some "starting" ∧ z.health? "web" = some "healthy" :=
    ⟨_, _, rfl, _, _, rfl, rfl, rfl⟩
  obtain ⟨_, z', hagain, -, hsame, -⟩ := hclaim _ _ _ _ _ _ _ _ Supervisor.sound_plain (by decide) hfirst
  obtain ⟨-, rfl⟩ := Prod.mk.inj (hagain.symm.trans hsecond)
  rw [Site.health?, hsame, ← Site.health?, hstarting] at hhealthy
  injection hhealthy with hhealthy
  exact absurd hhealthy (by decide)

end Shipshape
