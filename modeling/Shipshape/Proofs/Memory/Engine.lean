import Shipshape.Memory.Engine
import Shipshape.Proofs.Dict
import Shipshape.Proofs.Drift.Views

/-!
# What calls do to an engine in memory

Looking at containers changes nothing but the health of those that were starting (`SameButHealth`). Starting a
container changes its section on the state, and nothing else of its document.
-/

namespace Shipshape

namespace MemoryEngine

/-! ### Documents -/

theorem state_setState (document v : Json) (key : String) :
    Inspection.state ⟨setState document key v⟩ = Dict.insert key v (Inspection.state ⟨document⟩) := by
  have hget : (setState document key v).getD "State" = (document.getD "State").setField key v := by
    rw [setState, Json.getD, Json.get?, Json.fields_setField, Dict.get?_insert_self]
    rfl
  rw [Inspection.state, Inspection.sectionOf, hget, Json.fields_setField]
  rfl

theorem agree_setState (document v : Json) (key : String) :
    Inspection.AgreeOutsideState ⟨setState document key v⟩ ⟨document⟩ :=
  Inspection.agreeOutsideState_setField document _

theorem status_setStatus (status : String) (document : Json) :
    Inspection.status? ⟨setStatus status document⟩ = some status := by
  rw [Inspection.status?, setStatus, state_setState, Dict.get?_insert_self]
  rfl

theorem health_setStatus (status : String) (document : Json) :
    Inspection.health? ⟨setStatus status document⟩ = Inspection.health? ⟨document⟩ := by
  rw [Inspection.health?, setStatus, state_setState, Dict.get?_insert_of_ne _ _ (by decide)]
  rfl

theorem status_setHealth (health : String) (document : Json) :
    Inspection.status? ⟨setHealth health document⟩ = Inspection.status? ⟨document⟩ := by
  rw [Inspection.status?, setHealth, state_setState, Dict.get?_insert_of_ne _ _ (by decide)]
  rfl

theorem health_setHealth (health : String) (document : Json) :
    Inspection.health? ⟨setHealth health document⟩ = some health := by
  rw [Inspection.health?, setHealth, state_setState, Dict.get?_insert_self]
  rw [Option.bind_some, Json.get?, Json.fields_setField, Dict.get?_insert_self]
  rfl

theorem isSettling_setHealth (document : Json) : isSettling (setHealth "healthy" document) = false := by
  rw [isSettling, health_setHealth]
  decide

theorem status_started (m : MemoryEngine) (document : Json) :
    Inspection.status? ⟨m.started document⟩ = some "running" := by
  rw [started]
  split
  · rw [Inspection.status?, state_setState, Dict.get?_insert_of_ne _ _ (by decide)]
    exact status_setStatus "running" document
  · exact status_setStatus "running" document

theorem agree_started (m : MemoryEngine) (document : Json) :
    Inspection.AgreeOutsideState ⟨m.started document⟩ ⟨document⟩ := by
  rw [started]
  split
  · intro k hk
    rw [agree_setState _ _ _ k hk]
    exact agree_setState document _ _ k hk
  · exact agree_setState document _ _

/-! ### Looks -/

/-- A container is as it was, apart from having turned healthy. -/
def Settled (before after : Option Json) : Prop :=
  after = before ∨ ∃ document, before = some document ∧ isSettling document = true ∧
    after = some (setHealth "healthy" document)

/-- Some containers may have turned healthy; apart from that, containers, images and volumes are the same. -/
structure SameButHealth (m m' : MemoryEngine) : Prop where
  containers : ∀ name, Settled (m.containers.get? name) (m'.containers.get? name)
  images : m'.images = m.images
  volumes : m'.volumes = m.volumes

variable {m m' m'' : MemoryEngine}

theorem SameButHealth.refl (m : MemoryEngine) : SameButHealth m m := ⟨fun _ => .inl rfl, rfl, rfl⟩

theorem SameButHealth.trans (h : SameButHealth m m') (h' : SameButHealth m' m'') : SameButHealth m m'' := by
  refine ⟨fun name => ?_, h'.images.trans h.images, h'.volumes.trans h.volumes⟩
  rcases h.containers name with hsame | ⟨document, hbefore, hsettling, hafter⟩
  · rw [← hsame]
    exact h'.containers name
  · rcases h'.containers name with hsame' | ⟨document', hbefore', hsettling', -⟩
    · exact .inr ⟨document, hbefore, hsettling, hsame'.trans hafter⟩
    · -- a container that has turned healthy is not starting any more
      rw [hafter] at hbefore'
      injection hbefore' with hbefore'
      rw [← hbefore', isSettling_setHealth] at hsettling'
      cases hsettling'

/-- What a look shows: the container as it is kept afterwards. -/
theorem inspectContainer_fst (m : MemoryEngine) (name : String) : (m.inspectContainer name).1 =
    match (m.inspectContainer name).2.containers.get? name with
    | some document => .ok ⟨document⟩
    | none => .error (notFound "container" name) := by
  rw [inspectContainer]
  dsimp only
  cases hget : m.containers.get? name with
  | none =>
    dsimp only
    rw [hget]
  | some document =>
    dsimp only
    split
    · dsimp only
      rw [Dict.get?_insert_self]
    · dsimp only
      rw [hget]

/-- What a look leaves alone. -/
structure Looked (m m' : MemoryEngine) : Prop extends SameButHealth m m' where
  failingStarts : m'.failingStarts = m.failingStarts
  ignoredStarts : m'.ignoredStarts = m.ignoredStarts
  execResults : m'.execResults = m.execResults
  registry : m'.registry = m.registry

theorem looked_inspectContainer (m : MemoryEngine) (name : String) : Looked m (m.inspectContainer name).2 := by
  rw [inspectContainer]
  dsimp only
  split
  · exact ⟨⟨fun _ => .inl rfl, rfl, rfl⟩, rfl, rfl, rfl, rfl⟩
  · next document hget =>
    split
    · next hsettling =>
      refine ⟨⟨fun name' => ?_, rfl, rfl⟩, rfl, rfl, rfl, rfl⟩
      rw [Bool.and_eq_true] at hsettling
      dsimp only
      rw [Dict.get?_insert]
      split
      · next hname =>
        rw [hname]
        exact .inr ⟨document, hget, hsettling.2, rfl⟩
      · exact .inl rfl
    · exact ⟨⟨fun _ => .inl rfl, rfl, rfl⟩, rfl, rfl, rfl, rfl⟩

theorem sameButHealth_exec (m : MemoryEngine) : SameButHealth m m.exec.2 := by
  rw [exec]
  split
  · exact .refl m
  · exact ⟨fun _ => .inl rfl, rfl, rfl⟩

theorem Looked.refl (m : MemoryEngine) : Looked m m := ⟨.refl m, rfl, rfl, rfl, rfl⟩

/-! ### Starts -/

theorem startContainer_eq (hfailing : m.failingStarts = 0) (hignored : m.ignoredStarts = 0) (name : String) :
    m.startContainer name = m.modify name m.started := by
  rw [startContainer, hfailing, hignored]
  rfl

theorem get?_modify (m : MemoryEngine) (name : String) (f : Json → Json) (name' : String) :
    (m.modify name f).2.containers.get? name' =
      if name' = name then (m.containers.get? name).map f else m.containers.get? name' := by
  rw [modify]
  cases hget : m.containers.get? name with
  | none =>
    show m.containers.get? name' = if name' = name then none else m.containers.get? name'
    split
    · next hname => rw [hname, hget]
    · rfl
  | some document => exact Dict.get?_insert _ _ _ _

theorem modify_snd (m : MemoryEngine) (name : String) (f : Json → Json) :
    (m.modify name f).2 = { m with containers := (m.modify name f).2.containers } := by
  rw [modify]
  split
  · rfl
  · rfl

end MemoryEngine

end Shipshape
