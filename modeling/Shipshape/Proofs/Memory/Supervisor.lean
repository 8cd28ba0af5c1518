import Shipshape.Proofs.Engine.Responder
import Shipshape.Proofs.Memory.Engine
import Shipshape.Worker.Container

/-!
# A supervisor beside an engine in memory

A supervisor keeps units and may act on the engine beside it. It is sound (`Supervisor.Sound`) if it only works on
units, and a container that it says to have stopped is there and does not run. The two together are a responder
(`Supervisor.beside`), whose state is a site.

What a look returns is what is there afterwards (`returns_inspect`), and a look changes nothing unless the container
turns healthy (`containers_inspectContainer`).
-/

namespace Shipshape

/-- A service supervisor, as a function of its units and of the engine beside it. -/
structure Supervisor (υ : Type) where
  answer : UnitCall → String → MemoryEngine → υ → Bool × MemoryEngine × υ
  /-- Whether a container has a unit. -/
  hasUnit : υ → String → Bool

namespace Supervisor

variable {υ : Type}

/-- A supervisor does what it says. -/
structure Sound (S : Supervisor υ) : Prop where
  /-- Writing and removing units leaves the engine alone. -/
  units : ∀ c ∈ [UnitCall.create, .remove], ∀ name m u, (S.answer c name m u).2.1 = m
  /-- A container that was stopped is there, and does not run. -/
  stopped : ∀ name m u document, (S.answer .stop name m u).1 = true → m.containers.get? name = some document →
    ∃ left, (S.answer .stop name m u).2.1.containers.get? name = some left ∧ Inspection.isRunning ⟨left⟩ = false
  /-- Only a unit that existed is said to be removed. -/
  removed : ∀ name m u, (S.answer .remove name m u).1 = true → S.hasUnit u name = true
  /-- What is removed does not exist any more. -/
  gone : ∀ name m u, S.hasUnit (S.answer .remove name m u).2.2 name = false

end Supervisor

/-- An engine in memory, the units of a supervisor, and the host's directories. -/
structure Site (υ : Type) where
  engine : MemoryEngine
  units : υ
  host : HostTree := .standard

namespace Supervisor

variable {υ : Type}

/-- The outside world that a supervisor and an engine in memory make up. -/
def beside (S : Supervisor υ) : Responder (Site υ) where
  answer x
    | .engine c => ((x.engine.answer c).1, { x with engine := (x.engine.answer c).2 })
    | .unit c name =>
      let (said, engine, units) := S.answer c name x.engine x.units
      (said, { x with engine, units })
    | .hostPath path => ((x.host.ensure path).1, { x with host := (x.host.ensure path).2 })
  pause x _ := x

variable {S : Supervisor υ}

theorem answer_engine (c : EngineCall) (x : Site υ) : S.beside.answer x (.engine c) =
    ((x.engine.answer c).1, { x with engine := (x.engine.answer c).2 }) := rfl

theorem answer_unit (c : UnitCall) (name : String) (x : Site υ) : S.beside.answer x (.unit c name) =
    ((S.answer c name x.engine x.units).1,
      { x with
        engine := (S.answer c name x.engine x.units).2.1
        units := (S.answer c name x.engine x.units).2.2 }) := rfl

end Supervisor

namespace MemoryEngine

/-- A container that was starting is healthy, and nothing else is different. -/
def TurnedHealthy (name : String) (m m' : MemoryEngine) : Prop :=
  ∃ document, m.containers.get? name = some document ∧ isSettling document = true ∧
    m'.containers = m.containers.insert name (setHealth "healthy" document)

theorem containers_inspectContainer (m : MemoryEngine) (name : String) :
    (m.inspectContainer name).2.containers = m.containers ∨ TurnedHealthy name m (m.inspectContainer name).2 := by
  rw [inspectContainer]
  dsimp only
  split
  · exact .inl rfl
  · next document hget =>
    split
    · next hsettling => exact .inr ⟨document, hget, (Bool.and_eq_true_iff.1 hsettling).2, rfl⟩
    · exact .inl rfl

theorem containers_inspectContainer_of_none {m : MemoryEngine} {name : String} (h : m.containers.get? name = none) :
    (m.inspectContainer name).2.containers = m.containers := by
  rcases containers_inspectContainer m name with hsame | ⟨document, hdocument, -⟩
  · exact hsame
  · rw [h] at hdocument
    cases hdocument

theorem exists_of_exited {m : MemoryEngine} {name : String} {document : Json}
    (h : m.containers.get? name = some document) :
    ∃ left, (m.modify name (setStatus "exited")).2.containers.get? name = some left ∧
      Inspection.isRunning ⟨left⟩ = false := by
  refine ⟨setStatus "exited" document, ?_, ?_⟩
  · rw [get?_modify, if_pos rfl, h]
    rfl
  · rw [Inspection.isRunning, status_setStatus]
    decide

end MemoryEngine

def Site.look {υ : Type} (x : Site υ) (name : String) : Site υ :=
  { x with engine := (x.engine.inspectContainer name).2 }

namespace Supervisor

variable {υ : Type} {S : Supervisor υ} {name : String} {x y : Site υ}

theorem returns_inspect {info : Option Inspection} : S.beside.Returns (Worker.inspect name) x info y ↔
    x.look name = y ∧ info = (y.engine.containers.get? name).map Inspection.mk := by
  have hanswer : S.beside.answer x (.engine (.inspectContainer name)) =
      ((x.engine.inspectContainer name).1, x.look name) := rfl
  have hlook : (x.engine.inspectContainer name).2 = (x.look name).engine := rfl
  rw [Worker.inspect, Responder.returns_engineIfFound, hanswer, MemoryEngine.inspectContainer_fst, hlook]
  rcases hget : (x.look name).engine.containers.get? name with _ | document
  · constructor
    · rintro (⟨reply, -, ⟨⟩⟩ | ⟨f, rfl, -, h⟩)
      obtain ⟨-, rfl⟩ := Prod.mk.inj h
      exact ⟨rfl, by rw [hget]; rfl⟩
    · rintro ⟨rfl, rfl⟩
      exact .inr ⟨_, by rw [hget]; rfl, rfl, rfl⟩
  · constructor
    · rintro (⟨reply, rfl, h⟩ | ⟨f, -, -, ⟨⟩⟩)
      obtain ⟨hreply, rfl⟩ := Prod.mk.inj h
      injection hreply with hreply
      exact ⟨rfl, by rw [hget, ← hreply]; rfl⟩
    · rintro ⟨rfl, rfl⟩
      exact .inl ⟨⟨document⟩, by rw [hget]; rfl, rfl⟩

end Supervisor

namespace Site

variable {υ : Type} {name : String} {x : Site υ}

def Lacks (x : Site υ) (name : String) : Prop := x.engine.containers.get? name = none

/-- The container is there, and does not run. -/
def Idles (x : Site υ) (name : String) : Prop :=
  ∃ document, x.engine.containers.get? name = some document ∧ Inspection.isRunning ⟨document⟩ = false

theorem Lacks.look (h : x.Lacks name) : (x.look name).Lacks name := by
  rw [Lacks, Site.look, MemoryEngine.containers_inspectContainer_of_none h]
  exact h

theorem Idles.look (h : x.Idles name) : (x.look name).Idles name := by
  obtain ⟨document, hdocument, hidle⟩ := h
  rcases (MemoryEngine.looked_inspectContainer x.engine name).containers name with hsame | ⟨before, hbefore, -, hafter⟩
  · exact ⟨document, hsame.trans hdocument, hidle⟩
  · rw [hdocument] at hbefore
    injection hbefore with hbefore
    refine ⟨_, hafter, ?_⟩
    rw [Inspection.isRunning, MemoryEngine.status_setHealth, ← hbefore]
    exact hidle

end Site

/-! ### A supervisor that is sound -/

/-- A supervisor that writes down which units there are, and starts and stops containers through the engine. -/
def Supervisor.plain : Supervisor (List String) where
  hasUnit units name := units.contains name
  answer
    | .checkChanged, _, m, units => (false, m, units)
    | .create, name, m, units => (!units.contains name, m, name :: units)
    | .remove, name, m, units => (units.contains name, m, units.filter (· != name))
    | .stop, name, m, units => (m.containers.contains name, (m.modify name (MemoryEngine.setStatus "exited")).2, units)
    | .start, name, m, units | .restart, name, m, units =>
      (m.containers.contains name, (m.modify name (MemoryEngine.setStatus "running")).2, units)

theorem Supervisor.sound_plain : Supervisor.plain.Sound where
  units c hc name m u := by
    cases c with
    | create => rfl
    | remove => rfl
    | _ => exact absurd hc (by decide)
  stopped _ _ _ _ _ hget := MemoryEngine.exists_of_exited hget
  removed name m u h := h
  gone name m u := by
    show (u.filter (· != name)).contains name = false
    simp

end Shipshape
