import Mathlib.Data.Option.Defs
import Shipshape.Proofs.Memory.Calm

/-!
# What an engine in memory has

Two states of an engine have the same things if they have the same containers, images and volumes; a container
is the same if its document is, the section on the state apart. Calls that look, start or wait leave the things
(`leavesThings_of_kind`), so a procedure that only makes such calls does.

A procedure owns up (`OwnsUp`) if what it returns says that something changed wherever it did. Proof outline.
What leaves the things owns up, and so does what says in any case that something changed; a sequence owns up if
its parts do and the second keeps what the first said (`ownsUp_bind`).
-/

namespace Shipshape

namespace MemoryEngine

/-- The same containers, apart from their state, the same images and the same volumes. -/
structure SameThings (m m' : MemoryEngine) : Prop where
  containers : ∀ name, Option.Rel (fun d d' => Inspection.AgreeOutsideState ⟨d'⟩ ⟨d⟩)
    (m.containers.get? name) (m'.containers.get? name)
  images : ∀ reference, m'.images.get? reference = m.images.get? reference
  volumes : ∀ name, m'.volumes.get? name = m.volumes.get? name

variable {m m' m'' : MemoryEngine}

theorem rel_self (x : Option Json) : Option.Rel (fun d d' => Inspection.AgreeOutsideState ⟨d'⟩ ⟨d⟩) x x := by
  rcases x with _ | d
  · exact .none
  · exact .some fun k _ => rfl

theorem SameThings.refl (m : MemoryEngine) : SameThings m m :=
  ⟨fun _ => rel_self _, fun _ => rfl, fun _ => rfl⟩

theorem SameThings.trans (h : SameThings m m') (h' : SameThings m' m'') : SameThings m m'' := by
  refine ⟨fun name => ?_, fun r => (h'.images r).trans (h.images r), fun n => (h'.volumes n).trans (h.volumes n)⟩
  have hfirst := h.containers name
  have hsecond := h'.containers name
  revert hfirst hsecond
  generalize m.containers.get? name = x, m'.containers.get? name = y, m''.containers.get? name = z
  rintro (hagree | _) (hagree' | _)
  · exact .some fun k hk => (hagree' k hk).trans (hagree k hk)
  · exact .none

theorem SameButHealth.sameThings (h : SameButHealth m m') : SameThings m m' := by
  refine ⟨fun name => ?_, fun r => by rw [h.images], fun n => by rw [h.volumes]⟩
  rcases h.containers name with hsame | ⟨document, hbefore, -, hafter⟩
  · rw [hsame]
    exact rel_self _
  · rw [hbefore, hafter]
    exact .some (agree_setState document _ _)

theorem sameThings_modify (m : MemoryEngine) (name : String) {f : Json → Json}
    (hf : ∀ d, Inspection.AgreeOutsideState ⟨f d⟩ ⟨d⟩) : SameThings m (m.modify name f).2 := by
  refine ⟨fun n => ?_, fun r => by rw [modify_snd], fun n => by rw [modify_snd]⟩
  rw [get?_modify]
  by_cases hn : n = name
  · subst hn
    rw [if_pos rfl]
    rcases m.containers.get? n with _ | d
    · exact .none
    · exact .some (hf d)
  · rw [if_neg hn]
    exact rel_self _

theorem sameThings_startContainer (m : MemoryEngine) (name : String) :
    SameThings m (m.startContainer name).2 := by
  unfold startContainer
  split
  · exact ⟨fun _ => rel_self _, fun _ => rfl, fun _ => rfl⟩
  · split
    · exact ⟨fun _ => rel_self _, fun _ => rfl, fun _ => rfl⟩
    · exact sameThings_modify m name (agree_started m)

end MemoryEngine

namespace World

variable {w : World}

theorem faults_answer (h : w.faults = ∅) (c : Call) : (w.answer c).2.faults = ∅ := by
  cases c with
  | engine c =>
    rw [answer_engine h]
    exact h
  | unit c n => exact h
  | hostPath path => exact h

end World

/-- A call that leaves the things of the engine as they are, unless a fault is scripted. -/
def Call.LeavesThings (c : Call) : Prop :=
  ∀ w : World, w.faults = ∅ → w.engine.SameThings (w.answer c).2.engine

theorem Call.leavesThings_of_kind {c : Call}
    (hc : c.kind ∈ [CallKind.look, .probe, .start, .wait]) : c.LeavesThings := by
  intro w h
  cases c with
  | hostPath path => exact .refl _
  | unit c n => exact .refl _
  | engine c =>
    rw [World.answer_engine h]
    cases c with
    | inspectContainer n => exact (MemoryEngine.looked_inspectContainer w.engine n).toSameButHealth.sameThings
    | inspectImage n => exact .refl _
    | logs n stream tail => exact .refl _
    | exec n argv user => exact (MemoryEngine.sameButHealth_exec w.engine).sameThings
    | startContainer n => exact MemoryEngine.sameThings_startContainer w.engine n
    | waitContainer n => exact MemoryEngine.sameThings_modify w.engine n fun d => MemoryEngine.agree_setState d _ _
    | _ => exact absurd hc (of_decide_eq_false rfl)

theorem Call.leavesThings_inspectVolume (n : String) : (Call.engine (.inspectVolume n)).LeavesThings := by
  intro w h
  rw [World.answer_engine h]
  exact .refl _

namespace Procedure

open World

variable {α β : Type} {p : Procedure α} {f : α → Procedure β} {w w' : World} {tells : β → Bool}

theorem faults_runIn (p : Procedure α) (h : w.faults = ∅) : (p.runIn w).2.faults = ∅ := by
  have hany : p.Asks fun _ => True := Program.asks_anything p.run
  exact Asks.runIn hany (I := fun v => v.faults = ∅) (fun v c _ hv => faults_answer hv c) (fun _ _ hv => hv) h

/-- Wherever something changed, the result says that something changed. -/
def OwnsUp (tells : α → Bool) (p : Procedure α) : Prop :=
  ∀ w a w', w.faults = ∅ → p.runIn w = (.ok a, w') → tells a = false → w.engine.SameThings w'.engine

theorem ownsUp_of_asks {tells : α → Bool} (hp : p.Asks Call.LeavesThings) : p.OwnsUp tells := by
  intro w a w' h hrun _
  have hafter := Asks.runIn hp (I := fun v => v.faults = ∅ ∧ w.engine.SameThings v.engine)
    (fun v c hc hv => ⟨faults_answer hv.1 c, hv.2.trans (hc v hv.1)⟩) (fun _ _ hv => hv) ⟨h, .refl _⟩
  rw [hrun] at hafter
  exact hafter.2

theorem AsksKinds.leavesThings {kinds : List CallKind} (hp : p.AsksKinds kinds)
    (h : ∀ k ∈ kinds, k ∈ [CallKind.look, .probe, .start, .wait]) : p.Asks Call.LeavesThings :=
  Asks.mono hp fun c hc => Call.leavesThings_of_kind (h c.kind hc)

theorem ownsUp_of_yields {tells : α → Bool} (hp : p.Yields fun a => tells a = true) : p.OwnsUp tells := by
  intro w a w' _ hrun hnot
  rw [hp.runIn hrun] at hnot
  cases hnot

theorem ownsUp_bind {said : α → Bool} (hp : p.OwnsUp said) (hf : ∀ a, (f a).OwnsUp tells)
    (htold : ∀ a, said a = true → (f a).Yields fun b => tells b = true) : OwnsUp tells (p >>= f) := by
  intro w b w' h hrun hnot
  obtain ⟨a, w₁, hfirst, hrest⟩ := runIn_bind_eq_ok.1 hrun
  have hfaults := faults_runIn p h
  rw [hfirst] at hfaults
  have hunsaid : said a = false := by
    by_contra hyes
    rw [(htold a ((Bool.not_eq_false _).mp hyes)).runIn hrest] at hnot
    cases hnot
  exact (hp w a w₁ h hfirst hunsaid).trans (hf a w₁ b w' hfaults hrest hnot)

theorem ownsUp_behind (hp : p.Asks Call.LeavesThings) (hf : ∀ a, (f a).OwnsUp tells) :
    OwnsUp tells (p >>= f) := by
  have hsilent : p.OwnsUp fun _ => false := ownsUp_of_asks hp
  exact ownsUp_bind hsilent hf nofun

end Procedure

end Shipshape
