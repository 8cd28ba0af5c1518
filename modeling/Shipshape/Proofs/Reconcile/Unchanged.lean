import Shipshape.Proofs.Memory.Things
import Shipshape.Proofs.Reconcile.Convergence

/-!
# Outcomes that say that nothing changed

An invocation that says that nothing changed leaves the things of an engine in memory as they were, apart from
those that change something in silence (`ChangesSilently`). These are two: a run that is collected and then
removed, of a container that was running and is as declared; and fetching an image that is stored under another
reference than the declared one.

Proof outline. Each action owns up (`ownsUp_perform`), part by part. Bringing a container up does so as long as
nothing is removed behind the run; where something is, that nothing changed before can only be said if the
container was found as declared (`yields_startContainer_matchable`).
-/

namespace Shipshape

open Procedure World

variable {s : Spec} {name reference : String}

/-- Some container would be found as declared, apart from its state. -/
def Comparator.Matchable (c : Comparator) (s : Spec) : Prop :=
  ∃ live image d, c.compare s live (some image) = .ok d ∧ ∀ a ∈ d.1.keys, a = .state

/-- The invocations that change something in some state of the engine, and say that nothing changed. -/
inductive Reconciler.ChangesSilently (r : Reconciler) (s : Spec) : Action → Prop where
  | collect (name reference : String) : s.name = some name → s.image = some reference → s.detach = false →
      s.removeOnExit = true → r.comparator.Matchable s → ChangesSilently r s .startContainer
  | fetch (reference : String) : s.image = some reference →
      (Create.pullRequest s reference).reference ≠ reference → ChangesSilently r s .pullImage

/-! ### Images, volumes and containers -/

namespace Worker

theorem ownsUp_pullImage (himage : s.image = some reference)
    (hsame : (Create.pullRequest s reference).reference = reference) : (pullImage s).OwnsUp id := by
  intro w b w' h hrun hnot
  obtain ⟨calls, hpull⟩ := pullImage_eq h himage
  rw [hpull, MemoryEngine.pullImage, hsame] at hrun
  rcases hregistry : w.engine.registry.get? reference with _ | i
  · rw [hregistry] at hrun
    cases hrun
  · rw [hregistry] at hrun
    injection hrun with hb hw
    injection hb with hb
    subst hb hw
    have hlocal : w.engine.images.get? reference = some i := by simpa using hnot
    refine ⟨fun _ => MemoryEngine.rel_self _, fun other => ?_, fun _ => rfl⟩
    dsimp only
    rw [Dict.get?_insert]
    split
    · next hother => rw [hother, hlocal]
    · rfl

theorem ownsUp_ensureImage : (ensureImage s).OwnsUp id := by
  intro w b w' h hrun hnot
  unfold ensureImage at hrun
  rcases himage : s.image with _ | reference
  · rw [himage] at hrun
    injection hrun with _ hw
    subst hw
    exact .refl _
  · have hrest : (do if (← checkImage s).isSome then return false else pullImage s : Procedure Bool).runIn w =
        (.ok b, w') := by
      rw [himage] at hrun
      exact hrun
    rw [runIn_bind_ok (checkImage_eq h himage)] at hrest
    rcases hlocal : w.engine.images.get? reference with _ | i
    · rw [hlocal] at hrest
      have hfaults : World.faults { w with calls := .engine (.inspectImage reference) :: w.calls } = ∅ := h
      obtain ⟨calls, hpull⟩ := pullImage_eq hfaults himage
      simp only [Option.isSome_none, Bool.false_eq_true, if_false, hpull, hlocal] at hrest
      split at hrest
      · injection hrest with hb _
        injection hb with hb
        subst hb
        cases hnot
      · cases hrest
    · rw [hlocal] at hrest
      injection hrest with _ hw
      subst hw
      exact .refl _

theorem ownsUp_removeImage : (removeImage s).OwnsUp id := by
  refine ownsUp_behind (asks_ofExcept _) fun reference => ?_
  refine ownsUp_behind (asks_checkImage.leavesThings (by decide)) fun image => ?_
  split
  · exact ownsUp_of_asks (asks_pure false)
  · apply ownsUp_of_yields
    refine yields_bind fun answer => ?_
    rcases answer with f | ⟨⟩
    · exact yields_throw
    · exact yields_pure rfl

theorem ownsUp_createVolume : (createVolume name).OwnsUp Option.isSome := by
  refine ownsUp_behind (asks_engineIfFound (Call.leavesThings_inspectVolume name)) fun found => ?_
  split
  · exact ownsUp_of_asks (asks_pure none)
  · exact ownsUp_of_yields (yields_bind fun record => yields_pure rfl)

theorem ownsUp_removeVolume : (removeVolume name).OwnsUp id := by
  refine ownsUp_behind (asks_engineIfFound (Call.leavesThings_inspectVolume name)) fun found => ?_
  split
  · exact ownsUp_of_asks (asks_pure false)
  · apply ownsUp_of_yields
    refine yields_bind fun answer => ?_
    rcases answer with f | ⟨⟩
    · exact yields_throw
    · exact yields_pure rfl

theorem asks_unit_leavesThings (c : UnitCall) (n : String) : (Procedure.unit c n).Asks Call.LeavesThings :=
  asks_unit fun _ _ => .refl _

theorem ownsUp_removeContainer : (removeContainer s).OwnsUp id := by
  refine ownsUp_behind (asks_ofExcept _) fun name => ?_
  refine ownsUp_behind (asks_unit_leavesThings .remove name) fun unitRemoved => ?_
  refine ownsUp_behind (asks_inspect.leavesThings (by decide)) fun info => ?_
  split
  · exact ownsUp_of_asks (asks_pure unitRemoved)
  · apply ownsUp_of_yields
    refine yields_bind fun answer => ?_
    rcases answer with f | ⟨⟩
    · refine yields_bind fun info => ?_
      split
      · exact yields_bind fun _ => yields_pure rfl
      · exact yields_pure rfl
    · exact yields_pure rfl

theorem ownsUp_stopContainer : (stopContainer s).OwnsUp id := by
  refine ownsUp_behind (asks_ofExcept _) fun name => ?_
  refine ownsUp_behind (asks_inspect.leavesThings (by decide)) fun info => ?_
  rcases info with _ | info
  · dsimp only
    split
    · exact ownsUp_of_asks (asks_pure false)
    · exact ownsUp_of_asks (asks_throw _)
  · dsimp only
    split
    · exact ownsUp_of_asks (asks_pure false)
    · exact ownsUp_of_yields (yields_bind fun _ => yields_pure rfl)

end Worker

namespace Reconcile

variable {c : Comparator} {config : Config} {o : Outcome}

theorem ownsUp_stopAndRemove : (stopAndRemove s).OwnsUp (·.changed) := by
  refine ownsUp_behind (asks_ofExcept _) fun name => ?_
  refine ownsUp_behind (Worker.asks_inspect.leavesThings (by decide)) fun info => ?_
  split
  · exact ownsUp_of_asks (asks_pure _)
  · exact ownsUp_of_yields (yields_bind fun _ => yields_bind fun _ => yields_pure rfl)

/-! ### Bringing a container up -/

theorem asks_collectRun (hkeep : s.removeOnExit = false) :
    (collectRun s name o).AsksKinds [.look, .start, .wait] := by
  refine asks_bind (asks_engineOrFail (by simp [Call.kind])) fun exitCode => ?_
  refine asks_bind (asks_engineOrFail (by simp [Call.kind])) fun out => ?_
  refine asks_bind (asks_engineOrFail (by simp [Call.kind])) fun err => ?_
  rw [hkeep]
  exact asks_when (asks_throw _) fun _ => asks_pure _

theorem asks_bringUp {info : Option Inspection} (h : s.detach = true ∨ s.removeOnExit = false) :
    (bringUp config s name info o).AsksKinds [.look, .start, .wait] := by
  refine asks_bringUp_of (fun _ _ => asks_startExisting.mono (by decide))
    (fun _ _ => asks_waitUntilHealthy.mono (by decide)) fun hdetach _ => asks_collectRun (h.resolve_left ?_)
  rw [hdetach]
  exact Bool.false_ne_true

theorem yields_makeContainer : Yields (fun p : Option Inspection × Bool => p.2 = true) (do
    discard (Worker.createContainer s)
    record ("created container " ++ name)
    return (← Worker.inspect name, true)) :=
  yields_bind fun _ => yields_bind fun _ => yields_bind fun _ => yields_pure rfl

theorem ownsUp_replaceIfDrifted {info : Inspection} : (replaceIfDrifted c s name info).OwnsUp (!·) := by
  refine ownsUp_behind (asks_compareWith.leavesThings (by decide)) fun drift => ?_
  split
  · exact ownsUp_of_yields (yields_bind fun _ => yields_bind fun _ => yields_bind fun _ => yields_pure rfl)
  · exact ownsUp_of_asks (asks_pure true)

theorem ownsUp_ensureContainer : (ensureContainer c s name).OwnsUp Prod.snd := by
  refine ownsUp_behind (Worker.asks_inspect.leavesThings (by decide)) fun info => ?_
  rcases info with _ | live
  · exact ownsUp_of_yields yields_makeContainer
  · refine ownsUp_bind ownsUp_replaceIfDrifted (fun kept => ?_) fun kept hgone => ?_
    · cases kept with
      | true => exact ownsUp_of_asks (asks_pure _)
      | false => exact ownsUp_of_yields yields_makeContainer
    · cases kept with
      | true => cases hgone
      | false => exact yields_makeContainer

theorem ownsUp_ensureImageNoted : (ensureImageNoted s).OwnsUp id := by
  refine ownsUp_bind Worker.ownsUp_ensureImage (fun pulled => ?_) fun pulled hpulled => ?_
  · exact ownsUp_of_asks (asks_when (asks_record _) fun _ => asks_pure _)
  · rw [show pulled = true from hpulled]
    exact yields_bind fun _ => yields_pure rfl

theorem yields_bringUp_changed {info : Option Inspection} (ho : o.changed = true) :
    (bringUp config s name info o).Yields (·.changed = true) :=
  (yields_bringUp ho).mono fun _ hsame => hsame.changed.trans ho

theorem ownsUp_startContainer (h : s.detach = true ∨ s.removeOnExit = false) :
    (startContainer c config s o).OwnsUp (·.changed) := by
  rw [startContainer_eq]
  refine ownsUp_behind (asks_ofExcept _) fun name => ?_
  refine ownsUp_bind ownsUp_ensureImageNoted (fun pulled => ?_) fun pulled hpulled => ?_
  · refine ownsUp_bind ownsUp_ensureContainer ?_ ?_
    · rintro ⟨info, made⟩
      exact ownsUp_of_asks ((asks_bringUp h).leavesThings (by decide))
    · rintro ⟨info, made⟩ hmade
      exact yields_bringUp_changed (by simp [show made = true from hmade])
  · refine yields_bind ?_
    rintro ⟨info, made⟩
    exact yields_bringUp_changed (by simp [show pulled = true from hpulled])

/-! ### Where a container was found as declared -/

theorem matchable_of_compare {info : Inspection} {image : Option Image} {d : Drift × List Note}
    (himage : s.image = some reference) (h : c.compare s info image = .ok d) (hkeys : ∀ a ∈ d.1.keys, a = .state) :
    c.Matchable s := by
  rcases image with _ | image
  · have hdiffers : (c.beside s info none).differs .image = .ok true := by
      unfold Comparison.differs Comparison.imageDiffers Comparator.beside
      rw [himage]
    cases hkeys _ ((Comparator.mem_keys_of_compare h .image).2 hdiffers)
  · exact ⟨info, image, d, h, hkeys⟩

theorem yields_replaceIfDrifted {info : Inspection} (himage : s.image = some reference) :
    (replaceIfDrifted c s name info).Yields fun kept => kept = true → c.Matchable s := by
  refine yields_bind_of yields_compareWith fun drift hdrift => ?_
  obtain ⟨image, notes, -, hcompare⟩ := hdrift
  split
  · exact yields_bind fun _ => yields_bind fun _ => yields_bind fun _ => yields_pure nofun
  · next hsame =>
    refine yields_pure fun _ => matchable_of_compare himage hcompare fun a ha => ?_
    simpa using fun hne => hsame (List.any_eq_true.2 ⟨a, ha, bne_iff_ne.2 hne⟩)

theorem yields_ensureContainer (himage : s.image = some reference) :
    (ensureContainer c s name).Yields fun p => p.2 = false → c.Matchable s := by
  have hmake : Yields (fun p : Option Inspection × Bool => p.2 = false → c.Matchable s) (do
      discard (Worker.createContainer s)
      record ("created container " ++ name)
      return (← Worker.inspect name, true)) := by
    refine yields_makeContainer.mono fun p hmade hnot => ?_
    rw [hmade] at hnot
    cases hnot
  refine yields_bind fun info => ?_
  rcases info with _ | live
  · exact hmake
  · refine yields_bind_of (yields_replaceIfDrifted himage) fun kept hkept => ?_
    cases kept with
    | true => exact yields_pure fun _ => hkept rfl
    | false => exact hmake

/-- Bringing a container up says that nothing changed only if a container was found as declared. -/
theorem yields_startContainer_matchable (himage : s.image = some reference) :
    (startContainer c config s o).Yields fun o' => o'.changed = false → c.Matchable s := by
  rw [startContainer_eq]
  refine yields_bind fun name => yields_bind fun pulled => yields_bind_of (yields_ensureContainer himage) ?_
  rintro ⟨info, made⟩ hmade
  cases made with
  | false => exact yields_of_forall fun _ _ => hmade rfl
  | true =>
    refine (yields_bringUp_changed (by simp)).mono fun o' hchanged hnot => ?_
    rw [hchanged] at hnot
    cases hnot

theorem ownsUp_recreateOrRestart : (recreateOrRestart c config s).OwnsUp (·.changed) := by
  refine ownsUp_behind (asks_ofExcept _) fun name => ?_
  refine ownsUp_behind (asks_assess.leavesThings (by decide)) fun a => ?_
  rcases hchanged : a.changed with _ | _
  · rw [Assessment.changed_eq_false_iff.1 hchanged]
    exact ownsUp_of_asks (asks_pure _)
  · apply ownsUp_of_yields
    exact (yields_carryOut_assessment a).mono fun _ hsame => hsame.changed.trans ((changed_outcome a).trans hchanged)

end Reconcile

namespace Reconciler

variable {r : Reconciler} {a : Action}

/-- What an action changes it says, apart from the invocations that change something in silence. -/
theorem ownsUp_perform (hv : s.validateFor a = .ok ()) (h : ¬ r.ChangesSilently s a) :
    (r.perform a s).OwnsUp (·.changed) := by
  have hflag : ∀ {p : Procedure Bool}, p.OwnsUp id →
      OwnsUp (·.changed) (p >>= fun b => pure ({ changed := b } : Outcome)) := fun hp =>
    ownsUp_bind hp (fun b => ownsUp_of_asks (asks_pure _)) fun b hb => yields_pure hb
  cases a with
  | compareContainer =>
    exact ownsUp_of_asks (asks_bind (Reconcile.asks_assess.leavesThings (by decide)) fun _ => asks_pure _)
  | compareImage => exact ownsUp_of_asks (Reconcile.asks_compareImage.leavesThings (by decide))
  | createVolume =>
    refine ownsUp_behind (asks_ofExcept _) fun name => ?_
    exact ownsUp_bind Worker.ownsUp_createVolume (fun _ => ownsUp_of_asks (asks_pure _))
      fun created hcreated => yields_pure hcreated
  | ensureImage => exact hflag Worker.ownsUp_ensureImage
  | pullImage =>
    obtain ⟨reference, himage⟩ := Spec.image_of_validateFor hv rfl
    by_cases hsame : (Create.pullRequest s reference).reference = reference
    · exact hflag (Worker.ownsUp_pullImage himage hsame)
    · exact absurd (.fetch reference himage hsame) h
  | recreateOrRestartContainer => exact Reconcile.ownsUp_recreateOrRestart
  | removeContainer => exact hflag Worker.ownsUp_removeContainer
  | removeImage => exact hflag Worker.ownsUp_removeImage
  | removeVolume => exact ownsUp_behind (asks_ofExcept _) fun name => hflag Worker.ownsUp_removeVolume
  | restartContainer => exact ownsUp_of_yields (yields_bind fun report => yields_pure rfl)
  | startContainer =>
    refine ownsUp_behind (asks_ofExcept _) fun _ => ?_
    by_cases hkeep : s.detach = true ∨ s.removeOnExit = false
    · exact Reconcile.ownsUp_startContainer hkeep
    · intro w o w' hfaults hrun hnot
      obtain ⟨name, hname⟩ := Spec.name_of_validateFor hv rfl
      obtain ⟨reference, himage⟩ := Spec.image_of_validateFor hv rfl
      simp only [not_or, Bool.not_eq_true, Bool.not_eq_false] at hkeep
      have hmatchable := (Reconcile.yields_startContainer_matchable himage).runIn hrun hnot
      exact absurd (.collect name reference hname himage hkeep.1 hkeep.2 hmatchable) h
  | stopContainer => exact hflag Worker.ownsUp_stopContainer
  | stopAndRemoveContainer => exact Reconcile.ownsUp_stopAndRemove

end Reconciler

end Shipshape
