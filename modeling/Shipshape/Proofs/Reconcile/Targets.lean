import Shipshape.Proofs.Memory.Frame
import Shipshape.Proofs.Reconcile.Outcome

/-!
# Every action keeps to its target

`touches_only_its_target`: whatever an invocation does to an engine in memory, and whether it succeeds or fails,
it leaves the containers of other names alone; no volume disappears or changes but the one whose removal was asked
for, and none appears but the one that was asked for or, where a container is brought up on Podman, the named ones
that are declared; no local image changes but the one whose removal was asked for and the one that was fetched,
which is the declared one.

Proof outline. All calls but those about storage are about the container and the image of the specification
(`AsksWithin`), so they touch nothing else. Storage comes before a creation; its volumes are the declared ones
(`Worker.stays_provisionVolumes`), and the procedures around a creation are sequences of the two.
-/

namespace Shipshape

open Procedure

/-- A named volume that the container declares, on the engine whose volumes are made before it. -/
def Spec.DeclaresVolume (s : Spec) (name : String) : Prop :=
  s.engine = .podman ∧ ∃ declared ∈ s.volumes, ∃ v,
    Create.Podman.ofDeclared declared = .ok (some (.named v)) ∧ v.name = name

/-- What an invocation may touch. -/
def Action.targets (a : Action) (s : Spec) : Targets where
  container name := s.name = some name
  image q := ∃ reference, s.image = some reference ∧ q = Create.pullRequest s reference
  madeVolume name := a = .createVolume ∧ s.name = some name ∨
    (a = .startContainer ∨ a = .recreateOrRestartContainer) ∧ s.DeclaresVolume name
  removedVolume name := a = .removeVolume ∧ s.name = some name
  removedImage reference := a = .removeImage ∧ s.image = some reference

theorem Action.targets_holds (a : Action) (s : Spec) : (a.targets s).Holds s :=
  ⟨fun _ h => h, fun reference h => ⟨reference, h, rfl⟩⟩

variable {T : Targets} {s : Spec} {name : String}

namespace Worker

theorem asks_removeVolume (hname : T.removedVolume name) : (removeVolume name).Asks (Call.Stays T) := by
  refine asks_bind (asks_engineIfFound (Call.stays_inspectVolume name)) fun found => ?_
  split
  · exact asks_pure false
  · refine asks_bind (asks_engine (Call.stays_removeVolume hname)) fun answer => ?_
    split
    · exact asks_pure true
    · exact asks_throw _

theorem asks_removeImage (himage : ∀ reference, s.image = some reference → T.removedImage reference) :
    (removeImage s).Asks (Call.Stays T) := by
  refine asks_ofExcept_bind fun reference hreference => ?_
  have hcheck : (checkImage s).AsksWithin T.toScope [.look] := within_checkImage
  refine asks_bind (Asks.mono hcheck fun c hc => Call.stays_of_within hc.2 ?_) fun image => ?_
  · rw [List.mem_singleton.1 hc.1]
    decide
  · split
    · exact asks_pure false
    · refine asks_bind (asks_engine (Call.stays_removeImage ?_)) fun answer => ?_
      · exact himage reference (Spec.requireImage_eq_ok.1 hreference)
      · split
        · exact asks_pure true
        · exact asks_throw _

/-! ### Storage -/

theorem stays_provision {v : Create.Podman.Storage} (hv : ∀ n, v = .named n → T.madeVolume n.name) :
    (provision v).Stays T := by
  cases v with
  | named n => exact stays_bind (stays_createVolume (hv n rfl)) fun record => stays_pure _
  | mount m =>
    simp only [provision]
    split
    · apply stays_of_asks
      refine asks_bind (p := ExceptT.lift _) ⟨Call.stays_hostPath _, fun _ => trivial⟩ fun made => ?_
      split
      · exact asks_pure _
      · exact asks_throw _
    · exact stays_pure false

theorem stays_provisionAll {vs : List Create.Podman.Storage}
    (hvs : ∀ n, .named n ∈ vs → T.madeVolume n.name) : (provisionAll vs).Stays T := by
  induction vs with
  | nil => exact stays_pure false
  | cons v vs ih =>
    have hfirst : (provision v).Stays T := stays_provision fun n hn => hvs n (hn ▸ List.mem_cons_self)
    have hrest : (provisionAll vs).Stays T := ih fun n hn => hvs n (List.mem_cons_of_mem _ hn)
    exact stays_bind hfirst fun _ => stays_bind hrest fun _ => stays_pure _

/-- The volumes that are made before a container are the declared ones. -/
theorem stays_provisionVolumes (hs : ∀ n, s.DeclaresVolume n → T.madeVolume n) :
    (provisionVolumes s).Stays T := by
  unfold provisionVolumes
  cases hengine : s.engine with
  | docker => exact stays_pure false
  | podman =>
    refine stays_ofExcept_bind fun vs hvs => stays_provisionAll fun n hn => hs n.name ⟨hengine, ?_⟩
    obtain ⟨os, hos, hvs⟩ := Result.bind_eq_ok.1 hvs
    injection hvs with hvs
    rw [← hvs, List.reduceOption_mem_iff] at hn
    obtain ⟨declared, hdeclared, hof⟩ := Result.exists_of_mem_mapM hos hn
    exact ⟨declared, hdeclared, n, hof, rfl⟩

theorem stays_createContainer (hs : T.Holds s) (hvolumes : ∀ n, s.DeclaresVolume n → T.madeVolume n) :
    (createContainer s).Stays T :=
  stays_bind (stays_discard (stays_provisionVolumes hvolumes)) fun _ =>
    (within_createProvisioned hs).stays (by decide)

end Worker

namespace Reconcile

variable {c : Comparator} {config : Config} {o : Outcome}

/-! ### Bringing a container up -/

theorem stays_ensureContainer (hs : T.Holds s) (hname : T.container name)
    (hvolumes : ∀ n, s.DeclaresVolume n → T.madeVolume n) : (ensureContainer c s name).Stays T := by
  have hlook : (Worker.inspect name).Stays T := (Worker.within_inspect hname).stays (by decide)
  have hmake : Stays T (do
      discard (Worker.createContainer s)
      Procedure.record ("created container " ++ name)
      return (← Worker.inspect name, true)) :=
    stays_bind (stays_discard (Worker.stays_createContainer hs hvolumes)) fun _ =>
      stays_bind (stays_of_asks (asks_record _)) fun _ => stays_bind hlook fun _ => stays_pure _
  refine stays_bind hlook fun info => ?_
  cases info with
  | none => exact hmake
  | some live =>
    refine stays_bind ((within_replaceIfDrifted hs).stays (by decide)) fun kept => ?_
    cases kept with
    | true => exact stays_pure _
    | false => exact hmake

theorem within_bringUp (hs : T.Holds s) (hname : T.container name) {info : Option Inspection} :
    (bringUp config s name info o).AsksWithin T.toScope [.look, .start, .wait, .takeDown, .restart] :=
  asks_bringUp_of (fun _ _ => (within_startExisting hname).mono (by decide))
    (fun _ _ => (within_waitUntilHealthy hname).mono (by decide))
    fun _ _ => (within_collectRun hs hname).mono (by decide)

theorem stays_startContainer (hs : T.Holds s) (hvolumes : ∀ n, s.DeclaresVolume n → T.madeVolume n) :
    (startContainer c config s o).Stays T := by
  rw [startContainer_eq]
  refine stays_ofExcept_bind fun name hname => ?_
  have hname : T.container name := hs.container name (Spec.requireName_eq_ok.1 hname)
  refine stays_bind ((within_ensureImageNoted hs).stays (by decide)) fun pulled => ?_
  refine stays_bind (stays_ensureContainer hs hname hvolumes) ?_
  rintro ⟨info, made⟩
  exact (within_bringUp hs hname).stays (by decide)

theorem stays_carryOut (hs : T.Holds s) (hname : T.container name)
    (hvolumes : ∀ n, s.DeclaresVolume n → T.madeVolume n) {d : Decision} :
    (carryOut c config s name d o).Stays T := by
  have hrecord : ∀ line, (Procedure.record line).Stays T := fun line => stays_of_asks (asks_record line)
  have hwait : ∀ report, (waitIfAsked config s name report).Stays T := fun _ =>
    (within_waitIfAsked hname).stays (by decide)
  cases d with
  | noOp => exact stays_pure o
  | create => exact stays_startContainer hs hvolumes
  | recreate =>
    refine stays_bind (stays_discard ((Worker.within_ensureImage hs).stays (by decide))) fun _ => ?_
    refine stays_bind (hrecord _) fun _ => ?_
    refine stays_bind (stays_discard ((Worker.within_stopContainer hs).stays (by decide))) fun _ => ?_
    refine stays_bind (stays_discard ((Worker.within_removeContainer hs).stays (by decide))) fun _ => ?_
    exact stays_startContainer hs hvolumes
  | restart =>
    refine stays_bind (hrecord _) fun _ => ?_
    refine stays_bind ((Worker.within_restartContainer hs).stays (by decide)) fun report => ?_
    exact stays_bind (hwait report) fun _ => stays_pure _
  | startOnly =>
    refine stays_bind ((within_startExisting hname).stays (by decide)) fun report => ?_
    exact stays_bind (hwait report) fun _ => stays_pure _

theorem within_stopAndRemove (hs : T.Holds s) :
    (stopAndRemove s).AsksWithin T.toScope [.look, .takeDown, .restart] := by
  refine asks_ofExcept_bind fun name hname => ?_
  have hname : T.container name := hs.container name (Spec.requireName_eq_ok.1 hname)
  refine asks_bind ((Worker.within_inspect hname).mono (by decide)) fun info => ?_
  split
  · exact asks_pure _
  · exact asks_bind (asks_discard (Worker.within_stopContainer hs)) fun _ =>
      asks_bind (asks_discard ((Worker.within_removeContainer hs).mono (by decide))) fun _ => asks_pure _

end Reconcile

namespace Reconciler

variable {r : Reconciler} {a : Action}

theorem stays_perform (hv : s.validateFor a = .ok ()) : (r.perform a s).Stays (a.targets s) := by
  have hs := a.targets_holds s
  cases a with
  | compareContainer => exact stays_bind ((Reconcile.within_assess hs).stays (by decide)) fun _ => stays_pure _
  | compareImage => exact (Reconcile.within_compareImage hs).stays (by decide)
  | createVolume =>
    refine stays_ofExcept_bind fun name hname => ?_
    refine stays_bind (Worker.stays_createVolume ?_) fun _ => stays_pure _
    exact .inl ⟨rfl, Spec.requireName_eq_ok.1 hname⟩
  | ensureImage => exact stays_bind ((Worker.within_ensureImage hs).stays (by decide)) fun _ => stays_pure _
  | pullImage => exact stays_bind ((Worker.within_pullImage hs).stays (by decide)) fun _ => stays_pure _
  | recreateOrRestartContainer =>
    obtain ⟨name, hname⟩ := Spec.name_of_validateFor hv rfl
    rw [perform_recreate hname]
    refine stays_bind ((Reconcile.within_assess hs).stays (by decide)) fun assessment => ?_
    exact Reconcile.stays_carryOut hs hname fun n hn => .inr ⟨.inr rfl, hn⟩
  | removeContainer =>
    exact stays_bind ((Worker.within_removeContainer hs).stays (by decide)) fun _ => stays_pure _
  | removeImage =>
    refine stays_bind (stays_of_asks (Worker.asks_removeImage ?_)) fun _ => stays_pure _
    exact fun reference h => ⟨rfl, h⟩
  | removeVolume =>
    refine stays_ofExcept_bind fun name hname => ?_
    refine stays_bind (stays_of_asks (Worker.asks_removeVolume ?_)) fun _ => stays_pure _
    exact ⟨rfl, Spec.requireName_eq_ok.1 hname⟩
  | restartContainer =>
    exact stays_bind ((Worker.within_restartContainer hs).stays (by decide)) fun _ => stays_pure _
  | startContainer =>
    refine stays_ofExcept_bind fun _ _ => ?_
    exact Reconcile.stays_startContainer hs fun n hn => .inr ⟨.inl rfl, hn⟩
  | stopContainer =>
    exact stays_bind ((Worker.within_stopContainer hs).stays (by decide)) fun _ => stays_pure _
  | stopAndRemoveContainer => exact (Reconcile.within_stopAndRemove hs).stays (by decide)

/-- In every state of an engine in memory that hides no volume, an invocation touches nothing but its targets,
whether it succeeds or fails. -/
theorem touches_only_its_target (r : Reconciler) (a : Action) (s : Spec) (w : World) (h : w.SeesVolumes) :
    w.TouchesOnly (a.targets s) ((r.run a s).runIn w).2 := by
  have hrun : (r.run a s).Stays (a.targets s) := by
    refine stays_ofExcept_bind fun u hv => ?_
    cases u
    exact stays_bind (stays_collectNotes (stays_perform hv)) fun p => stays_pure _
  exact hrun w h

end Reconciler

/-! ### A replacement that fails half way -/

/-- A container on Podman with two named volumes. -/
def storedSpec : Spec :=
  { name := some "web", image := some "nginx", engine := .podman, volumes := [.bind "logs:/logs", .bind "data:/data"] }

/-- A world with another container and another image of the same, in which the second look for a volume fails. -/
def stockedWorld : World where
  engine := {
    images := .ofList [("nginx", { id := "new" }), ("postgres", { id := "db" })]
    containers := .ofList [("db", .ofFields [("Image", .str "db")]), ("web", .ofFields [("Image", .str "old")])]
    volumes := .ofList [("spare", ⟨"spare", "local", "", ∅⟩)] }
  faults := .ofList [("inspect_volume", [none, some ⟨some 500, "busy"⟩])]

theorem stockedWorld_seesVolumes : stockedWorld.SeesVolumes := by
  rintro f ⟨queue, hqueue, hf⟩
  rw [stockedWorld, Dict.get?_ofList] at hqueue
  rw [← Option.some.inj hqueue] at hf
  rcases List.mem_cons.1 hf with ⟨⟨⟩⟩ | hf
  rw [Option.some.inj (List.mem_singleton.1 hf)]
  rfl

theorem touches_only_its_target_stockedWorld : stockedWorld.SeesVolumes ∧
    stockedWorld.TouchesOnly (Action.recreateOrRestartContainer.targets storedSpec)
      (((Reconciler.ofSpec storedSpec {} .path).run .recreateOrRestartContainer storedSpec).runIn stockedWorld).2 :=
  ⟨stockedWorld_seesVolumes, Reconciler.touches_only_its_target _ _ _ _ stockedWorld_seesVolumes⟩

end Shipshape
