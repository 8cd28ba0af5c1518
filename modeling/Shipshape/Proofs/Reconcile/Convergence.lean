import Shipshape.Proofs.Reconcile.Assessment
import Shipshape.Proofs.Reconcile.Outcome

/-!
# Convergence in one step

`converges_iff`: in a calm world without the container, an invocation that returned leaves a world in which
the same invocation has nothing to do (`Reconciler.NoOpIn`), exactly if there was a local image or one was
fetched under its reference, and the specification settles (`Spec.Settles`).

Proof outline. The first invocation leaves a container that was made from the request
(`knows_of_startContainer`), and the second one assesses it (`settles_of_runIn_assess`). An assessment only
looks, so without drift nothing has changed (`untouched_of_asks`). With drift something is done, and said to be
(`yields_carryOut_assessment`).
-/

namespace Shipshape

/-- In between nothing was asked for that changes anything, and containers, images and volumes are as they were,
apart from containers that have turned healthy. -/
structure World.Untouched (w w' : World) : Prop where
  calls : ∃ asked, w'.calls = asked ++ w.calls ∧ ∀ c ∈ asked, c.isMutating = false
  engine : w.engine.SameButHealth w'.engine

/-- In this world the invocation has nothing to do: it says so, and leaves the world untouched. -/
def Reconciler.NoOpIn (r : Reconciler) (s : Spec) (w : World) : Prop :=
  ∃ o w', (r.run .recreateOrRestartContainer s).runIn w = (.ok o, w') ∧ o.changed = false ∧ o.diff = none ∧
    w.Untouched w'

open Procedure World

/-! ### Looking -/

namespace World

variable {w w' w'' : World}

theorem Untouched.refl (w : World) : w.Untouched w :=
  ⟨⟨[], rfl, fun c hc => by cases hc⟩, .refl _⟩

theorem Untouched.trans (h : w.Untouched w') (h' : w'.Untouched w'') : w.Untouched w'' := by
  obtain ⟨asked, hcalls, hlooks⟩ := h.calls
  obtain ⟨asked', hcalls', hlooks'⟩ := h'.calls
  refine ⟨⟨asked' ++ asked, ?_, fun c hc => ?_⟩, h.engine.trans h'.engine⟩
  · rw [hcalls', hcalls, List.append_assoc]
  · rcases List.mem_append.1 hc with hc | hc
    · exact hlooks' c hc
    · exact hlooks c hc

theorem untouched_answer {c : Call} (hc : c.kind ∈ [CallKind.look, .probe]) (h : w.faults = ∅) :
    (w.answer c).2.faults = ∅ ∧ w.Untouched (w.answer c).2 := by
  have hlooks : ∀ c' ∈ [c], c'.isMutating = false := by
    intro c' hc'
    rw [List.mem_singleton.1 hc']
    exact Call.isMutating_of_look hc
  cases c with
  | hostPath path => exact absurd hc (of_decide_eq_false rfl)
  | unit c n => exact ⟨h, ⟨_, rfl, hlooks⟩, .refl _⟩
  | engine c =>
    rw [answer_engine h]
    refine ⟨h, ⟨_, rfl, hlooks⟩, ?_⟩
    cases c with
    | inspectContainer n => exact (MemoryEngine.looked_inspectContainer w.engine n).toSameButHealth
    | inspectImage n => exact .refl _
    | logs n stream tail => exact .refl _
    | exec n argv user => exact MemoryEngine.sameButHealth_exec w.engine
    | _ => exact absurd hc (of_decide_eq_false rfl)

/-- What only looks leaves the world untouched. -/
theorem untouched_of_asks {α : Type} {p : Procedure α} (hp : p.AsksKinds [.look, .probe])
    {result : Except Error α} (h : w.faults = ∅) (hrun : p.runIn w = (result, w')) : w.Untouched w' := by
  have hafter := Asks.runIn hp (I := fun v => v.faults = ∅ ∧ w.Untouched v)
    (fun v c hc hv => ?_) (fun v ms hv => ⟨hv.1, hv.2.calls, hv.2.engine⟩) ⟨h, .refl w⟩
  · rw [hrun] at hafter
    exact hafter.2
  · obtain ⟨hfaults, huntouched⟩ := untouched_answer hc hv.1
    exact ⟨hfaults, hv.2.trans huntouched⟩

end World

variable {s : Spec} {m : VolumeMatch} {name reference : String} {image : Option Image} {w w' : World}
  {r : ContainerRequest}

/-! ### Having nothing to do -/

namespace Reconcile

variable {c : Comparator} {config : Config}

theorem noOp_of_recreateOrRestart {o : Outcome} (h : (recreateOrRestart c config s).runIn w = (.ok o, w'))
    (ho : o.changed = false) : ∃ a w₁, (assess c s).runIn w = (.ok a, w₁) ∧ a.decision = .noOp := by
  obtain ⟨name, -, h⟩ := runIn_ofExcept_bind_eq_ok.1 h
  obtain ⟨a, w₁, hassess, h⟩ := runIn_bind_eq_ok.1 h
  have hsame := (yields_carryOut_assessment a).runIn h
  refine ⟨a, w₁, hassess, Assessment.changed_eq_false_iff.1 ?_⟩
  rw [← changed_outcome, ← hsame.changed, ho]

theorem runIn_recreateOrRestart_noOp {a : Assessment} (hname : s.name = some name)
    (hassess : (assess c s).runIn w = (.ok a, w')) (hnoOp : a.decision = .noOp) :
    (recreateOrRestart c config s).runIn w = (.ok a.outcome, w') := by
  have hrequired : s.requireName .recreateOrRestartContainer = .ok name := Spec.requireName_eq_ok.2 hname
  rw [recreateOrRestart, hrequired, runIn_bind_ok (runIn_ofExcept _ _), runIn_bind_ok hassess, hnoOp]
  rfl

theorem startContainer_of_recreateOrRestart {o : Outcome} (hname : s.name = some name)
    (hk : Knows name reference (· = none) image w)
    (h : (recreateOrRestart c config s).runIn w = (.ok o, w')) : s.validate = .ok () ∧
      ∃ o₁ w₁, (startContainer c config s o₁).runIn w₁ = (.ok o, w') ∧ w.engine.Looked w₁.engine ∧
        Knows name reference (· = none) image w₁ := by
  obtain ⟨_, -, h⟩ := runIn_ofExcept_bind_eq_ok.1 h
  obtain ⟨a, w₁, hassess, h⟩ := runIn_bind_eq_ok.1 h
  obtain ⟨_, hvalid, -⟩ := runIn_ofExcept_bind_eq_ok.1 hassess
  obtain ⟨w₂, habsent, hlooked, hk₂⟩ := runIn_assess_absent (c := c) hvalid hname hk
  rw [habsent] at hassess
  injection hassess with ha hw
  injection ha with ha
  subst ha hw
  exact ⟨hvalid, _, w₂, h, hlooked, hk₂⟩

end Reconcile

/-! ### Invocations -/

namespace Reconciler

variable {config : Config} {o : Outcome}

theorem runIn_run {r : Reconciler} {a : Action} (hv : s.validateFor a = .ok ()) :
    ∃ debug, (r.run a s).runIn w =
      (((r.perform a s).runIn w).1.map fun o => { o with debug }, ((r.perform a s).runIn w).2) := by
  obtain ⟨notes, hcollect⟩ := runIn_collectNotes (r.perform a s) w
  refine ⟨((Trace.empty (r.verbosity s)).pushAll notes).lines, ?_⟩
  rw [run, hv, runIn_bind_ok (runIn_ofExcept _ _), runIn_bind, hcollect]
  cases ((r.perform a s).runIn w).1 with
  | ok o => rfl
  | error e => rfl

theorem perform_of_runIn_run {r : Reconciler} {a : Action} (h : (r.run a s).runIn w = (.ok o, w')) :
    s.validateFor a = .ok () ∧
      ∃ o₁ debug, (r.perform a s).runIn w = (.ok o₁, w') ∧ o = { o₁ with debug } := by
  obtain ⟨_, hv, -⟩ := runIn_ofExcept_bind_eq_ok.1 h
  obtain ⟨debug, hrun⟩ := runIn_run (w := w) (r := r) hv
  rw [h] at hrun
  refine ⟨hv, ?_⟩
  generalize (r.perform a s).runIn w = performed at hrun ⊢
  obtain ⟨result, w₁⟩ := performed
  injection hrun with ho hw
  subst hw
  cases result with
  | error e => cases ho
  | ok o₁ =>
    injection ho with ho
    exact ⟨o₁, debug, rfl, ho⟩

/-- In a calm world without the container, an invocation that returned leaves a world in which it has nothing to
do, exactly if the image was there or was fetched under its reference, and the specification settles. -/
theorem converges_iff (hname : s.name = some name) (hdetach : s.detach = true) (hcalm : w.Calm)
    (habsent : w.engine.containers.get? name = none)
    (hrun : ((ofSpec s config m).run .recreateOrRestartContainer s).runIn w = (.ok o, w')) :
    (ofSpec s config m).NoOpIn s w' ↔ ∃ image, w.localImage? s = some image ∧ s.Settles m image := by
  obtain ⟨hv, o₁, -, hperform, -⟩ := perform_of_runIn_run hrun
  have hknows : ∀ reference, Knows name reference (· = none) (w.engine.images.get? reference) w :=
    fun reference => ⟨hcalm, habsent, rfl⟩
  -- no reference is known yet; any one will do to see that the specification has one
  obtain ⟨-, o₂, w₂, hstart, -, hk₂⟩ :=
    Reconcile.startContainer_of_recreateOrRestart hname (hknows "") hperform
  obtain ⟨reference, himage⟩ := Reconcile.image_of_startContainer hk₂ hname hstart
  obtain ⟨hvalid, o₃, w₃, hstart, hlooked, hk₃⟩ :=
    Reconcile.startContainer_of_recreateOrRestart hname (hknows reference) hperform
  obtain ⟨r, hrequest, hk'⟩ := Reconcile.knows_of_startContainer hk₃ hname himage hdetach hstart
  rw [localImage?_of_looked hlooked] at hk'
  constructor
  · -- only that the second invocation says to have changed nothing is needed
    rintro ⟨o', w'', hrun', hsame, -⟩
    obtain ⟨-, o₄, debug, hperform', rfl⟩ := perform_of_runIn_run hrun'
    obtain ⟨a, w₄, hassess, hnoOp⟩ := Reconcile.noOp_of_recreateOrRestart hperform' hsame
    exact Reconcile.settles_of_runIn_assess hvalid hname himage hrequest hk' hassess hnoOp
  · rintro ⟨i, hi, hsettles⟩
    obtain ⟨info, w'', hassess⟩ :=
      Reconcile.runIn_assess_of_settles hvalid hname himage hrequest hk' hi hsettles
    obtain ⟨debug, hrun'⟩ := runIn_run (w := w') (r := ofSpec s config m) hv
    have hperform' : ((ofSpec s config m).perform .recreateOrRestartContainer s).runIn w' = _ :=
      Reconcile.runIn_recreateOrRestart_noOp hname hassess rfl
    rw [hperform'] at hrun'
    exact ⟨_, w'', hrun', rfl, rfl, untouched_of_asks Reconcile.asks_assess hk'.faults hassess⟩

end Reconciler

/-! ### A container that converges, and one that does not -/

/-- A specification of which most attributes read back in another form. -/
def settledSpec : Spec :=
  { name := some "web"
    image := some "nginx:latest"
    command := some "nginx -g 'daemon off;'"
    environment := some (.entries ["MODE=fast"])
    volumes := [.bind "logs:/var/log/nginx"]
    tmpfs := ["/run:size=64m"]
    labels := .ofList [("tier", "front")]
    dimensions := .ofList [("mem_limit", .str "64m")]
    restartPolicy := some "always" }

/-- A world in which there is nothing but an image that can be fetched. -/
def nginxWorld : World := { engine := { registry := .ofList [("nginx:latest", { id := "new" })] } }

theorem nginxWorld_calm : nginxWorld.Calm :=
  ⟨rfl, rfl, rfl, ⟨{}, rfl, rfl⟩, by decide⟩

theorem settledSpec_settles : settledSpec.Settles .path { id := "new" } where
  labels := fun e he => by cases he
  cgroupnsMode := by decide
  tmpfs := by
    refine ⟨by decide, fun entry hentry _ path hsplit => ?_⟩
    rw [List.mem_singleton.1 hentry] at hsplit
    cases hsplit
  volumes := ⟨[⟨"logs", "/var/log/nginx", .readWrite, ""⟩], [⟨"logs", "/var/log/nginx", .readWrite, ""⟩],
    by decide +kernel, by decide +kernel, fun _ => Iff.rfl⟩
  environment := by
    intro declared h
    have hd : declared = .ofList [("MODE", "fast")] := by
      injection h with h
      rw [← h]
      decide +kernel
    subst hd
    refine ⟨by decide, fun name v _ hv => by cases hv⟩
  limits := by
    intro e _ v t n hv ht hn
    obtain ⟨hkey, rfl⟩ := Prod.mk.inj (List.mem_singleton.1 (Dict.mem_of_mem_ofList (Dict.get?_eq_some_iff.1 hv)))
    have htext : Dimension.canonicalText "mem_limit" (.str "64m") = .ok "67108864" := by decide +kernel
    have hread : Decimal.readSigned? "67108864".toList = some 67108864 := by decide +kernel
    rw [hkey, htext] at ht
    rw [← Except.ok.inj ht, hread] at hn
    rw [← Except.ok.inj ht, ← Option.some.inj hn]
    decide +kernel
  ulimits := fun _ v us hv => by cases hv
  command := fun _ _ _ _ _ he => by cases he
  healthcheck := fun h hh => by cases hh
  restartPolicy := .inr (by decide)
  state := .inl rfl

/-- How an invocation goes in a world. -/
def invoke (s : Spec) (w : World) : Except Error Outcome × World :=
  ((Reconciler.ofSpec s {} .path).run .recreateOrRestartContainer s).runIn w

theorem converges_iff_settledSpec : ∃ o w', invoke settledSpec nginxWorld = (.ok o, w') ∧
    (Reconciler.ofSpec settledSpec {} .path).NoOpIn settledSpec w' := by
  obtain ⟨o, w', hrun⟩ : ∃ o w', invoke settledSpec nginxWorld = (.ok o, w') := ⟨_, _, rfl⟩
  refine ⟨o, w', hrun, ?_⟩
  exact (Reconciler.converges_iff rfl rfl nginxWorld_calm rfl hrun).2 ⟨_, rfl, settledSpec_settles⟩

/-- A specification whose container is to be paused, which nothing does. -/
def pausedSpec : Spec := { name := some "web", image := some "nginx:latest", state := .paused }

/-- A container that is to be paused is made anew by every invocation. -/
theorem paused_never_converges : ¬ ∀ (s : Spec) (config : Config) (m : VolumeMatch) (w : World) (name : String)
    (o : Outcome) (w' : World), s.name = some name → s.detach = true → w.Calm →
      w.engine.containers.get? name = none →
        ((Reconciler.ofSpec s config m).run .recreateOrRestartContainer s).runIn w = (.ok o, w') →
          (Reconciler.ofSpec s config m).NoOpIn s w' := by
  intro hclaim
  obtain ⟨o, hrun⟩ : ∃ o, invoke pausedSpec nginxWorld = (.ok o, (invoke pausedSpec nginxWorld).2) := ⟨_, rfl⟩
  obtain ⟨o', w'', hagain, hsame, -⟩ := hclaim pausedSpec {} .path nginxWorld "web" o _ rfl rfl
    nginxWorld_calm rfl hrun
  have hchanged :
      (invoke pausedSpec (invoke pausedSpec nginxWorld).2).1.toOption.map (·.changed) = some true := by
    decide +kernel
  have hdone : (invoke pausedSpec (invoke pausedSpec nginxWorld).2).1 = .ok o' := congrArg Prod.fst hagain
  rw [hdone] at hchanged
  injection hchanged with hchanged
  cases hsame.symm.trans hchanged

end Shipshape
