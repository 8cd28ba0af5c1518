import Shipshape.Proofs.Reconcile.Configuration
import Shipshape.Proofs.Reconcile.Outcome

/-!
# Starts that are left to somebody else

A specification may leave the start of its container to somebody else: it does not wait, and it defers the start
or asks for none. `start_flags_honoured_iff`: bringing the container up then starts nothing, against any
environment, and neither does bringing it to its specification unless it decides on a restart, with one
exception: a container that is found to differ in nothing but its state is started all the same
(`StartsAnyway`).

Proof outline. Without a restart and without that decision only calls of the kinds `startless` are made
(`asks_carryOut_elsewhere`), and such calls leave a history without starts. A run of the exception is
put together from an assessment that decides on the start and the start itself (`StartsAnyway.mayStart`);
that it decides on nothing else holds because a run decides once (`Decides.unique`).
-/

namespace Shipshape

open Procedure

/-- The start of the container is left to somebody else. -/
def Spec.StartsElsewhere (s : Spec) : Prop := s.wait = false ∧ (s.deferStart = true ∨ s.start = false)

/-- Some container can be found to differ in nothing but its state. -/
def Comparator.FindsIdle (c : Comparator) (s : Spec) : Prop :=
  ∃ live image d, (s.image = none → image = none) ∧ c.compare s live image = .ok d ∧ d.1.keys = [.state]

def History.Starts (t : History) : Prop := ∃ name, Call.engine (.startContainer name) ∈ t.calls

namespace Reconciler

/-- A history begins with an assessment that decides like this. -/
def Decides (r : Reconciler) (s : Spec) (d : Decision) (t : History) : Prop :=
  ∃ before after a, t = before ++ after ∧
    Program.Run (Reconcile.assess r.comparator s).run before (.ok a) ∧ a.decision = d

/-- The invocations that start a container although its start is left to somebody else. -/
structure StartsAnyway (r : Reconciler) (a : Action) (s : Spec) : Prop where
  action : a = .recreateOrRestartContainer
  elsewhere : s.StartsElsewhere
  named : ∃ name, s.name = some name
  wanted : s.state = .running ∨ s.state = .started
  idle : r.comparator.FindsIdle s

theorem Decides.unique {r : Reconciler} {s : Spec} {d d' : Decision} {t : History} (h : r.Decides s d t)
    (h' : r.Decides s d' t) : d = d' := by
  obtain ⟨before, after, a, rfl, hrun, rfl⟩ := h
  obtain ⟨before', after', a', hsame, hrun', rfl⟩ := h'
  obtain ⟨-, ha⟩ := hrun.unique hrun' hsame
  injection ha with ha
  rw [ha]

end Reconciler

/-! ### Calls that start nothing -/

/-- The kinds of calls that bring a container up without starting it. -/
def startless : List CallKind := [.look, .probe, .storage, .fetch, .create, .wait, .takeDown, .restart]

theorem Procedure.AsksKinds.keeps_noStart {α : Type} {p : Procedure α} (hp : p.AsksKinds startless) :
    p.Keeps fun t => ¬ t.Starts := by
  refine Asks.keeps hp ?_ ?_
  · rintro h c answer hc hnone ⟨name, hname⟩
    rw [History.calls_append] at hname
    rcases List.mem_append.1 hname with hname | hlast
    · exact hnone ⟨name, hname⟩
    · rw [← List.mem_singleton.1 hlast] at hc
      exact absurd hc (of_decide_eq_false rfl)
  · rintro h ms hnone ⟨name, hname⟩
    rw [History.calls_append] at hname
    exact (List.mem_append.1 hname).elim (fun h => hnone ⟨name, h⟩) nofun

theorem Procedure.AsksKinds.not_starts {α : Type} {p : Procedure α} (hp : p.AsksKinds startless) {t : History}
    {result : Except Error α} (h : Program.Run p.run t result) : ¬ t.Starts := by
  have hafter := hp.keeps_noStart [] (by rintro ⟨name, ⟨⟩⟩) t result h
  cases result with
  | ok a => exact hafter
  | error e => exact hafter

namespace Reconcile

variable {c : Comparator} {config : Config} {s : Spec} {name : String} {o : Outcome}

theorem startRequested_of_elsewhere (hs : s.StartsElsewhere) : startRequested s = false := by
  obtain ⟨hwait, hflags⟩ := hs
  rw [startRequested, hwait]
  rcases hflags with hdefer | hstart
  · simp [hdefer]
  · simp [hstart]

theorem asks_bringUp_elsewhere (hs : s.StartsElsewhere) {info : Option Inspection} :
    (bringUp config s name info o).AsksKinds startless := by
  refine asks_bringUp_of (fun hrequested => ?_) (fun hwait => ?_) fun _ _ =>
    (within_collectRun (Scope.holds_all s) trivial).kinds.mono (by decide)
  · rw [startRequested_of_elsewhere hs] at hrequested
    cases hrequested
  · rw [hs.1] at hwait
    cases hwait

theorem asks_startContainer_elsewhere (hs : s.StartsElsewhere) :
    (startContainer c config s o).AsksKinds startless := by
  rw [startContainer_eq]
  refine asks_bind (asks_ofExcept _) fun name => ?_
  refine asks_bind ((within_ensureImageNoted (Scope.holds_all s)).kinds.mono (by decide)) fun pulled => ?_
  refine asks_bind (asks_ensureContainer.mono (by decide)) ?_
  rintro ⟨info, made⟩
  exact asks_bringUp_elsewhere hs

/-- Of what can be decided, only a restart and a mere start start anything. -/
theorem asks_carryOut_elsewhere (hs : s.StartsElsewhere) {d : Decision} (hrestart : d ≠ .restart)
    (hstart : d ≠ .startOnly) : (carryOut c config s name d o).AsksKinds startless := by
  cases d with
  | noOp => exact asks_pure o
  | create => exact asks_startContainer_elsewhere hs
  | recreate =>
    refine asks_bind (asks_discard (Worker.asks_ensureImage.mono (by decide))) fun _ =>
      asks_bind (asks_record _) fun _ => ?_
    refine asks_bind (asks_discard (Worker.asks_stopContainer.mono (by decide))) fun _ => ?_
    exact asks_bind (asks_discard (Worker.asks_removeContainer.mono (by decide))) fun _ =>
      asks_startContainer_elsewhere hs
  | restart => exact absurd rfl hrestart
  | startOnly => exact absurd rfl hstart

/-! ### The decision to start and do nothing else -/

theorem decide_eq_startOnly_iff {drift : Option Drift} {configChanged : Bool} {strategy : Option String}
    {state : DesiredState} : Decision.decide drift configChanged strategy state = .startOnly ↔
      (state = .running ∨ state = .started) ∧ configChanged = false ∧
        ∃ d, drift = some d ∧ d.needsRecreate = false ∧ d.keys = [.state] := by
  cases drift with
  | none => simp [Decision.decide]
  | some d =>
    have hchanged : d.keys = [.state] → d.changed = true := fun h =>
      Drift.changed_iff.2 ⟨.state, by rw [h]; exact List.mem_singleton.2 rfl⟩
    rw [Decision.decide]
    cases hneeds : d.needsRecreate with
    | true => simp [hneeds]
    | false =>
      cases hd : d.changed with
      | true => cases configChanged <;> simp [hneeds, Drift.only, and_comm]
      | false =>
        have hkeys : d.keys ≠ [.state] := fun h => by simp [hchanged h] at hd
        simp only [hkeys, and_false, exists_eq_left', Option.some.injEq, iff_false]
        cases configChanged with
        | false => simp
        | true => by_cases hs : strategy = some Decision.copyAlways <;> simp [hs]

theorem yields_assess : (assess c s).Yields fun a => a.decision = .startOnly →
    (s.state = .running ∨ s.state = .started) ∧ c.FindsIdle s := by
  refine yields_bind fun _ => yields_bind fun name => yields_bind fun info => ?_
  cases info with
  | none => exact yields_bind fun _ => yields_pure nofun
  | some live =>
    refine yields_bind_of yields_compareWith fun d hd => ?_
    obtain ⟨image, notes, himage, hcompare⟩ := hd
    have hdecision : ∀ configChanged unitChanged : Bool,
        Decision.decide (some d) (configChanged || unitChanged) s.configStrategy? s.state = .startOnly →
          (s.state = .running ∨ s.state = .started) ∧ c.FindsIdle s := by
      intro configChanged unitChanged h
      obtain ⟨hwanted, -, _, ⟨⟩, -, hkeys⟩ := decide_eq_startOnly_iff.1 h
      exact ⟨hwanted, live, image, (d, notes), himage, hcompare, hkeys⟩
    refine yields_ite fun configChanged => yields_when fun _ => yields_bind fun unitChanged => ?_
    exact yields_when fun _ => yields_bind fun _ => yields_pure (hdecision configChanged unitChanged)

end Reconcile

namespace Reconciler

variable {r : Reconciler} {a : Action} {s : Spec} {t : History} {name : String}

theorem cases_of_recreate {result : Except Error Outcome} (hname : s.name = some name)
    (h : Program.Run (r.perform .recreateOrRestartContainer s).run t result) :
    (∃ e, result = .error e ∧ Program.Run (Reconcile.assess r.comparator s).run t (.error e)) ∨
      ∃ before after a, t = before ++ after ∧ Program.Run (Reconcile.assess r.comparator s).run before (.ok a) ∧
        Program.Run (Reconcile.carryOut r.comparator r.config s name a.decision a.outcome).run after result := by
  rw [perform_recreate hname] at h
  obtain ⟨before, after, a, rfl, hassess, hcarry⟩ := Program.run_bind_iff.1 h
  cases a with
  | ok a => exact .inr ⟨before, after, a, rfl, hassess, hcarry⟩
  | error e =>
    obtain ⟨rfl, rfl⟩ := Program.run_done_iff.1 hcarry
    rw [List.append_nil]
    exact .inl ⟨e, rfl, hassess⟩

theorem not_starts_of_recreate (hs : s.StartsElsewhere) (hname : s.name = some name)
    (hany : ¬ r.StartsAnyway .recreateOrRestartContainer s) {result : Except Error Outcome}
    (hr : Program.Run (r.perform .recreateOrRestartContainer s).run t result) (hd : ¬ r.Decides s .restart t) :
    ¬ t.Starts := by
  rcases cases_of_recreate hname hr with ⟨e, -, hassess⟩ | ⟨before, after, a, rfl, hassess, hcarry⟩
  · exact (Reconcile.asks_assess.mono (by decide)).not_starts hassess
  · have hrestart : a.decision ≠ .restart := fun h => hd ⟨before, after, a, rfl, hassess, h⟩
    have hstart : a.decision ≠ .startOnly := by
      intro h
      obtain ⟨hwanted, hidle⟩ := Reconcile.yields_assess.of_run hassess h
      exact hany ⟨rfl, hs, ⟨name, hname⟩, hwanted, hidle⟩
    have hbefore := (Reconcile.asks_assess.mono (by decide)).not_starts hassess
    have hafter := (Reconcile.asks_carryOut_elsewhere hs hrestart hstart).not_starts hcarry
    rintro ⟨n, hn⟩
    rw [History.calls_append] at hn
    exact (List.mem_append.1 hn).elim (fun h => hbefore ⟨n, h⟩) fun h => hafter ⟨n, h⟩

/-- The exception: some run decides on a mere start, and starts. -/
theorem StartsAnyway.mayStart (h : r.StartsAnyway a s) :
    ∃ t result, Program.Run (r.perform a s).run t result ∧ r.Decides s .startOnly t ∧ t.Starts := by
  obtain ⟨rfl, ⟨hwait, -⟩, ⟨name, hname⟩, hwanted, live, image, d, himage, hd, hkeys⟩ := h
  have hstate : .state ∈ d.1.keys := by rw [hkeys]; exact List.mem_singleton.2 rfl
  have hneeds : d.1.needsRecreate = false := by
    by_contra hneeds
    have huser := Comparator.user_of_needsRecreate hd (by simpa using hneeds)
    rw [hkeys] at huser
    exact absurd huser (by decide)
  have hdecision : Decision.decide (some d.1) false s.configStrategy? s.state = .startOnly :=
    Reconcile.decide_eq_startOnly_iff.2 ⟨hwanted, rfl, d.1, rfl, hneeds, hkeys⟩
  obtain ⟨before, -, hassess⟩ := Reconcile.mayReturn_assess hname himage hd (Drift.changed_iff.2 ⟨_, hstate⟩) false
  rw [hdecision] at hassess
  have hstart : ∀ o, ∃ o', Program.Run
      (Reconcile.carryOut r.comparator r.config s name .startOnly o).run
      [.answered (.engine (.startContainer name)) (.ok ())] (.ok o') := by
    have hwaits : ∀ report, Reconcile.waitIfAsked r.config s name report = pure report := by
      intro report
      rw [Reconcile.waitIfAsked, if_neg (by simp [hwait])]
    intro o
    simp only [Reconcile.carryOut, hwaits]
    exact ⟨_, Program.Run.call (c := .engine (.startContainer name)) (.ok ()) (.note (.done _))⟩
  obtain ⟨o, hcarry⟩ := hstart (Assessment.outcome ⟨some live, some d.1, false, false, .startOnly⟩)
  refine ⟨before ++ [.answered (.engine (.startContainer name)) (.ok ())], .ok o, ?_,
    ⟨before, _, _, rfl, hassess, rfl⟩, name, ?_⟩
  · rw [perform_recreate hname]
    exact Program.run_bind_iff.2 ⟨before, _, _, rfl, hassess, hcarry⟩
  · rw [History.calls_append]
    exact List.mem_append_right _ (List.mem_singleton.2 rfl)

theorem StartsAnyway.exists_run (h : r.StartsAnyway a s) : ∃ t result,
    Program.Run (r.run a s).run t result ∧ ¬ r.Decides s .restart t ∧ t.Starts := by
  have hv : s.validateFor a = .ok () := by
    refine Spec.validateFor_eq_ok (fun himage => ?_) fun _ => h.named
    rw [h.action] at himage
    cases himage
  by_contra hnone
  have hruns : (r.run a s).Ensures [] (fun _ t => ¬ (¬ r.Decides s .restart t ∧ t.Starts))
      fun _ t => ¬ (¬ r.Decides s .restart t ∧ t.Starts) :=
    ensures_iff_forall_run.2 fun t result hr hstarts => hnone ⟨t, result, hr, hstarts⟩
  rw [ensures_run, hv] at hruns
  obtain ⟨t, result, hr, hstart, hstarts⟩ := h.mayStart
  exact ensures_iff_forall_run.1 hruns t result hr ⟨fun hd => absurd (hd.unique hstart) nofun, hstarts⟩

/-- Where the start is left to somebody else, neither bringing a container up nor bringing it to its
specification without a restart starts anything, against every environment, exactly in the invocations that cannot
find a container differing in its state alone. -/
theorem start_flags_honoured_iff (r : Reconciler) (a : Action) (s : Spec) :
    (s.StartsElsewhere → (a = .startContainer ∨ a = .recreateOrRestartContainer) →
      ∀ t result, Program.Run (r.run a s).run t result →
        ¬ (a = .recreateOrRestartContainer ∧ r.Decides s .restart t) → ¬ t.Starts) ↔ ¬ r.StartsAnyway a s := by
  constructor
  · intro h hany
    obtain ⟨t, result, hr, hd, hstarts⟩ := hany.exists_run
    exact h hany.elsewhere (.inr hany.action) t result hr (fun hrestart => hd hrestart.2) hstarts
  · intro hany hs ha
    refine ensures_iff_forall_run.1 (ensures_run.2 ?_)
    cases hv : s.validateFor a with
    | error e => exact fun _ => by rintro ⟨name, ⟨⟩⟩
    | ok _ =>
      refine ensures_iff_forall_run.2 fun t result hr hd => ?_
      rcases ha with rfl | rfl
      · have hasks : (r.perform .startContainer s).AsksKinds startless :=
          asks_bind (asks_ofExcept _) fun _ => Reconcile.asks_startContainer_elsewhere hs
        exact hasks.not_starts hr
      · obtain ⟨name, hname⟩ := Spec.name_of_validateFor hv rfl
        exact not_starts_of_recreate hs hname hany hr fun h => hd ⟨rfl, h⟩

end Reconciler

/-! ### A container that is to be started by somebody else -/

/-- A specification that leaves the start to somebody else. -/
def deferredSpec : Spec := { name := some "web", image := some "nginx", deferStart := true }

/-- Its container as it is left when it is created. -/
def createdLive : Inspection := ⟨.ofFields [("Image", .str "new"), ("Config", .ofFields [("Image", .str "nginx")]),
  ("State", .ofFields [("Status", .str "created")])]⟩

theorem deferredSpec_startsAnyway :
    (Reconciler.ofSpec deferredSpec {} .path).StartsAnyway .recreateOrRestartContainer deferredSpec := by
  refine ⟨rfl, ⟨rfl, .inl rfl⟩, ⟨"web", rfl⟩, .inl rfl, createdLive, some { id := "new" }, ?_⟩
  have hkeys : ((Comparator.ofSpec deferredSpec .path).compare deferredSpec createdLive
      (some { id := "new" })).toOption.map (·.1.keys) = some [.state] := by decide +kernel
  cases hd : (Comparator.ofSpec deferredSpec .path).compare deferredSpec createdLive (some { id := "new" }) with
  | ok d =>
    rw [hd] at hkeys
    injection hkeys with hkeys
    exact ⟨d, nofun, hd, hkeys⟩
  | error e =>
    rw [hd] at hkeys
    cases hkeys

/-- A container whose start was deferred is started when it is brought to its specification. -/
theorem started_though_deferred : ¬ ∀ (r : Reconciler) (a : Action) (s : Spec), s.StartsElsewhere →
    (a = .startContainer ∨ a = .recreateOrRestartContainer) →
      ∀ t result, Program.Run (r.run a s).run t result →
        ¬ (a = .recreateOrRestartContainer ∧ r.Decides s .restart t) → ¬ t.Starts := by
  intro hclaim
  have hany := deferredSpec_startsAnyway
  obtain ⟨t, result, hr, hd, hstarts⟩ := hany.exists_run
  exact hclaim _ _ _ hany.elsewhere (.inr rfl) t result hr (fun hrestart => hd hrestart.2) hstarts

end Shipshape
