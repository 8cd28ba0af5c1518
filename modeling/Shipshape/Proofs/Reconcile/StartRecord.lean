import Shipshape.Proofs.Memory.Run
import Shipshape.Proofs.Reconcile.StartFlags

/-!
# What is said about starts

An invocation says how its starts went: in its outcome, or in the report with which it fails if the container does
not come up. `start_record_truthful`: bringing a container up, or to its specification without a restart, it tells
of exactly the starts that were made, against any environment (`StartReport.TellsOf`).

Proof outline. The record is kept in three ways, and each tells of one start more (`TellsOf.succeeded`,
`TellsOf.selfStarted`, `TellsOf.failed`). The loop that waits carries the record along, so this is an induction on
its pauses (`ensures_pollUntil_record`). All other parts of an invocation neither start anything nor report on
the container (`ensures_startless`), and the first start finds an empty record.
-/

namespace Shipshape

open Procedure

/-! ### Starts and their record -/

/-- How the start in a step went: done, or failed with this text. -/
def Event.start? : Event → Option (Except String Unit)
  | answered (.engine (.startContainer name)) answer =>
    match answer with
    | .ok () => some (.ok ())
    | .error f => some (.error (Error.startFailed name f.explanation).message)
  | _ => none

namespace History

/-- How the starts of containers went, the first one first. -/
def starts (t : History) : List (Except String Unit) := t.filterMap Event.start?

/-- What the failed starts said. -/
def startFailures (t : History) : List String :=
  t.starts.filterMap fun
    | .ok () => none
    | .error text => some text

theorem starts_append (t t' : History) : starts (t ++ t') = t.starts ++ t'.starts := List.filterMap_append

theorem starts_eq_nil_of_not_starts {t : History} (h : ¬ t.Starts) : t.starts = [] := by
  refine List.filterMap_eq_nil_iff.2 fun e he => ?_
  unfold Event.start?
  split
  · next name answer =>
    exact absurd ⟨name, List.mem_filterMap.2 ⟨_, he, rfl⟩⟩ h
  · rfl

theorem startFailures_of_starts {t : History} (h : t.starts = []) : t.startFailures = [] := by
  rw [startFailures, h]
  rfl

end History

def FailureReport.startReport (f : FailureReport) : StartReport := ⟨f.startAttempted, f.startCode, f.startError⟩

/-- A record is true of the starts in a history. -/
structure StartReport.TellsOf (r : StartReport) (t : History) : Prop where
  attempted : r.attempted = true ↔ t.starts ≠ []
  codeNone : r.code = none ↔ t.starts = []
  codeOne : r.code = some 1 ↔ t.startFailures ≠ []
  codeZero : r.code = some 0 ↔ t.starts ≠ [] ∧ t.startFailures = []
  error : r.error = t.startFailures.getLast?.getD ""

namespace StartReport.TellsOf

variable {r : StartReport} {t t' : History}

theorem of_starts_eq (h : r.TellsOf t) (hstarts : t'.starts = t.starts) : r.TellsOf t' := by
  have hfailures : t'.startFailures = t.startFailures := by rw [History.startFailures, hstarts, History.startFailures]
  obtain ⟨hattempted, hnone, hone, hzero, herror⟩ := h
  rw [← hstarts] at hattempted hnone hzero
  rw [← hfailures] at hone hzero herror
  exact ⟨hattempted, hnone, hone, hzero, herror⟩

theorem append (h : r.TellsOf t) (hstarts : t'.starts = []) : r.TellsOf (t ++ t') :=
  h.of_starts_eq (by rw [History.starts_append, hstarts, List.append_nil])

theorem nil (hstarts : t.starts = []) : TellsOf {} t := by
  have hfailures := History.startFailures_of_starts hstarts
  constructor <;> simp [hstarts, hfailures]

/-- The first start. -/
theorem succeeded (h : r.TellsOf t) (hnone : t.starts = []) (hstarts : t'.starts = t.starts ++ [.ok ()]) :
    r.succeeded.TellsOf t' := by
  have hfailures : t'.startFailures = [] := by rw [History.startFailures, hstarts, hnone]; rfl
  have herror := h.error
  rw [History.startFailures_of_starts hnone] at herror
  constructor <;> simp [StartReport.succeeded, hstarts, hfailures, herror]

/-- A start on the way keeps in mind that an earlier one failed. -/
theorem selfStarted (h : r.TellsOf t) (hstarts : t'.starts = t.starts ++ [.ok ()]) : r.selfStarted.TellsOf t' := by
  have hfailures : t'.startFailures = t.startFailures := by
    rw [History.startFailures, hstarts, List.filterMap_append, History.startFailures]
    exact List.append_nil _
  have hcode : r.code.getD 0 = if t.startFailures = [] then 0 else 1 := by
    by_cases hnone : t.starts = []
    · rw [h.codeNone.2 hnone, if_pos (History.startFailures_of_starts hnone)]
      rfl
    · by_cases hfailed : t.startFailures = []
      · rw [h.codeZero.2 ⟨hnone, hfailed⟩, if_pos hfailed]
        rfl
      · rw [h.codeOne.2 hfailed, if_neg hfailed]
        rfl
  constructor <;> simp [StartReport.selfStarted, hstarts, hfailures, hcode, h.error]

/-- A failed start says it all: what was said before is written over. -/
theorem failed {text : String} (hstarts : t'.starts = t.starts ++ [.error text]) :
    (r.failed text).TellsOf t' := by
  have hfailures : t'.startFailures = t.startFailures ++ [text] := by
    rw [History.startFailures, hstarts, List.filterMap_append, History.startFailures]
    rfl
  constructor <;> simp [StartReport.failed, hstarts, hfailures]

end StartReport.TellsOf

abbrev Outcome.Honest (o : Outcome) (t : History) : Prop := o.start.TellsOf t

/-- An error that reports on a container is true of the starts before it. -/
abbrev Error.Honest (e : Error) (t : History) : Prop :=
  ∀ f, e.report? = some f → f.startReport.TellsOf t

theorem honest_of_unreported {e : Error} {t : History} (h : Worker.Unreported e) : e.Honest t := by
  intro f hf
  rw [h] at hf
  cases hf

/-! ### What does not start anything -/

namespace Procedure

variable {α β : Type} {p : Procedure α} {f : α → Procedure β} {h : History} {good : β → History → Prop}

/-- A part of an invocation that neither starts anything nor reports on the container. -/
structure Startless (p : Procedure α) : Prop where
  asks : p.AsksKinds startless
  raises : p.Raises Worker.Unreported

theorem Startless.ensures (hp : p.Startless) : p.Ensures h (fun _ h' => h'.starts = h.starts) Error.Honest := by
  intro t result hr
  have hstarts : History.starts (h ++ t) = h.starts := by
    rw [History.starts_append, History.starts_eq_nil_of_not_starts (hp.asks.not_starts hr), List.append_nil]
  cases result with
  | ok a => exact hstarts
  | error e => exact honest_of_unreported (hp.raises h t (.error e) hr)

theorem Startless.ensures_bind (hp : p.Startless)
    (hf : ∀ a h', h'.starts = h.starts → (f a).Ensures h' good Error.Honest) :
    (p >>= f).Ensures h good Error.Honest :=
  hp.ensures.bind hf

theorem Startless.discard (hp : p.Startless) : (discard p).Startless :=
  ⟨asks_discard hp.asks, raises_discard hp.raises⟩

theorem startless_ofExcept {x : Except Error α} (hx : OnlyRefuses x) : (ofExcept x).Startless :=
  ⟨asks_ofExcept x, Worker.unreported_ofExcept hx⟩

theorem startless_record (line : String) : (record line).Startless := ⟨asks_record line, raises_record line⟩

end Procedure

namespace Worker

variable {s : Spec} {name : String}

theorem startless_inspect : (inspect name).Startless :=
  ⟨asks_inspect.mono (by decide), unreported_of_foreign raises_inspect⟩

theorem startless_ensureImage : (ensureImage s).Startless :=
  ⟨asks_ensureImage.mono (by decide), unreported_of_foreign raises_ensureImage⟩

theorem startless_stopContainer (hname : s.name = some name) : (stopContainer s).Startless :=
  ⟨asks_stopContainer.mono (by decide), unreported_of_foreign (raises_stopContainer hname)⟩

theorem startless_removeContainer (hname : s.name = some name) : (removeContainer s).Startless :=
  ⟨asks_removeContainer.mono (by decide), unreported_of_foreign (raises_removeContainer hname)⟩

theorem startless_createContainer : (createContainer s).Startless :=
  ⟨asks_createContainer.mono (by decide), unreported_createContainer⟩

end Worker

namespace Reconcile

open Worker

variable {c : Comparator} {config : Config} {s : Spec} {name : String} {report : StartReport} {o : Outcome}
  {h : History}

theorem unreported_compareWith {info : Inspection} : (compareWith c s info).Raises Unreported := by
  refine raises_bind (unreported_of_foreign raises_checkImage) fun image => ?_
  refine raises_bind (unreported_ofExcept (c.onlyRefuses_compare info image)) fun found => ?_
  exact raises_bind (raises_notes _) fun _ => raises_pure _

theorem unreported_assess : (assess c s).Raises Unreported := by
  refine raises_bind (unreported_ofExcept onlyRefuses_validate) fun _ => ?_
  refine raises_bind (unreported_ofExcept (onlyRefuses_requireName _)) fun name => ?_
  refine raises_bind (unreported_of_foreign raises_inspect) fun info => ?_
  cases info with
  | none => exact raises_bind (raises_record _) fun _ => raises_pure _
  | some live =>
    refine raises_bind unreported_compareWith fun drift => ?_
    refine raises_ite unreported_configChanged (raises_pure false) fun configChanged => ?_
    refine raises_when (raises_record _) fun _ => raises_bind (raises_unit _ _) fun unitChanged => ?_
    exact raises_when (raises_record _) fun _ => raises_bind (raises_record _) fun _ => raises_pure _

theorem startless_assess : (assess c s).Startless := ⟨asks_assess.mono (by decide), unreported_assess⟩

theorem startless_ensureImageNoted : (ensureImageNoted s).Startless := by
  refine ⟨(within_ensureImageNoted (Scope.holds_all s)).kinds.mono (by decide), ?_⟩
  refine raises_bind (unreported_of_foreign raises_ensureImage) fun pulled => ?_
  exact raises_when (raises_record _) fun _ => raises_pure _

theorem unreported_replaceIfDrifted (hname : s.name = some name) {info : Inspection} :
    (replaceIfDrifted c s name info).Raises Unreported := by
  refine raises_bind unreported_compareWith fun drift => ?_
  split
  · refine raises_bind (raises_record _) fun _ => ?_
    refine raises_bind (startless_stopContainer hname).discard.raises fun _ => ?_
    exact raises_bind (startless_removeContainer hname).discard.raises fun _ => raises_pure false
  · exact raises_pure true

theorem startless_ensureContainer (hname : s.name = some name) : (ensureContainer c s name).Startless := by
  refine ⟨asks_ensureContainer.mono (by decide), ?_⟩
  have hmake : Raises Unreported (do
      discard (createContainer s)
      record ("created container " ++ name)
      return (← inspect name, true)) :=
    raises_bind startless_createContainer.discard.raises fun _ => raises_bind (raises_record _) fun _ =>
      raises_bind startless_inspect.raises fun _ => raises_pure _
  refine raises_bind startless_inspect.raises fun info => ?_
  cases info with
  | none => exact hmake
  | some live =>
    refine raises_bind (unreported_replaceIfDrifted hname) fun kept => ?_
    cases kept with
    | true => exact raises_pure _
    | false => exact hmake

theorem startless_collectRun (hname : s.name = some name) : (collectRun s name o).Startless := by
  refine ⟨(within_collectRun (Scope.holds_all s) trivial).kinds.mono (by decide), ?_⟩
  refine raises_bind (raises_engineOrFail fun _ => rfl) fun exitCode => ?_
  refine raises_bind (raises_engineOrFail fun _ => rfl) fun out => ?_
  refine raises_bind (raises_engineOrFail fun _ => rfl) fun err => ?_
  have hfinish : ∀ u : Unit, Raises Unreported (do
      if exitCode ≠ 0 then
        throw (.containerExited name exitCode ("\n".intercalate out) ("\n".intercalate err))
      return { o with
        exitCode := some exitCode
        stdout := some ("\n".intercalate out)
        stderr := some ("\n".intercalate err) }) := fun _ =>
    raises_when (raises_throw rfl) fun _ => raises_pure _
  dsimp only
  split
  · exact raises_bind (startless_stopContainer hname).discard.raises fun _ =>
      raises_bind (startless_removeContainer hname).discard.raises hfinish
  · exact hfinish ()

/-! ### Starting and waiting -/

theorem ensures_start_starts {bad : Error → History → Prop} : (start name).Ensures h
    (fun r h' => h'.starts = h.starts ++ [r.mapError Error.message]) bad := by
  rw [start, ensures_bind, ensures_engine]
  rintro (f | ⟨⟩)
  · rw [ensures_pure, History.starts_append]
    rfl
  · rw [ensures_pure, History.starts_append]
    rfl

theorem ensures_fail_record {α : Type} {message : String} {good : α → History → Prop} (hr : report.TellsOf h) :
    (fail config s name message report : Procedure α).Ensures h good Error.Honest := by
  simp only [fail, failure, ensures_bind, ensures_engine, ensures_pure, ensures_throw]
  rintro answer answer' f ⟨⟩
  exact (hr.append rfl).append rfl

theorem ensures_selfStart_record (hr : report.TellsOf h) :
    (selfStart name report).Ensures h StartReport.TellsOf Error.Honest := by
  refine ensures_start_starts.bind ?_
  rintro (e | ⟨⟩) h' hstarts
  · rw [ensures_pure]
    exact .failed hstarts
  · rw [ensures_bind, ensures_record, ensures_pure]
    exact hr.selfStarted hstarts

theorem ensures_selfStartIfCreated_record {status : Option String} (hr : report.TellsOf h) :
    (selfStartIfCreated s name status report).Ensures h StartReport.TellsOf Error.Honest := by
  unfold selfStartIfCreated
  split
  · exact ensures_selfStart_record hr
  · exact (ensures_pure _).2 hr

theorem ensures_poll_record (hr : report.TellsOf h) :
    (poll config s name report).Ensures h (fun p h' => p.2.TellsOf h') Error.Honest := by
  refine startless_inspect.ensures_bind fun info h' hstarts => ?_
  have hr' := hr.of_starts_eq hstarts
  cases info with
  | none => exact ensures_fail_record hr'
  | some live =>
    by_cases hready : live.isReady = true
    · simpa [hready] using hr'
    · simp only [hready, Bool.false_eq_true, if_false, ensures_bind, ensures_detail, ensures_pure]
      exact ensures_selfStartIfCreated_record hr'

/-- The loop carries the record along. -/
theorem ensures_pollUntil_record (report : StartReport) (left : Nat) : ∀ {h : History}, report.TellsOf h →
    (pollUntil config s name report left).Ensures h (fun p h' => p.2.TellsOf h') Error.Honest := by
  induction report, left using pollUntil.induct config with
  | case1 report left ih =>
    intro h hr
    rw [pollUntil]
    refine (ensures_poll_record hr).bind ?_
    rintro ⟨ready, report⟩ h' hr
    cases ready with
    | true => exact (ensures_pure _).2 hr
    | false =>
      by_cases hleft : left = 0
      · simpa [hleft] using hr
      · simp only [hleft, Bool.false_eq_true, if_false, ensures_bind, ensures_sleep]
        exact ih report hleft (hr.append rfl)

theorem ensures_lastChance_record {status : Option String} (hr : report.TellsOf h) :
    (lastChance config s name status report).Ensures h (fun p h' => p.2.TellsOf h') Error.Honest := by
  unfold lastChance
  split
  · refine (ensures_selfStart_record hr).bind fun report h' hr => ?_
    rw [ensures_bind, ensures_sleep]
    refine startless_inspect.ensures_bind fun info h'' hstarts => ?_
    have hr' : report.TellsOf h'' := (hr.append rfl).of_starts_eq hstarts
    dsimp only
    split
    · exact (ensures_bind _ _).2 (ensures_record.2 ((ensures_pure _).2 hr'))
    · exact (ensures_pure _).2 hr'
  · exact (ensures_pure _).2 hr

theorem ensures_waitUntilHealthy_record (hr : report.TellsOf h) :
    (waitUntilHealthy config s name report).Ensures h StartReport.TellsOf Error.Honest := by
  refine (ensures_pollUntil_record _ _ hr).bind ?_
  rintro ⟨ready, report⟩ h' hr
  cases ready with
  | true => exact (ensures_pure _).2 hr
  | false =>
    refine startless_inspect.ensures_bind fun info h' hstarts => ?_
    refine (ensures_lastChance_record (hr.of_starts_eq hstarts)).bind ?_
    rintro ⟨ready, report⟩ h' hr
    cases ready with
    | true => exact (ensures_pure _).2 hr
    | false => exact ensures_fail_record hr

theorem ensures_waitIfAsked_record (hr : report.TellsOf h) :
    (waitIfAsked config s name report).Ensures h StartReport.TellsOf Error.Honest := by
  unfold waitIfAsked
  split
  · exact ensures_waitUntilHealthy_record hr
  · exact (ensures_pure _).2 hr

theorem ensures_startExisting_record (hnone : h.starts = []) (hr : report.TellsOf h) :
    (startExisting config s name report).Ensures h StartReport.TellsOf Error.Honest := by
  refine ensures_start_starts.bind ?_
  rintro (e | ⟨⟩) h' hstarts
  · exact ensures_fail_record (.failed hstarts)
  · rw [ensures_bind, ensures_record, ensures_pure]
    exact hr.succeeded hnone hstarts

/-! ### Bringing a container up -/

theorem ensures_collectRun_record (hname : s.name = some name) (ho : o.Honest h) :
    (collectRun s name o).Ensures h Outcome.Honest Error.Honest := by
  have hkept : (collectRun s name o).Yields fun o' => o'.start = o.start := yields_collectRun_of fun _ _ _ => rfl
  refine ((startless_collectRun hname).ensures.and (hkept h)).mono ?_ fun _ _ he => he.1
  rintro o' h' ⟨hstarts, hstart⟩
  rw [Outcome.Honest, hstart]
  exact ho.of_starts_eq hstarts

theorem ensures_bringUp_record {info : Option Inspection} (hname : s.name = some name) (hnone : h.starts = [])
    (ho : o.Honest h) :
    (bringUp config s name info o).Ensures h Outcome.Honest Error.Honest := by
  have hfinish : ∀ (o : Outcome) (h : History), o.Honest h →
      (if s.detach then return o else collectRun s name o : Procedure Outcome).Ensures h
        Outcome.Honest Error.Honest := by
    intro o h ho
    split
    · exact (ensures_pure _).2 ho
    · exact ensures_collectRun_record hname ho
  have hwait : ∀ (o : Outcome) (h : History), o.Honest h → Ensures (do
      let o ← if s.wait then do
          pure { o with start := ← waitUntilHealthy config s name o.start }
        else pure o
      if s.detach then return o else collectRun s name o) h Outcome.Honest Error.Honest := by
    intro o h ho
    dsimp only
    split
    · exact (ensures_waitUntilHealthy_record ho).bind fun _ _ hr => hfinish _ _ hr
    · exact hfinish o h ho
  unfold bringUp
  dsimp only
  split
  · exact (ensures_startExisting_record hnone ho).bind fun _ _ hr => hwait _ _ hr
  · exact hwait o h ho

theorem ensures_startContainer_record (hname : s.name = some name) (hnone : h.starts = [])
    (ho : o.Honest h) :
    (startContainer c config s o).Ensures h Outcome.Honest Error.Honest := by
  rw [startContainer_eq, Spec.requireName_eq_ok.2 hname]
  refine (startless_ensureImageNoted (s := s)).ensures_bind fun pulled h₁ h₁starts => ?_
  refine (startless_ensureContainer hname).ensures_bind fun made h₂ h₂starts => ?_
  have hsame : h₂.starts = h.starts := h₂starts.trans h₁starts
  exact ensures_bringUp_record hname (hsame.trans hnone) (ho.of_starts_eq hsame)

theorem ensures_carryOut_record {d : Decision} (hd : d ≠ .restart) (hname : s.name = some name)
    (hnone : h.starts = []) (ho : o.Honest h) :
    (carryOut c config s name d o).Ensures h Outcome.Honest Error.Honest := by
  cases d with
  | noOp => exact (ensures_pure _).2 ho
  | create => exact ensures_startContainer_record hname hnone ho
  | recreate =>
    refine (startless_ensureImage (s := s)).discard.ensures_bind fun _ h₁ h₁starts => ?_
    refine (startless_record _).ensures_bind fun _ h₂ h₂starts => ?_
    refine (startless_stopContainer hname).discard.ensures_bind fun _ h₃ h₃starts => ?_
    refine (startless_removeContainer hname).discard.ensures_bind fun _ h₄ h₄starts => ?_
    have hsame : h₄.starts = h.starts := h₄starts.trans (h₃starts.trans (h₂starts.trans h₁starts))
    exact ensures_startContainer_record hname (hsame.trans hnone) (ho.of_starts_eq hsame)
  | restart => exact absurd rfl hd
  | startOnly =>
    refine (ensures_startExisting_record hnone ho).bind fun report h' hr => ?_
    exact (ensures_waitIfAsked_record hr).bind fun _ _ hr => (ensures_pure _).2 hr

end Reconcile

/-- What an invocation says about its starts: in its outcome, or in the report with which it fails. -/
def startRecord? : Except Error Outcome → Option StartReport
  | .ok o => some o.start
  | .error e => e.report?.map FailureReport.startReport

namespace Reconciler

variable {r : Reconciler} {a : Action} {s : Spec} {name : String}

theorem ensures_recreate_record (hname : s.name = some name) :
    (r.perform .recreateOrRestartContainer s).Ensures []
      (fun o t => ¬ r.Decides s .restart t → o.Honest t)
      fun e t => ¬ r.Decides s .restart t → e.Honest t := by
  intro t result hr
  rcases cases_of_recreate hname hr with ⟨e, rfl, hassess⟩ | ⟨before, after, a, rfl, hassess, hcarry⟩
  · exact fun _ => Reconcile.startless_assess.ensures (h := []) t _ hassess
  · have hnone : before.starts = [] := Reconcile.startless_assess.ensures (h := []) before _ hassess
    have htold : a.outcome.Honest before := by
      rw [Outcome.Honest, start_outcome]
      exact .nil hnone
    have hrestart : ¬ r.Decides s .restart (before ++ after) → a.decision ≠ .restart := fun hd h =>
      hd ⟨before, after, a, rfl, hassess, h⟩
    cases result with
    | ok o => exact fun hd => Reconcile.ensures_carryOut_record (hrestart hd) hname hnone htold after _ hcarry
    | error e => exact fun hd => Reconcile.ensures_carryOut_record (hrestart hd) hname hnone htold after _ hcarry

theorem ensures_startContainer_record (hname : s.name = some name) :
    (r.perform .startContainer s).Ensures [] Outcome.Honest Error.Honest :=
  (startless_ofExcept onlyRefuses_validate).ensures_bind fun _ _ hstarts =>
    Reconcile.ensures_startContainer_record hname hstarts (.nil hstarts)

/-- What is said about the starts is true, against every environment: of an invocation that brings a container up, or
to its specification with a decision that is not a restart, and that returns or fails because the container did not
come up. -/
theorem start_record_truthful (r : Reconciler) (s : Spec) (a : Action)
    (ha : a = .startContainer ∨ a = .recreateOrRestartContainer) (t : History) (result : Except Error Outcome)
    (hr : Program.Run (r.run a s).run t result)
    (hd : ¬ (a = .recreateOrRestartContainer ∧ r.Decides s .restart t)) :
    ∀ report, startRecord? result = some report → report.TellsOf t := by
  have hruns : (r.run a s).Ensures []
      (fun o t => ¬ (a = .recreateOrRestartContainer ∧ r.Decides s .restart t) → o.Honest t)
      fun e t => ¬ (a = .recreateOrRestartContainer ∧ r.Decides s .restart t) → e.Honest t := by
    refine (ensures_run_of fun _ _ _ => Iff.rfl).2 ?_
    cases hv : s.validateFor a with
    | error e => exact fun _ => honest_of_unreported (Worker.unreported_of_configuration
        (onlyRefuses_validateFor a e hv))
    | ok _ =>
      rcases ha with rfl | rfl
      · obtain ⟨name, hname⟩ := Spec.name_of_validateFor hv rfl
        exact (ensures_startContainer_record hname).mono (fun _ _ ho _ => ho) fun _ _ he _ => he
      · obtain ⟨name, hname⟩ := Spec.name_of_validateFor hv rfl
        exact (ensures_recreate_record hname).mono (fun _ _ ho hd => ho fun h => hd ⟨rfl, h⟩)
          fun _ _ he hd => he fun h => hd ⟨rfl, h⟩
  have hend := hruns t result hr
  cases result with
  | ok o =>
    rintro _ ⟨⟩
    exact hend hd
  | error e =>
    intro report hreport
    obtain ⟨f, hf, rfl⟩ := Option.map_eq_some_iff.1 hreport
    exact hend hd f hf

end Reconciler

/-! ### A container that starts at the third attempt -/

/-- A specification that waits for its container. -/
def awaitedSpec : Spec := { name := some "web", image := some "nginx", wait := true }

/-- A world in which the first start has no effect and the second one fails. -/
def reluctantWorld : World where
  engine := { images := .ofList [("nginx", { id := "new" })], ignoredStarts := 1 }
  faults := .ofList [("start_container", [none, some ⟨some 500, "permission denied"⟩])]

def reluctantRun : Program (Except Error Outcome) :=
  ((Reconciler.ofSpec awaitedSpec { pollInterval := 1000 } .path).run .startContainer awaitedSpec).run

theorem start_record_truthful_reluctantRun : ∃ o, (reluctantRun.runIn reluctantWorld).1 = .ok o ∧
    o.start.code = some 1 ∧ (reluctantRun.historyIn reluctantWorld).starts.length = 3 ∧
      o.start.TellsOf (reluctantRun.historyIn reluctantWorld) := by
  have hend : (match (reluctantRun.runIn reluctantWorld).1 with
      | .ok o => decide (o.start.code = some 1)
      | .error _ => false) = true := by decide +kernel
  obtain ⟨o, ho, hcode⟩ : ∃ o, (reluctantRun.runIn reluctantWorld).1 = .ok o ∧ o.start.code = some 1 := by
    split at hend
    · next o ho => exact ⟨o, ho, of_decide_eq_true hend⟩
    · cases hend
  have hr := Program.run_historyIn reluctantRun reluctantWorld
  rw [ho] at hr
  exact ⟨o, ho, hcode, by decide +kernel,
    Reconciler.start_record_truthful _ _ _ (.inl rfl) _ _ hr (fun h => by cases h.1) o.start rfl⟩

end Shipshape
