import Mathlib.Algebra.Order.Floor.Div
import Shipshape.Proofs.Engine.Run
import Shipshape.Reconcile.Wait

/-!
# The verdict of waiting

`waitUntilHealthy_ok_iff`: waiting for a container succeeds exactly if one of its looks finds the container
ready, and this is not the look directly behind the deadline. That one is only taken for the status that
decides about the last chance, so a container that turns ready there is reported as failed
(`ready_at_the_deadline`).

Proof outline. With `n` pauses until the deadline, the loop takes the looks `0 … n`, the look `n + 1`
follows directly, and the last chance takes the look `n + 2`. Along the loop (`ensures_pollUntil`) no look
so far was ready; a look that is ends the loop. A failed procedure has a history that is either the
looks alone or the looks and one report (`Failed`), and the report is told from the looks by the log that
it asks for.
-/

namespace Shipshape

namespace Event

/-- The answer to a look at a container. -/
def look? : Event → Option (Except Fault Inspection)
  | answered (.engine (.inspectContainer _)) answer => some answer
  | _ => none

def isLogs : Event → Bool
  | answered (.engine (.logs ..)) _ => true
  | _ => false

end Event

namespace History

/-- What happened before a failure report was assembled: a report is a look that is directly followed by
the log. -/
def beforeReport : History → History
  | [] => []
  | [e] => [e]
  | e :: e' :: t => if e.look?.isSome && e'.isLogs then [] else e :: beforeReport (e' :: t)

/-- The answers to the looks at a container, those of failure reports left out. -/
def looks (t : History) : List (Except Fault Inspection) := t.beforeReport.filterMap Event.look?

/-- A look found the container ready. -/
def ReadyAt (t : History) (i : Nat) : Prop :=
  ∃ info, t.looks[i]? = some (.ok info) ∧ info.isReady = true

/-! ### Histories without reports -/

def NoLogs (t : History) : Prop := ∀ e ∈ t, e.isLogs = false

theorem beforeReport_append {t : History} (ht : NoLogs t) (t' : History) :
    (∀ e ∈ t'.head?, e.isLogs = false) → beforeReport (t ++ t') = t ++ beforeReport t' := by
  intro hhead
  induction t with
  | nil => rfl
  | cons e t ih =>
    have ih := ih fun x hx => ht x (List.mem_cons_of_mem _ hx)
    cases hrest : t ++ t' with
    | nil =>
      obtain ⟨rfl, rfl⟩ := List.append_eq_nil_iff.1 hrest
      rfl
    | cons e' r =>
      have he' : e'.isLogs = false := by
        cases t with
        | nil =>
          refine hhead e' ?_
          rw [List.nil_append] at hrest
          simp [hrest]
        | cons x t =>
          obtain ⟨rfl, -⟩ := List.cons.inj hrest
          exact ht x (by simp)
      rw [List.cons_append, hrest, beforeReport, he', Bool.and_false, ← hrest, ih]
      simp

theorem NoLogs.step {t : History} (ht : t.NoLogs) {e : Event} (he : e.isLogs = false) :
    NoLogs (t ++ [e]) := by
  intro x hx
  rcases List.mem_append.1 hx with hx | hx
  · exact ht x hx
  · rw [List.mem_singleton.1 hx, he]

/-- What a history may have beyond `t`: nothing, or one failure report. -/
def Reported (t t' : History) : Prop :=
  NoLogs t ∧ (t' = t ∨ ∃ name answer name' stream tail answer',
    t' = t ++ [.answered (.engine (.inspectContainer name)) answer,
      .answered (.engine (.logs name' stream tail)) answer'])

theorem Reported.looks {t t' : History} (h : Reported t t') :
    t'.looks = t.filterMap Event.look? := by
  obtain ⟨ht, rfl | ⟨name, answer, name', stream, tail, answer', rfl⟩⟩ := h
  · have := beforeReport_append ht [] (by simp)
    rw [List.append_nil] at this
    rw [History.looks, this, beforeReport, List.append_nil]
  · have hhead : ∀ e ∈ [Event.answered (.engine (.inspectContainer name)) answer,
        .answered (.engine (.logs name' stream tail)) answer'].head?, e.isLogs = false := by
      simp [Event.isLogs]
    rw [History.looks, beforeReport_append ht _ hhead, beforeReport]
    simp [Event.look?, Event.isLogs]

/-! ### Where a waiting procedure is -/

/-- There were `k` looks so far, none of which found the container ready, and no report. -/
structure Waiting (k : Nat) (t : History) : Prop where
  noLogs : NoLogs t
  count : (t.filterMap Event.look?).length = k
  notReady : ∀ info, .ok info ∈ t.filterMap Event.look? → info.isReady = false

/-- The look `k` is the last one and the only one that found the container ready, and there was no
report. -/
structure Up (k : Nat) (t : History) : Prop where
  noLogs : NoLogs t
  looks : ∃ before info, t.filterMap Event.look? = before ++ [.ok info] ∧ before.length = k ∧
    info.isReady = true ∧ ∀ info, .ok info ∈ before → info.isReady = false

theorem Waiting.not_readyAt {k : Nat} {t t' : History} (h : Waiting k t) (hr : Reported t t')
    (i : Nat) : ¬ t'.ReadyAt i := by
  rintro ⟨info, hi, hready⟩
  rw [hr.looks] at hi
  have := h.notReady info (List.mem_of_getElem? hi)
  rw [this] at hready
  cases hready

theorem Up.readyAt_iff {k : Nat} {t t' : History} (h : Up k t) (hr : Reported t t') (i : Nat) :
    t'.ReadyAt i ↔ i = k := by
  obtain ⟨before, info, hl, rfl, hready, hbefore⟩ := h.looks
  rw [ReadyAt, hr.looks, hl]
  constructor
  · rintro ⟨info', hi, hready'⟩
    rcases Nat.lt_trichotomy i before.length with hlt | rfl | hgt
    · rw [List.getElem?_append_left hlt] at hi
      rw [hbefore info' (List.mem_of_getElem? hi)] at hready'
      cases hready'
    · rfl
    · rw [List.getElem?_eq_none (by simp; omega)] at hi
      cases hi
  · rintro rfl
    exact ⟨info, by simp, hready⟩

theorem Waiting.step {k : Nat} {t : History} (h : Waiting k t) {e : Event}
    (hlogs : e.isLogs = false) (hlook : e.look? = none) : Waiting k (t ++ [e]) := by
  refine ⟨h.noLogs.step hlogs, ?_, ?_⟩
  · simpa [hlook] using h.count
  · simpa [hlook] using h.notReady

theorem Waiting.look {k : Nat} {t : History} (h : Waiting k t) (name : String)
    {answer : Except Fault Inspection} (ha : ∀ info, answer = .ok info → info.isReady = false) :
    Waiting (k + 1) (t ++ [.answered (.engine (.inspectContainer name)) answer]) := by
  refine ⟨h.noLogs.step rfl, ?_, ?_⟩
  · simp [Event.look?, h.count]
  · intro info hinfo
    simp only [List.filterMap_append, List.filterMap_cons, List.filterMap_nil, Event.look?,
      List.mem_append, List.mem_singleton] at hinfo
    rcases hinfo with hinfo | hinfo
    · exact h.notReady info hinfo
    · exact ha info hinfo.symm

theorem Waiting.up {k : Nat} {t : History} (h : Waiting k t) (name : String) {info : Inspection}
    (hready : info.isReady = true) :
    Up k (t ++ [.answered (.engine (.inspectContainer name)) (.ok info)]) := by
  refine ⟨h.noLogs.step rfl, t.filterMap Event.look?, info, ?_, h.count, hready, h.notReady⟩
  simp [Event.look?]

end History

theorem ceilDiv_of_ne_zero {n d : Nat} (hd : 0 < d) (hn : n ≠ 0) : n ⌈/⌉ d = (n - d) ⌈/⌉ d + 1 := by
  have hiff : ∀ k, n ⌈/⌉ d ≤ k ↔ (n - d) ⌈/⌉ d + 1 ≤ k := by
    intro k
    rw [ceilDiv_le_iff_le_mul hd]
    cases k with
    | zero => simp [hn]
    | succ k => rw [Nat.add_le_add_iff_right, ceilDiv_le_iff_le_mul hd, Nat.mul_succ, Nat.sub_le_iff_le_add]
  exact Nat.le_antisymm ((hiff _).2 (Nat.le_refl _)) ((hiff _).1 (Nat.le_refl _))

namespace Config

/-- How many pauses it takes until so many nanoseconds are over. -/
def pausesWithin (c : Config) (left : Nat) : Nat := left ⌈/⌉ c.pause

/-- The look directly behind the deadline, in the count of all looks from 0 on. -/
def deadlineLook (c : Config) (s : Spec) : Nat :=
  c.pausesWithin (c.timeout s * Timer.millisecond) + 1

theorem pausesWithin_of_ne_zero {c : Config} {left : Nat} (hleft : left ≠ 0) :
    c.pausesWithin left = c.pausesWithin (left - c.pause) + 1 :=
  ceilDiv_of_ne_zero c.pause_pos hleft

end Config

namespace Reconcile

open History Procedure

variable {k : Nat} {h : History}

theorem ensures_fail {α : Type} {c : Config} {s : Spec} {name message : String}
    {report : StartReport} (hlogs : h.NoLogs) :
    (fail c s name message report : Procedure α).Ensures h (fun _ _ => False) fun e h' =>
      Reported h h' ∧ ∃ failed, e = .waitFailed failed := by
  simp only [fail, failure, ensures_bind, ensures_engine, ensures_pure, ensures_throw]
  intro answer answer'
  refine ⟨⟨hlogs, .inr ⟨name, answer, name, .both, some c.logTail, answer', ?_⟩⟩, _, rfl⟩
  rw [List.append_assoc]
  rfl

theorem ensures_look {name : String} (hw : h.Waiting k) :
    (Worker.inspect name).Ensures h
      (fun found h' => if found.any (·.isReady) then h'.Up k else h'.Waiting (k + 1))
      fun _ h' => h'.Waiting (k + 1) := by
  rw [Worker.inspect, ensures_engineIfFound]
  constructor
  · intro info
    cases hready : info.isReady with
    | true => simpa [hready] using hw.up name hready
    | false =>
      have := @Waiting.look k _ hw name (.ok info) (by rintro info ⟨⟩; exact hready)
      simpa [hready] using this
  · intro f
    have := @Waiting.look k _ hw name (.error f) (by rintro info ⟨⟩)
    split
    · exact this
    · exact this

theorem ensures_selfStart {name : String} {report : StartReport} (hw : h.Waiting k) :
    (selfStart name report).Ensures h (fun _ h' => h'.Waiting k) fun _ _ => False := by
  simp only [selfStart, Worker.start, ensures_bind, ensures_engine]
  rintro (f | ⟨⟩)
  · simpa using hw.step (e := .answered (.engine (.startContainer name)) (.error f)) rfl rfl
  · simpa using hw.step (e := .answered (.engine (.startContainer name)) (.ok ())) rfl rfl

theorem ensures_poll {c : Config} {s : Spec} {name : String} {report : StartReport}
    (hw : h.Waiting k) :
    (poll c s name report).Ensures h
      (fun p h' => if p.1 then h'.Up k else h'.Waiting (k + 1))
      fun _ h' => ∃ t, Reported t h' ∧ t.Waiting (k + 1) := by
  rw [poll, ensures_bind]
  refine (ensures_look hw).mono ?_ fun _ h' ht => ⟨h', ⟨ht.noLogs, .inl rfl⟩, ht⟩
  rintro (_ | info) h' hp
  · refine (ensures_fail hp.noLogs).mono (fun _ _ hf => hf.elim) ?_
    rintro e t' ⟨hr, -⟩
    exact ⟨h', hr, hp⟩
  · cases hready : info.isReady with
    | true => simpa [hready] using hp
    | false =>
      have hp : h'.Waiting (k + 1) := by simpa [hready] using hp
      simp only [hready, Bool.false_eq_true, if_false, ensures_bind, ensures_detail,
        selfStartIfCreated]
      split
      · refine (ensures_selfStart hp).mono (fun _ _ hw => ?_) fun _ _ hf => hf.elim
        simpa using hw
      · simpa using hp

/-- The loop ends in readiness at one of its looks, or after all of them without readiness. -/
theorem ensures_pollUntil {c : Config} {s : Spec} {name : String} (report : StartReport) (left : Nat) :
    ∀ {k : Nat} {h : History}, h.Waiting k →
      (pollUntil c s name report left).Ensures h
        (fun p h' => if p.1 then ∃ j ≤ k + c.pausesWithin left, h'.Up j
          else h'.Waiting (k + c.pausesWithin left + 1))
        fun _ h' => ∃ t j, Reported t h' ∧ t.Waiting j := by
  induction report, left using pollUntil.induct c with
  | case1 report left ih =>
    intro k h hw
    rw [pollUntil, ensures_bind]
    refine (ensures_poll hw).mono ?_ ?_
    · rintro ⟨ready, report⟩ h' hp
      cases ready with
      | true =>
        simp only [if_true, ensures_pure]
        exact ⟨k, by omega, hp⟩
      | false =>
        have hw : h'.Waiting (k + 1) := hp
        by_cases hleft : left = 0
        · simpa [hleft, Config.pausesWithin] using hw
        · have hpaused : Waiting (k + 1) (h' ++ [.slept c.pauseLength]) := hw.step rfl rfl
          simp only [hleft, Bool.false_eq_true, if_false, ensures_bind, ensures_sleep]
          rw [Config.pausesWithin_of_ne_zero hleft, ← Nat.add_assoc, Nat.add_right_comm k]
          exact ih report hleft hpaused
    · rintro e h' ⟨t, hr, ht⟩
      exact ⟨t, _, hr, ht⟩

theorem ensures_lastChance {c : Config} {s : Spec} {name : String} {status : Option String}
    {report : StartReport} (hw : h.Waiting k) :
    (lastChance c s name status report).Ensures h
      (fun p h' => if p.1 then h'.Up k else ∃ j, h'.Waiting j)
      fun _ h' => ∃ j, h'.Waiting j := by
  unfold lastChance
  split
  · rw [ensures_bind]
    refine (ensures_selfStart hw).mono ?_ fun _ _ hf => hf.elim
    intro report h' hw
    rw [ensures_bind, ensures_sleep, ensures_bind]
    have hpaused : Waiting k (h' ++ [.slept c.pauseLength]) := hw.step rfl rfl
    refine (ensures_look hpaused).mono ?_ fun _ h'' ht => ⟨_, ht⟩
    intro found h'' hp
    cases hready : found.any (·.isReady) with
    | true => simpa [hready] using hp
    | false =>
      have hp : h''.Waiting (k + 1) := by simpa [hready] using hp
      simpa using ⟨_, hp⟩
  · simpa using ⟨k, hw⟩

theorem lastChance_of_isReady {c : Config} {s : Spec} {info : Inspection} {report : StartReport}
    (name : String) (hready : info.isReady = true) :
    lastChance c s name info.status? report = pure (false, report) := by
  have hstatus : info.status? = some "running" := by
    simp only [Inspection.isReady, Inspection.isRunning, Bool.and_eq_true, beq_iff_eq] at hready
    exact hready.1
  rw [lastChance, hstatus]
  rfl

/-- Waiting returns after a look other than that of the deadline, and fails after no look that found the
container ready, unless it is that one. -/
theorem ensures_waitUntilHealthy (c : Config) (s : Spec) (name : String) (report : StartReport) :
    (waitUntilHealthy c s name report).Ensures []
      (fun _ h' => ∃ j, j ≠ c.deadlineLook s ∧ h'.Up j)
      fun e h' => ∃ t, Reported t h' ∧
        ((∃ j, t.Waiting j) ∨ t.Up (c.deadlineLook s) ∧ ∃ failed, e = .waitFailed failed) := by
  have hstart : Waiting 0 [] := ⟨by simp [NoLogs], rfl, by simp⟩
  rw [waitUntilHealthy, ensures_bind]
  refine (ensures_pollUntil report _ hstart).mono ?_ ?_
  · rintro ⟨ready, report⟩ h hp
    cases ready with
    | true =>
      obtain ⟨j, hj, hup⟩ := hp
      simp only [if_true, ensures_pure]
      exact ⟨j, by rw [Config.deadlineLook]; omega, hup⟩
    | false =>
      have hw : h.Waiting (c.deadlineLook s) := by simpa [Config.deadlineLook] using hp
      simp only [Bool.false_eq_true, if_false]
      rw [ensures_bind]
      refine (ensures_look hw).mono ?_ fun _ h' ht => ⟨h', ⟨ht.noLogs, .inl rfl⟩, .inl ⟨_, ht⟩⟩
      intro found h' hp
      cases hready : found.any (·.isReady) with
      | true =>
        -- The look that nobody asks for its verdict: all that is left is the report.
        obtain ⟨info, rfl, hready⟩ := (Option.any_eq_true _ _).1 hready
        have hup : h'.Up (c.deadlineLook s) := by simpa [hready] using hp
        rw [Option.bind_some, lastChance_of_isReady name hready, ensures_bind, ensures_pure]
        refine (ensures_fail hup.noLogs).mono (fun _ _ hf => hf.elim) ?_
        rintro e t' ⟨hr, hfailed⟩
        exact ⟨h', hr, .inr ⟨hup, hfailed⟩⟩
      | false =>
        have hw : h'.Waiting (c.deadlineLook s + 1) := by simpa [hready] using hp
        rw [ensures_bind]
        refine (ensures_lastChance hw).mono ?_ ?_
        · rintro ⟨ready, report⟩ h'' hp
          cases ready with
          | true =>
            simp only [if_true, ensures_pure]
            exact ⟨_, by omega, hp⟩
          | false =>
            obtain ⟨j, hj⟩ := hp
            refine (ensures_fail hj.noLogs).mono (fun _ _ hf => hf.elim) ?_
            rintro e t' ⟨hr, -⟩
            exact ⟨h'', hr, .inl ⟨j, hj⟩⟩
        · rintro e h'' ⟨j, hj⟩
          exact ⟨h'', ⟨hj.noLogs, .inl rfl⟩, .inl ⟨j, hj⟩⟩
  · rintro e h' ⟨t, j, hr, hw⟩
    exact ⟨t, hr, .inl ⟨j, hw⟩⟩

/-- Waiting returns exactly if a look other than the one directly behind the deadline finds the container
ready. So it returns exactly if any look does, unless that one does; then the verdict is a failure
report. -/
theorem waitUntilHealthy_ok_iff (c : Config) (s : Spec) (name : String) (report : StartReport)
    (t : History) (r : Except Error StartReport)
    (hr : Program.Run (waitUntilHealthy c s name report).run t r) :
    ((∃ a, r = .ok a) ↔ ∃ i, i ≠ c.deadlineLook s ∧ t.ReadyAt i) ∧
      (((∃ a, r = .ok a) ↔ ∃ i, t.ReadyAt i) ↔ ¬ t.ReadyAt (c.deadlineLook s)) ∧
      (t.ReadyAt (c.deadlineLook s) → ∃ failed, r = .error (.waitFailed failed)) := by
  have hend := ensures_waitUntilHealthy c s name report t r hr
  cases r with
  | ok a =>
    obtain ⟨j, hj, hup⟩ := hend
    have hlooks := hup.readyAt_iff ⟨hup.noLogs, .inl rfl⟩
    rw [List.nil_append] at hlooks
    have hnot : ¬ t.ReadyAt (c.deadlineLook s) := fun hready => hj ((hlooks _).1 hready).symm
    have hyes : t.ReadyAt j := (hlooks j).2 rfl
    refine ⟨⟨fun _ => ⟨j, hj, hyes⟩, fun _ => ⟨a, rfl⟩⟩, ?_, fun hready => absurd hready hnot⟩
    exact ⟨fun _ => hnot, fun _ => ⟨fun _ => ⟨j, hyes⟩, fun _ => ⟨a, rfl⟩⟩⟩
  | error e =>
    obtain ⟨t', hrep, ⟨j, hw⟩ | ⟨hup, failed, rfl⟩⟩ := hend
    · have hnot : ∀ i, ¬ t.ReadyAt i := hw.not_readyAt hrep
      refine ⟨?_, ?_, fun hready => absurd hready (hnot _)⟩
      · simp [hnot]
      · simp [hnot]
    · have hlooks := hup.readyAt_iff hrep
      rw [List.nil_append] at hlooks
      refine ⟨?_, ?_, fun _ => ⟨failed, rfl⟩⟩
      · simp [hlooks]
      · simp [hlooks]

/-! ### A container that turns ready at the deadline -/

/-- A running container with a healthcheck. -/
def runningWithHealth (health : String) : Inspection :=
  ⟨.ofFields [("State", .ofFields [("Status", .str "running"),
    ("Health", .ofFields [("Status", .str health)])])]⟩

/-- The healthcheck succeeds between the last look of the loop and the look behind the deadline. -/
def lateHistory : History :=
  [.answered (.engine (.inspectContainer "web")) (.ok (runningWithHealth "starting")),
    .answered (.engine (.inspectContainer "web")) (.ok (runningWithHealth "healthy")),
    .answered (.engine (.inspectContainer "web")) (.ok (runningWithHealth "healthy")),
    .answered (.engine (.logs "web" .both (some 200))) (.ok [])]

theorem run_lateHistory : ∃ failed,
    Program.Run (waitUntilHealthy { waitTimeout := some 0 } {} "web" {}).run lateHistory
      (.error (.waitFailed failed)) := by
  rw [waitUntilHealthy, pollUntil]
  exact ⟨_, .call _ (.note (.call _ (.call _ (.call _ (.done _)))))⟩

theorem lateHistory_readyAt : lateHistory.ReadyAt 1 :=
  ⟨runningWithHealth "healthy", rfl, by decide +kernel⟩

theorem waitUntilHealthy_ok_iff_lateHistory : ∃ failed,
    Program.Run (waitUntilHealthy { waitTimeout := some 0 } {} "web" {}).run lateHistory
        (.error (.waitFailed failed)) ∧
      lateHistory.ReadyAt 1 ∧ ¬ ∃ i, i ≠ 1 ∧ lateHistory.ReadyAt i := by
  obtain ⟨failed, hr⟩ := run_lateHistory
  obtain ⟨hok, -, -⟩ := waitUntilHealthy_ok_iff _ _ _ _ _ _ hr
  refine ⟨failed, hr, lateHistory_readyAt, fun hready => ?_⟩
  obtain ⟨a, ha⟩ := hok.2 hready
  cases ha

/-- A look that finds the container ready is not enough: this one is followed by a failure report. -/
theorem ready_at_the_deadline : ¬ ∀ (c : Config) (s : Spec) (name : String) (report : StartReport)
    (t : History) (r : Except Error StartReport),
    Program.Run (waitUntilHealthy c s name report).run t r →
      ((∃ a, r = .ok a) ↔ ∃ i, t.ReadyAt i) := by
  intro hclaim
  obtain ⟨failed, hr⟩ := run_lateHistory
  obtain ⟨a, ha⟩ := (hclaim _ _ _ _ _ _ hr).2 ⟨1, lateHistory_readyAt⟩
  cases ha

end Reconcile

end Shipshape
