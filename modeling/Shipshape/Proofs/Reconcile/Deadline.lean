import Mathlib.Algebra.Ring.Nat
import Shipshape.Proofs.Memory.Run
import Shipshape.Proofs.Reconcile.Verdict

/-!
# The bounds of waiting

`waiting_is_bounded`: with a timer that keeps to the interval between two looks, waiting is over after a number
of steps that only depends on the time that it may take. The loop makes at most one look more than pauses fit
into that time, everything together sleeps at most one pause longer, and nobody is told that a container did
not come up in time before the time is over. All that waiting changes are starts of the container, each made
directly behind a look that found it created.

Proof outline. With such a timer the loop counts milliseconds (`pollUntil_left`). So `ensures_pollUntil_paced`
is an induction on the milliseconds that are left: each round counts one look, at most one start and one pause
(`Paced`), and a loop that gives up has slept for all of them. The look behind the loop and the last chance add
one pause and one start at most.
-/

namespace Shipshape

/-! ### Time in pauses -/

theorem Timer.keeps_punctual {ms : Nat} (h : 0 < ms) : punctual.Keeps ms := by
  simp only [Keeps, punctual, millisecond]
  omega

namespace Config

variable {c : Config}

/-- How many pauses fit into the time that waiting may take, the last one counted in full. -/
def rounds (c : Config) (s : Spec) : Nat := c.timeout s ⌈/⌉ c.pollInterval

theorem pollInterval_pos (h : c.timer.Keeps c.pollInterval) : 0 < c.pollInterval := by
  have hpause : 0 < c.pollInterval * Timer.millisecond := h ▸ c.pause_pos
  exact Nat.pos_of_mul_pos_right hpause

theorem pauseLength_of_keeps (h : c.timer.Keeps c.pollInterval) : c.pauseLength = c.pollInterval := by
  rw [pauseLength, pause, h, Nat.mul_div_cancel _ (by decide)]

theorem pausesWithin_timeout (h : c.timer.Keeps c.pollInterval) (s : Spec) :
    c.pausesWithin (c.timeout s * Timer.millisecond) = c.rounds s := by
  have hiff : ∀ n, c.pausesWithin (c.timeout s * Timer.millisecond) ≤ n ↔ c.rounds s ≤ n := by
    intro n
    rw [pausesWithin, rounds, ceilDiv_le_iff_le_mul c.pause_pos, ceilDiv_le_iff_le_mul (pollInterval_pos h), pause,
      h, Nat.mul_right_comm, Nat.mul_le_mul_right_iff (by decide)]
  exact Nat.le_antisymm ((hiff _).2 (Nat.le_refl _)) ((hiff _).1 (Nat.le_refl _))

end Config

/-! ### What is counted -/

def Event.pauseLength : Event → Nat
  | answered .. => 0
  | slept ms => ms

namespace History

def slept (t : History) : Nat := (t.map Event.pauseLength).sum

/-- The calls that change something. -/
def mutations (t : History) : List Call := t.calls.filter (·.isMutating)

/-- A step that changes something, if it does, by starting the container, directly behind a look that found it
created; and not if somebody else is to start it. -/
def StartsCreated (s : Spec) (name : String) (before : History) (e : Event) : Prop :=
  ∀ c, e.call? = some c → c.isMutating = true →
    c = .engine (.startContainer name) ∧ s.deferStart = false ∧
      ∃ earlier info, before = earlier ++ [.answered (.engine (.inspectContainer name)) (.ok info)] ∧
        info.status? = some "created"

/-- So far there were `looks` looks and no report, at most `starts` starts, all of them in order, and `ms`
milliseconds of sleep. -/
structure Paced (s : Spec) (name : String) (looks starts ms : Nat) (t : History) : Prop where
  noLogs : t.NoLogs
  looks : (t.filterMap Event.look?).length = looks
  starts : t.mutations.length ≤ starts
  slept : t.slept = ms
  inOrder : ∀ before e after, t = before ++ e :: after → StartsCreated s name before e

variable {s : Spec} {name : String} {k n d : Nat} {t t' : History}

theorem paced_nil : Paced s name 0 0 0 [] := by
  refine ⟨by simp [NoLogs], rfl, Nat.le_refl 0, rfl, ?_⟩
  intro before e after h
  simp at h

theorem startsCreated_of_call {e : Event} (h : ∀ c, e.call? = some c → c.isMutating = false) :
    StartsCreated s name t e := by
  intro c hc hm
  rw [h c hc] at hm
  cases hm

theorem Paced.mono {m : Nat} (h : Paced s name k n d t) (hn : n ≤ m) : Paced s name k m d t :=
  { h with starts := Nat.le_trans h.starts hn }

theorem Paced.look (h : Paced s name k n d t) (answer : Except Fault Inspection) :
    Paced s name (k + 1) n d (t ++ [.answered (.engine (.inspectContainer name)) answer]) where
  noLogs := h.noLogs.step rfl
  looks := by simp [Event.look?, h.looks]
  starts := by simpa [mutations, calls, Event.call?, Call.isMutating] using h.starts
  slept := by simpa [History.slept, Event.pauseLength] using h.slept
  inOrder := by
    refine forall_step h.inOrder (startsCreated_of_call ?_)
    rintro c ⟨⟩
    rfl

theorem Paced.pause (h : Paced s name k n d t) (ms : Nat) : Paced s name k n (d + ms) (t ++ [.slept ms]) where
  noLogs := h.noLogs.step rfl
  looks := by simp [Event.look?, h.looks]
  starts := by simpa [mutations, calls, List.filterMap_cons, Event.call?] using h.starts
  slept := by simpa [History.slept, Event.pauseLength] using h.slept
  inOrder := by
    refine forall_step h.inOrder (startsCreated_of_call ?_)
    rintro c ⟨⟩

/-- The last step is a look that found the container in the state `created`, if it is in this state. -/
def LastSeen (name : String) (status : Option String) (t : History) : Prop :=
  status = some "created" → ∃ earlier info,
    t = earlier ++ [.answered (.engine (.inspectContainer name)) (.ok info)] ∧ info.status? = some "created"

theorem Paced.start (h : Paced s name k n d t) (hseen : LastSeen name (some "created") t)
    (hdefer : s.deferStart = false) (answer : Except Fault Unit) :
    Paced s name k (n + 1) d (t ++ [.answered (.engine (.startContainer name)) answer]) where
  noLogs := h.noLogs.step rfl
  looks := by simp [Event.look?, h.looks]
  starts := by simpa [mutations, calls, Event.call?, Call.isMutating] using h.starts
  slept := by simpa [History.slept, Event.pauseLength] using h.slept
  inOrder := by
    refine forall_step h.inOrder ?_
    rintro c ⟨⟩ -
    exact ⟨rfl, hdefer, hseen rfl⟩

/-- A failure report counts neither as a look nor as anything else. -/
structure Accounted (s : Spec) (name : String) (looks starts ms : Nat) (t : History) : Prop where
  looks : t.looks.length = looks
  starts : t.mutations.length ≤ starts
  slept : t.slept = ms
  inOrder : ∀ before e after, t = before ++ e :: after → StartsCreated s name before e

theorem Paced.accounted (h : Paced s name k n d t) (hr : Reported t t') : Accounted s name k n d t' := by
  have hlooks := hr.looks
  rcases hr with ⟨-, rfl | ⟨name₁, answer, name', stream, tail, answer', rfl⟩⟩
  · exact ⟨by rw [hlooks, h.looks], h.starts, h.slept, h.inOrder⟩
  · refine ⟨by rw [hlooks, h.looks], ?_, ?_, ?_⟩
    · simpa [mutations, calls, Event.call?, Call.isMutating] using h.starts
    · simpa [History.slept, Event.pauseLength] using h.slept
    · have hlook : StartsCreated s name t (.answered (.engine (.inspectContainer name₁)) answer) :=
        startsCreated_of_call (by rintro c ⟨⟩; rfl)
      have hlogs : StartsCreated s name (t ++ [.answered (.engine (.inspectContainer name₁)) answer])
          (.answered (.engine (.logs name' stream tail)) answer') :=
        startsCreated_of_call (by rintro c ⟨⟩; rfl)
      simpa using forall_step (forall_step h.inOrder hlook) hlogs

end History

namespace Reconcile

open History Procedure

variable {c : Config} {s : Spec} {name : String} {report : StartReport} {k n d : Nat} {h : History}

/-- The text with which a report says that a container did not come up in time. -/
def lateText (name : String) : String :=
  "Container " ++ name ++ " did not become running and healthy within "

/-- The error says that a container did not come up in time. -/
def SaysLate (name : String) (e : Error) : Prop :=
  ∃ failed, e = .waitFailed failed ∧ (lateText name).toList <+: failed.message.toList

/-! ### Steps -/

theorem ensures_fail_message {α : Type} {message : String} :
    (fail c s name message report : Procedure α).Ensures h (fun _ _ => False) fun e _ =>
      ∃ failed, e = .waitFailed failed ∧ failed.message = message := by
  simp only [fail, failure, ensures_bind, ensures_engine, ensures_pure, ensures_throw]
  intro answer answer'
  exact ⟨_, rfl, rfl⟩

theorem not_saysLate_disappeared {e : Error} (h : ∃ failed, e = .waitFailed failed ∧ failed.message =
    "Container " ++ name ++ " disappeared while waiting for it to become healthy") : ¬ SaysLate name e := by
  rintro ⟨failed, rfl, hprefix⟩
  obtain ⟨failed', hsame, hmessage⟩ := h
  injection hsame with hsame
  subst hsame
  rw [hmessage, lateText] at hprefix
  simp only [String.toList_append, List.append_assoc, List.prefix_append_right_inj] at hprefix
  exact absurd hprefix (by decide)

theorem ensures_selfStart_paced (hp : Paced s name k n d h) (hseen : LastSeen name (some "created") h)
    (hdefer : s.deferStart = false) :
    (selfStart name report).Ensures h (fun _ h' => Paced s name k (n + 1) d h') fun _ _ => False := by
  simp only [selfStart, Worker.start, ensures_bind, ensures_engine]
  rintro (f | ⟨⟩)
  · simpa using hp.start hseen hdefer (.error f)
  · simpa using hp.start hseen hdefer (.ok ())

theorem ensures_selfStartIfCreated {status : Option String} (hp : Paced s name k n d h)
    (hseen : LastSeen name status h) :
    (selfStartIfCreated s name status report).Ensures h (fun _ h' => Paced s name k (n + 1) d h')
      fun _ _ => False := by
  unfold selfStartIfCreated
  split
  · next hcreated =>
    simp only [Bool.and_eq_true, beq_iff_eq, Bool.not_eq_true'] at hcreated
    obtain ⟨rfl, hdefer⟩ := hcreated
    exact ensures_selfStart_paced hp hseen hdefer
  · exact (ensures_pure _).2 (hp.mono (Nat.le_succ n))

theorem ensures_inspect_paced (hp : Paced s name k n d h) :
    (Worker.inspect name).Ensures h
      (fun found h' => Paced s name (k + 1) n d h' ∧ LastSeen name (found.bind (·.status?)) h')
      fun e h' => Paced s name (k + 1) n d h' ∧ ¬ SaysLate name e := by
  rw [Worker.inspect, ensures_engineIfFound]
  refine ⟨fun info => ⟨hp.look (.ok info), fun hcreated => ⟨h, info, rfl, hcreated⟩⟩, fun f => ?_⟩
  split
  · exact ⟨hp.look (.error f), fun hnone => by cases hnone⟩
  · refine ⟨hp.look (.error f), ?_⟩
    rintro ⟨failed, hfailed, -⟩
    cases hfailed

theorem ensures_poll_paced (hp : Paced s name k n d h) :
    (poll c s name report).Ensures h (fun _ h' => Paced s name (k + 1) (n + 1) d h') fun e h' =>
      ∃ t, Reported t h' ∧ Paced s name (k + 1) (n + 1) d t ∧ ¬ SaysLate name e := by
  rw [poll, ensures_bind]
  refine (ensures_inspect_paced hp).mono ?_ ?_
  · rintro (_ | info) h' ⟨hp, hseen⟩
    · refine ((ensures_fail hp.noLogs).and ensures_fail_message).mono (fun _ _ hf => hf.1.elim) ?_
      rintro e t' ⟨⟨hr, -⟩, hmessage⟩
      exact ⟨h', hr, hp.mono (Nat.le_succ n), not_saysLate_disappeared hmessage⟩
    · by_cases hready : info.isReady = true
      · simpa [hready] using hp.mono (Nat.le_succ n)
      · simp only [hready, Bool.false_eq_true, if_false, ensures_bind, ensures_detail]
        refine (ensures_selfStartIfCreated hp hseen).mono (fun _ _ hp => ?_) fun _ _ hf => hf.elim
        simpa using hp
  · rintro e h' ⟨hp, hlate⟩
    exact ⟨h', ⟨hp.noLogs, .inl rfl⟩, hp.mono (Nat.le_succ n), hlate⟩

/-! ### The loop -/

/-- The loop by the milliseconds that are left. -/
theorem pollUntil_left (hkeeps : c.timer.Keeps c.pollInterval) (left : Nat) :
    pollUntil c s name report (left * Timer.millisecond) = (do
      let (ready, report) ← poll c s name report
      if ready then return (true, report)
      if left = 0 then return (false, report)
      Procedure.sleep c.pollInterval
      pollUntil c s name report ((left - c.pollInterval) * Timer.millisecond)) := by
  have hover : left * Timer.millisecond = 0 ↔ left = 0 := by
    rw [Nat.mul_eq_zero, or_iff_left (by decide)]
  have hleft : left * Timer.millisecond - c.pause = (left - c.pollInterval) * Timer.millisecond := by
    rw [Config.pause, hkeeps, Nat.sub_mul]
  rw [pollUntil, Config.pauseLength_of_keeps hkeeps, hleft]
  simp only [hover]

/-- Wherever the loop ends, each of its rounds but the last was closed by a pause; and it gives up only when no
time is left. -/
theorem ensures_pollUntil_paced (hkeeps : c.timer.Keeps c.pollInterval) (left : Nat) :
    ∀ {k d : Nat} {h : History} {report : StartReport}, Paced s name k k d h →
      (pollUntil c s name report (left * Timer.millisecond)).Ensures h
        (fun p h' => ∃ j ≤ left ⌈/⌉ c.pollInterval,
          Paced s name (k + j + 1) (k + j + 1) (d + j * c.pollInterval) h' ∧
            (p.1 = false → left ≤ j * c.pollInterval))
        fun e h' => ∃ t, ∃ j ≤ left ⌈/⌉ c.pollInterval, Reported t h' ∧
          Paced s name (k + j + 1) (k + j + 1) (d + j * c.pollInterval) t ∧ ¬ SaysLate name e := by
  have hpos := Config.pollInterval_pos hkeeps
  induction left using Nat.strongRecOn with
  | _ left ih =>
    intro k d h report hp
    rw [pollUntil_left hkeeps, ensures_bind]
    refine (ensures_poll_paced hp).mono ?_ ?_
    · rintro ⟨ready, report⟩ h' hp
      cases ready with
      | true => exact (ensures_pure _).2 ⟨0, Nat.zero_le _, by simpa using hp, Bool.noConfusion⟩
      | false =>
        by_cases hleft : left = 0
        · simp only [hleft, Bool.false_eq_true, if_false, if_true, ensures_pure]
          exact ⟨0, Nat.zero_le _, by simpa using hp, fun _ => Nat.zero_le _⟩
        · have hstep := ceilDiv_of_ne_zero hpos hleft
          simp only [hleft, Bool.false_eq_true, if_false, ensures_bind, ensures_sleep]
          -- one round more than there are behind the pause
          have hround : ∀ {j : Nat} {t : History},
              Paced s name (k + 1 + j + 1) (k + 1 + j + 1) (d + c.pollInterval + j * c.pollInterval) t →
                Paced s name (k + (j + 1) + 1) (k + (j + 1) + 1) (d + (j + 1) * c.pollInterval) t := by
            intro j t ht
            rwa [show k + (j + 1) + 1 = k + 1 + j + 1 by omega,
              show d + (j + 1) * c.pollInterval = d + c.pollInterval + j * c.pollInterval by
                rw [Nat.succ_mul]; omega]
          refine (ih (left - c.pollInterval) (by omega) (hp.pause c.pollInterval)).mono ?_ ?_
          · rintro p h'' ⟨j, hj, hp, hover⟩
            refine ⟨j + 1, by omega, hround hp, fun hlate => ?_⟩
            have := hover hlate
            rw [Nat.succ_mul]
            omega
          · rintro e h'' ⟨t, j, hj, hr, hp, hlate⟩
            exact ⟨t, j + 1, by omega, hr, hround hp, hlate⟩
    · rintro e h' ⟨t, hr, hp, hlate⟩
      exact ⟨t, 0, Nat.zero_le _, hr, by simpa using hp, hlate⟩

/-! ### Behind the loop -/

theorem ensures_lastChance_paced {status : Option String} (hp : Paced s name k n d h)
    (hseen : LastSeen name status h) :
    (lastChance c s name status report).Ensures h
      (fun _ h' => ∃ k', ∃ d' ≥ d, d' ≤ d + c.pauseLength ∧ Paced s name k' (n + 1) d' h')
      fun e h' => ∃ k', Paced s name k' (n + 1) (d + c.pauseLength) h' ∧ ¬ SaysLate name e := by
  unfold lastChance
  split
  · next hcreated =>
    simp only [Bool.and_eq_true, beq_iff_eq, Bool.not_eq_true'] at hcreated
    obtain ⟨rfl, hdefer⟩ := hcreated
    rw [ensures_bind]
    refine (ensures_selfStart_paced hp hseen hdefer).mono ?_ fun _ _ hf => hf.elim
    intro report h' hp
    rw [ensures_bind, ensures_sleep, ensures_bind]
    refine (ensures_inspect_paced (hp.pause c.pauseLength)).mono ?_ ?_
    · rintro found h'' ⟨hp, -⟩
      have hend : ∃ k', ∃ d' ≥ d, d' ≤ d + c.pauseLength ∧ Paced s name k' (n + 1) d' h'' :=
        ⟨_, d + c.pauseLength, Nat.le_add_right _ _, Nat.le_refl _, hp⟩
      by_cases hready : found.any (·.isReady) = true
      · simpa [hready] using hend
      · simpa [hready] using hend
    · rintro e h'' ⟨hp, hlate⟩
      exact ⟨_, hp, hlate⟩
  · exact (ensures_pure _).2 ⟨k, d, Nat.le_refl d, Nat.le_add_right d _, hp.mono (Nat.le_succ n)⟩

/-- What waiting may have cost where it ends; if it ends `late`, then the time for it is over. -/
def Spent (c : Config) (s : Spec) (name : String) (late : Prop) (t : History) : Prop :=
  ∃ k n d, n ≤ c.rounds s + 2 ∧ d ≤ (c.rounds s + 1) * c.pollInterval ∧ Paced s name k n d t ∧
    (late → c.timeout s ≤ d)

theorem spent_of_round {late : Prop} {j d' : Nat} (hj : j ≤ c.rounds s) (hn : n ≤ j + 2)
    (hd : d' ≤ j * c.pollInterval + c.pollInterval) (hp : Paced s name k n d' h) (hlate : late → c.timeout s ≤ d') :
    Spent c s name late h := by
  refine ⟨k, n, d', by omega, ?_, hp, hlate⟩
  have hrounds := Nat.mul_le_mul_right c.pollInterval hj
  rw [Nat.succ_mul]
  omega

theorem ensures_waitUntilHealthy_paced (hkeeps : c.timer.Keeps c.pollInterval) (report : StartReport) :
    (waitUntilHealthy c s name report).Ensures [] (fun _ h' => Spent c s name False h')
      fun e h' => ∃ t, Reported t h' ∧ Spent c s name (SaysLate name e) t := by
  rw [waitUntilHealthy, ensures_bind]
  refine (ensures_pollUntil_paced hkeeps (c.timeout s) paced_nil).mono ?_ ?_
  · rintro ⟨ready, report⟩ h ⟨j, hj, hp, hover⟩
    rw [Nat.zero_add, Nat.zero_add] at hp
    cases ready with
    | true => exact (ensures_pure _).2 (spent_of_round hj (by omega) (Nat.le_add_right _ _) hp False.elim)
    | false =>
      have hover := hover rfl
      simp only [Bool.false_eq_true, if_false, ensures_bind]
      refine (ensures_inspect_paced hp).mono ?_ ?_
      · rintro found h' ⟨hp, hseen⟩
        have hlast := @ensures_lastChance_paced c s name report _ _ _ _ _ hp hseen
        rw [Config.pauseLength_of_keeps hkeeps] at hlast
        refine hlast.mono ?_ ?_
        · rintro ⟨ready, report⟩ h'' ⟨k', d', hd, hd', hp⟩
          cases ready with
          | true => exact (ensures_pure _).2 (spent_of_round hj (by omega) hd' hp False.elim)
          | false =>
            refine (ensures_fail hp.noLogs).mono (fun _ _ hf => hf.elim) ?_
            rintro e t' ⟨hr, -⟩
            exact ⟨h'', hr, spent_of_round hj (by omega) hd' hp fun _ => Nat.le_trans hover hd⟩
        · rintro e h'' ⟨k', hp, hlate⟩
          refine ⟨h'', ⟨hp.noLogs, .inl rfl⟩, spent_of_round hj (by omega) (Nat.le_refl _) hp fun hsays => ?_⟩
          exact absurd hsays hlate
      · rintro e h' ⟨hp, hlate⟩
        refine ⟨h', ⟨hp.noLogs, .inl rfl⟩, spent_of_round hj (by omega) (Nat.le_add_right _ _) hp fun hsays => ?_⟩
        exact absurd hsays hlate
  · rintro e h' ⟨t, j, hj, hr, hp, hlate⟩
    rw [Nat.zero_add, Nat.zero_add] at hp
    refine ⟨t, hr, spent_of_round hj (by omega) (Nat.le_add_right _ _) hp fun hsays => absurd hsays hlate⟩

/-! ### When it is over -/

theorem endsWithin_fail {α : Type} {message : String} :
    (fail c s name message report : Procedure α).EndsWithin 2 := by
  apply endsWithin_bind (n := 0)
  · apply endsWithin_bind (m := 1) (n := 1) (endsWithin_engine _)
    intro answer
    exact endsWithin_bind (n := 0) (endsWithin_engine _) fun answer' => endsWithin_pure _
  · exact endsWithin_throw

theorem endsWithin_selfStart : (selfStart name report).EndsWithin 1 := by
  apply endsWithin_bind (m := 1) (n := 0)
  · apply endsWithin_bind (n := 0) (endsWithin_engine _)
    rintro (f | ⟨⟩)
    · exact endsWithin_pure _
    · exact endsWithin_pure _
  · rintro (e | ⟨⟩)
    · exact endsWithin_pure _
    · exact endsWithin_bind (m := 0) (n := 0) (endsWithin_record _) fun _ => endsWithin_pure _

theorem endsWithin_poll : (poll c s name report).EndsWithin 3 := by
  apply endsWithin_bind (m := 1) (n := 2) (endsWithin_engineIfFound _)
  rintro (_ | info)
  · exact endsWithin_fail
  · by_cases hready : info.isReady = true
    · simp only [hready, if_true]
      exact endsWithin_bind (m := 0) (n := 2) (endsWithin_record _) fun _ => endsWithin_pure _
    · simp only [hready, Bool.false_eq_true, if_false]
      apply endsWithin_bind (m := 0) (n := 2) (endsWithin_detail _)
      intro _
      apply endsWithin_bind (m := 1) (n := 1)
      · unfold selfStartIfCreated
        split
        · exact endsWithin_selfStart
        · exact endsWithin_pure _
      · exact fun _ => endsWithin_pure _

theorem endsWithin_pollUntil (report : StartReport) (left : Nat) :
    (pollUntil c s name report left).EndsWithin (4 * c.pausesWithin left + 3) := by
  induction report, left using pollUntil.induct c with
  | case1 report left ih =>
    have hround : (pollUntil c s name report left).EndsWithin (3 + 4 * c.pausesWithin left) := by
      rw [pollUntil]
      apply endsWithin_bind endsWithin_poll
      rintro ⟨ready, report⟩
      cases ready with
      | true => exact endsWithin_pure _
      | false =>
        by_cases hleft : left = 0
        · simpa [hleft] using endsWithin_pure _
        · simp only [hleft, Bool.false_eq_true, if_false, Config.pausesWithin_of_ne_zero hleft]
          have hrest := endsWithin_bind (endsWithin_sleep c.pauseLength) fun _ => ih report hleft
          exact hrest.mono (by omega)
    exact hround.mono (by omega)

theorem endsWithin_lastChance {status : Option String} :
    (lastChance c s name status report).EndsWithin 3 := by
  unfold lastChance
  split
  · apply endsWithin_bind (m := 1) (n := 2) endsWithin_selfStart
    intro report
    apply endsWithin_bind (m := 1) (n := 1) (endsWithin_sleep _)
    intro _
    apply endsWithin_bind (m := 1) (n := 0) (endsWithin_engineIfFound _)
    intro found
    by_cases hready : found.any (·.isReady) = true
    · simpa [hready] using endsWithin_bind (m := 0) (n := 0) (endsWithin_record _) fun _ => endsWithin_pure _
    · simpa [hready] using endsWithin_pure _
  · exact endsWithin_pure _

theorem endsWithin_waitUntilHealthy (c : Config) (s : Spec) (name : String) (report : StartReport) :
    (waitUntilHealthy c s name report).EndsWithin (4 * c.pausesWithin (c.timeout s * Timer.millisecond) + 9) := by
  have hall : (waitUntilHealthy c s name report).EndsWithin
      (4 * c.pausesWithin (c.timeout s * Timer.millisecond) + 3 + (1 + (3 + 2))) := by
    apply endsWithin_bind (endsWithin_pollUntil _ _)
    rintro ⟨ready, report⟩
    cases ready with
    | true => exact endsWithin_pure _
    | false =>
      apply endsWithin_bind (endsWithin_engineIfFound _)
      intro found
      apply endsWithin_bind endsWithin_lastChance
      rintro ⟨ready, report⟩
      cases ready with
      | true => exact endsWithin_pure _
      | false => exact endsWithin_fail
  exact hall

/-! ### The bounds -/

/-- With a timer that keeps to the interval between two looks, waiting is bounded, whatever is answered. It is over
after a number of steps that the time for it fixes; the loop looks once more than pauses fit into that time at
most; at most one pause more is slept; a container is not said to be late before the time is over; and all that
is changed are at most two starts more than pauses fit, each directly behind a look that found the container
created. -/
theorem waiting_is_bounded (c : Config) (hkeeps : c.timer.Keeps c.pollInterval) (s : Spec) (name : String)
    (report : StartReport) :
    (waitUntilHealthy c s name report).EndsWithin (4 * c.rounds s + 9) ∧
    ∀ t r, Program.Run (waitUntilHealthy c s name report).run t r →
      (∃ t₁ t₂ r₁, t = t₁ ++ t₂ ∧
        Program.Run (pollUntil c s name report (c.timeout s * Timer.millisecond)).run t₁ r₁ ∧
        t₁.looks.length ≤ c.rounds s + 1) ∧
      t.slept ≤ (c.rounds s + 1) * c.pollInterval ∧
      (∀ e, r = .error e → SaysLate name e → c.timeout s ≤ t.slept) ∧
      t.mutations.length ≤ c.rounds s + 2 ∧
      ∀ before e after, t = before ++ e :: after → StartsCreated s name before e := by
  refine ⟨?_, fun t r hr => ⟨?_, ?_⟩⟩
  · rw [← Config.pausesWithin_timeout hkeeps]
    exact endsWithin_waitUntilHealthy c s name report
  · rw [waitUntilHealthy] at hr
    obtain ⟨t₁, t₂, r₁, rfl, h₁⟩ := run_bind_left hr
    refine ⟨t₁, t₂, r₁, rfl, h₁, ?_⟩
    have hloop := ensures_pollUntil_paced hkeeps (c.timeout s) paced_nil t₁ r₁ h₁
    rw [← Config.rounds] at hloop
    rcases r₁ with e | p
    · obtain ⟨t, j, hj, hrep, hp, -⟩ := hloop
      rw [List.nil_append] at hrep
      rw [(hp.accounted hrep).looks]
      omega
    · obtain ⟨j, hj, hp, -⟩ := hloop
      rw [List.nil_append] at hp
      rw [(hp.accounted ⟨hp.noLogs, .inl rfl⟩).looks]
      omega
  · have hend := ensures_waitUntilHealthy_paced hkeeps report t r hr
    rcases r with e | a
    · obtain ⟨t', hrep, k, n, d, hn, hd, hp, hlate⟩ := hend
      obtain ⟨-, hstarts, hslept, horder⟩ := hp.accounted hrep
      subst hslept
      refine ⟨hd, ?_, Nat.le_trans hstarts hn, horder⟩
      rintro e' ⟨⟩
      exact hlate
    · obtain ⟨k, n, d, hn, hd, hp, -⟩ := hend
      obtain ⟨-, hstarts, hslept, horder⟩ := hp.accounted ⟨hp.noLogs, .inl rfl⟩
      subst hslept
      refine ⟨hd, ?_, Nat.le_trans hstarts hn, horder⟩
      rintro e ⟨⟩

/-! ### A container that stays created -/

/-- A world in which starts have no effect. -/
def stuckWorld : World := { engine := {
  containers := .ofList [("web", .ofFields [("State", .ofFields [("Status", .str "created")])])]
  ignoredStarts := 10 } }

/-- Two and a half seconds, in which three pauses are begun. -/
def shortConfig : Config := { pollInterval := 1000, waitTimeout := some 2500 }

def stuckHistory : History := Program.historyIn (waitUntilHealthy shortConfig {} "web" {}).run stuckWorld

/-- What waiting for the container ends with there. -/
def stuckResult : Except Error StartReport := ((waitUntilHealthy shortConfig {} "web" {}).runIn stuckWorld).1

theorem waiting_is_bounded_stuckWorld : ∃ e, stuckResult = .error e ∧ SaysLate "web" e ∧
    2500 ≤ stuckHistory.slept ∧ stuckHistory.mutations.length ≤ 5 := by
  have hkeeps : shortConfig.timer.Keeps shortConfig.pollInterval := Timer.keeps_punctual (by decide)
  obtain ⟨e, hresult, hlate⟩ : ∃ e, stuckResult = .error e ∧ SaysLate "web" e := by
    have htime : shortConfig.timeout {} = 2500 := rfl
    have hinterval : shortConfig.pollInterval = 1000 := rfl
    simp only [stuckResult, waitUntilHealthy, htime, pollUntil_left hkeeps, hinterval, Nat.reduceSub,
      OfNat.ofNat_ne_zero, ↓reduceIte]
    exact ⟨_, rfl, _, rfl, by decide +kernel⟩
  obtain ⟨-, hruns⟩ := waiting_is_bounded shortConfig hkeeps {} "web" {}
  obtain ⟨-, -, hover, hstarts, -⟩ := hruns stuckHistory stuckResult (Program.run_historyIn _ stuckWorld)
  exact ⟨e, hresult, hlate, hover e hresult hlate, hstarts⟩

end Reconcile

end Shipshape
