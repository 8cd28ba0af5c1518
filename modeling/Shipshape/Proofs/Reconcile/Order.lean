import Mathlib.Data.List.TakeWhile
import Shipshape.Proofs.Create.Request
import Shipshape.Proofs.Memory.Run
import Shipshape.Proofs.Reconcile.Asks

/-!
# The phases of a replacement

`replacement_in_phases`: whatever is answered, bringing a container up goes through its phases in order.
The image is there before anything is stopped or removed, nothing is created before the old container is
known to be gone, and after the one creation nothing is stopped or removed again. Waiting for a container
to end closes the account: a container that is run to its end may be removed.

Proof outline. A step is `Lawful` or not by what happened before it. Up to the creation (`Building`)
there are neither creations nor starts, so every step is lawful that takes nothing down without the image
(`HasImage`). The creation is lawful since the last thing heard of the container is that it is gone
(`SaysAbsent`). From then on (`Settled`) only steps follow that are neither creations nor take anything
down, until somebody waits for the container to end.
-/

namespace Shipshape

namespace Event

/-- The kind of call of a step, if it is one. -/
def kind? (e : Event) : Option CallKind := e.call?.map Call.kind

theorem kind?_ne {c : Call} {answer : c.Answer} {kinds : List CallKind} {kind : CallKind}
    (hc : c.kind ∈ kinds) (hk : kind ∉ kinds) : (answered c answer).kind? ≠ some kind := by
  intro h
  injection h with h
  exact hk (h ▸ hc)

theorem kind?_slept (ms : Nat) (kind : CallKind) : (slept ms).kind? ≠ some kind := by
  intro h
  cases h

/-- What a step says about a container: whether it is gone. Looking for it says that it is gone if the
answer is 404, and removing it if it succeeds. -/
def absence? (name : String) : Event → Option Bool
  | answered (.engine (.inspectContainer n)) answer =>
    if n = name then some (match answer with
      | .ok _ => false
      | .error f => f.isNotFound) else none
  | answered (.engine (.removeContainer n _)) answer =>
    if n = name then some (match answer with
      | .ok _ => true
      | .error _ => false) else none
  | _ => none

theorem absence?_of_storage {c : Call} {answer : c.Answer} {name : String} (hc : c.kind = .storage) :
    (answered c answer).absence? name = none := by
  cases c with
  | engine c => cases c <;> first | rfl | cases hc
  | unit c n => rfl
  | hostPath path => rfl

/-- The image of a specification is found locally, or fetched. -/
def FindsImage (s : Spec) (e : Event) : Prop :=
  ∃ reference, s.image = some reference ∧
    ((∃ image, e = .answered (.engine (.inspectImage reference)) (.ok image)) ∨
      ∃ image, e = .answered (.engine (.pullImage (Create.pullRequest s reference))) (.ok (some image)))

end Event

namespace History

/-- What happened before somebody waited for a container to end. -/
def beforeWait (t : History) : History := t.takeWhile fun e => e.kind? != some .wait

/-- The last thing heard of a container is that it is gone. -/
def SaysAbsent (name : String) (t : History) : Prop :=
  (t.filterMap (Event.absence? name)).getLast? = some true

/-- The image of a specification is there, or none is declared. -/
def HasImage (s : Spec) (t : History) : Prop :=
  s.image = none ∨ ∃ e ∈ t, e.FindsImage s

def Without (kind : CallKind) (t : History) : Prop := ∀ e ∈ t, e.kind? ≠ some kind

/-- A step that keeps to the phases, by what happened before: a container is created once, before any
start, and only if the old one is gone; nothing is stopped or removed behind a creation or without the
image. -/
structure Lawful (s : Spec) (before : History) (e : Event) : Prop where
  create : ∀ request answer, e = .answered (.engine (.createContainer request)) answer →
    before.Without .create ∧ before.Without .start ∧ before.SaysAbsent request.name
  takeDown : e.kind? = some .takeDown → before.Without .create ∧ before.HasImage s

/-- Every step keeps to the phases. -/
def InPhases (s : Spec) (t : History) : Prop :=
  ∀ before e after, t = before ++ e :: after → Lawful s before e

/-! ### One more step -/

variable {s : Spec} {t : History} {e : Event} {name : String}

theorem Without.step {kind : CallKind} (ht : t.Without kind) (he : e.kind? ≠ some kind) :
    Without kind (t ++ [e]) := by
  intro x hx
  rcases List.mem_append.1 hx with hx | hx
  · exact ht x hx
  · rwa [List.mem_singleton.1 hx]

theorem HasImage.step (ht : t.HasImage s) : HasImage s (t ++ [e]) := by
  rcases ht with hnone | ⟨x, hx, hfinds⟩
  · exact .inl hnone
  · exact .inr ⟨x, List.mem_append_left _ hx, hfinds⟩

theorem SaysAbsent.step (ht : t.SaysAbsent name) (he : e.absence? name = none) :
    SaysAbsent name (t ++ [e]) := by
  simpa [SaysAbsent, he] using ht

theorem saysAbsent_of_notFound {f : Fault} (hf : f.isNotFound = true) :
    SaysAbsent name (t ++ [.answered (.engine (.inspectContainer name)) (.error f)]) := by
  simp [SaysAbsent, Event.absence?, hf]

theorem saysAbsent_of_removed {force : Bool} :
    SaysAbsent name (t ++ [.answered (.engine (.removeContainer name force)) (.ok ())]) := by
  simp [SaysAbsent, Event.absence?]

theorem InPhases.step (ht : t.InPhases s) (he : Lawful s t e) : InPhases s (t ++ [e]) :=
  forall_step ht he

/-! ### Before the creation -/

/-- Nothing was created, started, or waited for so far, and every step kept to the phases. -/
structure Building (s : Spec) (t : History) : Prop where
  noCreate : t.Without .create
  noStart : t.Without .start
  noWait : t.Without .wait
  inPhases : t.InPhases s

theorem without_nil {kind : CallKind} : Without kind [] := by
  intro e he
  cases he

theorem building_nil : Building s [] := by
  refine ⟨without_nil, without_nil, without_nil, ?_⟩
  intro before e after h
  simp at h

theorem Building.step (ht : Building s t)
    (he : e.kind? ≠ some .create ∧ e.kind? ≠ some .start ∧ e.kind? ≠ some .wait)
    (himage : e.kind? = some .takeDown → t.HasImage s) : Building s (t ++ [e]) := by
  obtain ⟨hcreate, hstart, hwait⟩ := he
  refine ⟨ht.noCreate.step hcreate, ht.noStart.step hstart, ht.noWait.step hwait, ?_⟩
  refine ht.inPhases.step ⟨?_, fun hdown => ⟨ht.noCreate, himage hdown⟩⟩
  rintro request answer rfl
  exact absurd rfl hcreate

/-! ### From the creation on -/

/-- Every step kept to the phases before somebody waited for a container to end. -/
def Settled (s : Spec) (t : History) : Prop := t.beforeWait.InPhases s

/-- Somebody waited for a container to end. -/
def Waited (t : History) : Prop := ∃ e ∈ t, e.kind? = some .wait

theorem beforeWait_of_without (ht : t.Without .wait) : t.beforeWait = t := by
  rw [beforeWait, List.takeWhile_eq_self_iff]
  intro e he
  simpa using ht e he

theorem beforeWait_append_of_waited (ht : t.Waited) (t' : History) :
    beforeWait (t ++ t') = t.beforeWait := by
  obtain ⟨e, he, hwait⟩ := ht
  rw [beforeWait, List.takeWhile_append, if_neg]
  · rfl
  · intro hlen
    have hall := List.takeWhile_eq_self_iff.1
      ((List.takeWhile_prefix _).eq_of_length hlen) e he
    simp [hwait] at hall

theorem Building.settled (ht : Building s t) : Settled s t := by
  rw [Settled, beforeWait_of_without ht.noWait]
  exact ht.inPhases

theorem Settled.step_of_waited (ht : Settled s t) (hw : t.Waited) : Settled s (t ++ [e]) := by
  rwa [Settled, beforeWait_append_of_waited hw]

theorem Settled.step (ht : Settled s t)
    (he : e.kind? ≠ some .create ∧ e.kind? ≠ some .takeDown) : Settled s (t ++ [e]) := by
  obtain ⟨hcreate, hdown⟩ := he
  by_cases hw : t.Waited
  · exact ht.step_of_waited hw
  · have hwithout : t.Without .wait := fun x hx hwait => hw ⟨x, hx, hwait⟩
    rw [Settled, beforeWait_of_without hwithout] at ht
    by_cases hwait : e.kind? = some .wait
    · have hstop : beforeWait (t ++ [e]) = t := by
        rw [beforeWait, List.takeWhile_append_of_pos fun x hx => by simpa using hwithout x hx]
        simp [hwait]
      rwa [Settled, hstop]
    · rw [Settled, beforeWait_of_without (hwithout.step hwait)]
      refine ht.step ⟨?_, fun h => absurd h hdown⟩
      rintro request answer rfl
      exact absurd rfl hcreate

theorem Building.create {request : ContainerRequest} {answer : Except Fault Unit}
    (ht : Building s t) (habsent : t.SaysAbsent request.name) :
    Settled s (t ++ [.answered (.engine (.createContainer request)) answer]) := by
  rw [Settled, beforeWait_of_without (ht.noWait.step (by simp [Event.kind?, Event.call?, Call.kind]))]
  refine ht.inPhases.step ⟨?_, fun h => (by cases h)⟩
  rintro request' answer' ⟨⟩
  exact ⟨ht.noCreate, ht.noStart, habsent⟩

end History

open History Procedure

variable {s : Spec} {h : History} {name : String}

/-! ### What keeps to the phases -/

theorem keeps_building_hasImage {α : Type} {p : Procedure α}
    (hp : p.AsksKinds [.look, .probe, .storage, .fetch, .takeDown, .restart]) :
    p.Keeps fun h => Building s h ∧ h.HasImage s := by
  refine hp.keeps ?_ ?_
  · rintro h c answer hc ⟨hb, hi⟩
    exact ⟨hb.step ⟨Event.kind?_ne hc (by decide), Event.kind?_ne hc (by decide),
      Event.kind?_ne hc (by decide)⟩ fun _ => hi, hi.step⟩
  · rintro h ms ⟨hb, hi⟩
    exact ⟨hb.step ⟨Event.kind?_slept _ _, Event.kind?_slept _ _, Event.kind?_slept _ _⟩ fun _ => hi,
      hi.step⟩

theorem keeps_building {α : Type} {p : Procedure α}
    (hp : p.AsksKinds [.look, .probe, .storage, .fetch, .restart]) : p.Keeps (Building s) := by
  refine hp.keeps ?_ ?_
  · intro h c answer hc hb
    exact hb.step ⟨Event.kind?_ne hc (by decide), Event.kind?_ne hc (by decide),
      Event.kind?_ne hc (by decide)⟩ fun h => absurd h (Event.kind?_ne hc (by decide))
  · intro h ms hb
    exact hb.step ⟨Event.kind?_slept _ _, Event.kind?_slept _ _, Event.kind?_slept _ _⟩
      fun h => absurd h (Event.kind?_slept _ _)

theorem keeps_settled {α : Type} {p : Procedure α}
    (hp : p.AsksKinds [.look, .probe, .storage, .fetch, .start, .wait, .restart]) : p.Keeps (Settled s) := by
  refine hp.keeps ?_ ?_
  · intro h c answer hc hs
    exact hs.step ⟨Event.kind?_ne hc (by decide), Event.kind?_ne hc (by decide)⟩
  · intro h ms hs
    exact hs.step ⟨Event.kind?_slept _ _, Event.kind?_slept _ _⟩

theorem keeps_settled_waited {α : Type} (p : Procedure α) :
    p.Keeps fun h => Settled s h ∧ h.Waited := by
  have hstep : ∀ (h : History) (e : Event), Settled s h ∧ h.Waited →
      Settled s (h ++ [e]) ∧ History.Waited (h ++ [e]) := by
    rintro h e ⟨hs, x, hx, hwait⟩
    exact ⟨hs.step_of_waited ⟨x, hx, hwait⟩, x, List.mem_append_left _ hx, hwait⟩
  have hany : p.Asks fun _ => True := Program.asks_anything p.run
  exact hany.keeps (fun h _ _ _ hI => hstep h _ hI) fun h _ hI => hstep h _ hI

namespace Worker

theorem ensures_pullImage_hasImage :
    (pullImage s).Ensures h (fun _ h' => h'.HasImage s) fun _ _ => True := by
  rw [pullImage, ensures_bind, ensures_ofExcept, Spec.requireImage]
  cases himage : s.image with
  | none => trivial
  | some reference =>
    dsimp only
    rw [ensures_bind]
    refine (ensures_true _).mono (fun previous h' _ => ?_) fun _ _ _ => trivial
    rw [ensures_bind, ensures_engine]
    rintro (f | _ | image)
    · rw [ensures_throw]
      trivial
    · rw [ensures_throw]
      trivial
    · rw [ensures_pure]
      exact .inr ⟨_, by simp, reference, himage, .inr ⟨image, rfl⟩⟩

theorem ensures_ensureImage_hasImage :
    (ensureImage s).Ensures h (fun _ h' => h'.HasImage s) fun _ _ => True := by
  cases himage : s.image with
  | none =>
    simp only [ensureImage, himage, Option.isNone_none, if_true, ensures_pure]
    exact .inl himage
  | some reference =>
    simp only [ensureImage, checkImage, himage, Option.isNone_some, Bool.false_eq_true, if_false,
      ensures_bind, ensures_engineIfFound, Option.isSome_some, Option.isSome_none, if_true,
      ensures_pure]
    refine ⟨fun image => .inr ⟨_, by simp, reference, himage, .inl ⟨image, rfl⟩⟩, fun f => ?_⟩
    split
    · exact ensures_pullImage_hasImage
    · trivial

theorem ensures_ensureImage (hb : Building s h) :
    (ensureImage s).Ensures h (fun _ h' => Building s h' ∧ h'.HasImage s)
      fun _ h' => Building s h' :=
  ((keeps_building (asks_ensureImage.mono (by decide)) h hb).and
    ensures_ensureImage_hasImage).mono (fun _ _ hI => hI) fun _ _ hI => hI.1

theorem ensures_inspect_saysAbsent :
    (inspect name).Ensures h (fun info h' => info = none → h'.SaysAbsent name) fun _ _ => True := by
  rw [inspect, ensures_engineIfFound]
  refine ⟨fun info hnone => (by cases hnone), fun f => ?_⟩
  split
  · next hf => exact fun _ => saysAbsent_of_notFound hf
  · trivial

theorem ensures_removeContainer_saysAbsent (hname : s.name = some name) :
    (removeContainer s).Ensures h (fun _ h' => h'.SaysAbsent name) fun _ _ => True := by
  rw [removeContainer, ensures_bind, ensures_ofExcept, Spec.requireName, hname]
  dsimp only
  rw [ensures_bind, ensures_unit]
  intro removed
  rw [ensures_bind]
  refine ensures_inspect_saysAbsent.mono ?_ fun _ _ _ => trivial
  rintro (_ | info) h' habsent
  · exact (ensures_pure _).2 (habsent rfl)
  · simp only [Option.isNone_some, Bool.false_eq_true, if_false]
    rw [ensures_bind, ensures_engine]
    rintro (f | ⟨⟩)
    · rw [ensures_bind]
      refine ensures_inspect_saysAbsent.mono ?_ fun _ _ _ => trivial
      rintro (_ | info) h'' habsent
      · exact (ensures_pure _).2 (habsent rfl)
      · exact (ensures_throw _).2 trivial
    · exact (ensures_pure _).2 saysAbsent_of_removed

theorem ensures_takeDown (hname : s.name = some name) (hb : Building s h) (hi : h.HasImage s)
    {α : Type} {p : Procedure α} {good : α → History → Prop}
    (hp : ∀ h', Building s h' → h'.HasImage s → h'.SaysAbsent name →
      p.Ensures h' good fun _ h'' => Settled s h'') :
    (do discard (stopContainer s)
        discard (removeContainer s)
        p).Ensures h good fun _ h' => Settled s h' := by
  rw [ensures_bind, ensures_discard]
  refine (keeps_building_hasImage (asks_stopContainer.mono (by decide)) h ⟨hb, hi⟩).mono ?_ ?_
  · rintro stopped h' ⟨hb, hi⟩
    rw [ensures_bind, ensures_discard]
    refine ((keeps_building_hasImage (asks_removeContainer.mono (by decide)) h' ⟨hb, hi⟩).and
      (ensures_removeContainer_saysAbsent hname)).mono ?_ ?_
    · rintro removed h'' ⟨⟨hb, hi⟩, habsent⟩
      exact hp h'' hb hi habsent
    · rintro e h'' ⟨⟨hb, -⟩, -⟩
      exact hb.settled
  · rintro e h' ⟨hb, -⟩
    exact hb.settled

theorem ensures_createContainer (hname : s.name = some name) (hb : Building s h)
    (habsent : h.SaysAbsent name) :
    (createContainer s).Ensures h (fun _ h' => Settled s h') fun _ h' => Settled s h' := by
  have hstorage : (provisionVolumes s).Ensures h (fun _ h' => h'.SaysAbsent name) fun _ _ => True := by
    have hkeeps : (provisionVolumes s).Keeps fun h' => h'.SaysAbsent name := by
      refine asks_provisionVolumes.keeps ?_ fun _ _ hI => hI.step rfl
      intro h' c answer hc hI
      exact hI.step (Event.absence?_of_storage (List.mem_singleton.1 hc))
    exact (hkeeps h habsent).mono (fun _ _ hI => hI) fun _ _ _ => trivial
  rw [createContainer, ensures_bind, ensures_discard]
  refine ((keeps_building (asks_provisionVolumes.mono (by decide)) h hb).and hstorage).mono ?_ ?_
  · rintro made h' ⟨hb, habsent⟩
    rw [ensures_bind, ensures_ofExcept]
    cases hrequest : Create.request s with
    | error e => exact hb.settled
    | ok request =>
      have hreq : request.name = name := by
        have := (Create.request_requested hrequest).name
        rw [hname] at this
        injection this with this
        exact this.symm
      have hcreated : ∀ answer : Except Fault Unit,
          Settled s (h' ++ [.answered (.engine (.createContainer request)) answer]) := fun answer =>
        hb.create (hreq ▸ habsent)
      dsimp only
      rw [ensures_bind, ensures_engineOrFail]
      refine ⟨fun _ => ?_, fun f => hcreated (.error f)⟩
      refine keeps_settled ?_ _ (hcreated (.ok ()))
      split
      · exact asks_bind (asks_ofExcept _) fun name =>
          asks_bind (asks_discard (asks_unit (by simp [Call.kind]))) fun _ => asks_pure true
      · exact asks_pure true
  · rintro e h' ⟨hb, -⟩
    exact hb.settled

end Worker

namespace Reconcile

variable {c : Comparator} {config : Config}

theorem ensures_replaceIfDrifted {info : Inspection} (hname : s.name = some name)
    (hb : Building s h) (hi : h.HasImage s) :
    (replaceIfDrifted c s name info).Ensures h
      (fun kept h' => Building s h' ∧ (kept = false → h'.SaysAbsent name))
      fun _ h' => Settled s h' := by
  rw [replaceIfDrifted, ensures_bind]
  refine (keeps_building_hasImage (asks_compareWith.mono (by decide)) h ⟨hb, hi⟩).mono ?_ ?_
  · rintro drift h' ⟨hb, hi⟩
    split
    · rw [ensures_bind, ensures_record]
      refine Worker.ensures_takeDown hname hb hi fun h'' hb _ habsent => ?_
      rw [ensures_pure]
      exact ⟨hb, fun _ => habsent⟩
    · rw [ensures_pure]
      exact ⟨hb, fun h => by cases h⟩
  · rintro e h' ⟨hb, -⟩
    exact hb.settled

theorem ensures_createUnless {α : Type} {kept : Bool} {a : α} {f : Unit → Procedure α}
    (hname : s.name = some name) (hb : Building s h) (habsent : kept = false → h.SaysAbsent name)
    (hf : ∀ u, (f u).AsksKinds [.look]) :
    (if kept = true then pure a else discard (Worker.createContainer s) >>= f).Ensures h
      (fun _ h' => Settled s h') fun _ h' => Settled s h' := by
  cases kept with
  | true => exact (ensures_pure a).2 hb.settled
  | false =>
    refine (ensures_bind _ _).2 ((ensures_discard _).2 ?_)
    refine (Worker.ensures_createContainer hname hb (habsent rfl)).mono ?_ fun _ _ hs => hs
    exact fun _ h' hs => keeps_settled ((hf ()).mono (by decide)) h' hs

theorem ensures_ensureContainer (hname : s.name = some name) (hb : Building s h)
    (hi : h.HasImage s) :
    (ensureContainer c s name).Ensures h (fun _ h' => Settled s h') fun _ h' => Settled s h' := by
  have hrest : ∀ u : Unit, (do
      record ("created container " ++ name)
      return (← Worker.inspect name, true) : Procedure _).AsksKinds [.look] := fun _ =>
    asks_bind (asks_record _) fun _ => asks_bind Worker.asks_inspect fun _ => asks_pure _
  rw [ensureContainer, ensures_bind]
  refine ((keeps_building_hasImage (Worker.asks_inspect.mono (by decide)) h ⟨hb, hi⟩).and
    Worker.ensures_inspect_saysAbsent).mono ?_ fun e h' hI => hI.1.1.settled
  rintro info h' ⟨⟨hb, hi⟩, habsent⟩
  cases info with
  | none =>
    refine (ensures_bind _ _).2 ((ensures_pure false).2 ?_)
    exact ensures_createUnless hname hb (fun _ => habsent rfl) hrest
  | some info =>
    refine (ensures_bind _ _).2 ((ensures_replaceIfDrifted hname hb hi).mono ?_ fun _ _ hs => hs)
    rintro kept h'' ⟨hb, habsent⟩
    exact ensures_createUnless hname hb habsent hrest

theorem keeps_collectRun {o : Outcome} : (collectRun s name o).Keeps (Settled s) := by
  intro h hs
  have hwait : ∀ answer : Except Fault Int,
      Settled s (h ++ [.answered (.engine (.waitContainer name)) answer]) ∧
        History.Waited (h ++ [.answered (.engine (.waitContainer name)) answer]) := by
    refine fun answer => ⟨hs.step ⟨?_, ?_⟩, _, List.mem_append_right _ (.head _), rfl⟩
    · exact fun h => by cases h
    · exact fun h => by cases h
  rw [collectRun, ensures_bind, Worker.waitExit, ensures_engineOrFail]
  refine ⟨fun exitCode => ?_, fun f => (hwait (.error f)).1⟩
  exact (keeps_settled_waited _ _ (hwait (.ok exitCode))).mono (fun _ _ hI => hI.1) fun _ _ hI => hI.1

theorem ensures_startContainer {o : Outcome} (hb : Building s h) :
    (startContainer c config s o).Ensures h (fun _ h' => Settled s h') fun _ h' => Settled s h' := by
  rw [startContainer, ensures_bind, ensures_ofExcept]
  cases hname : s.requireName .startContainer with
  | error e => exact hb.settled
  | ok name =>
    have hname := Spec.requireName_eq_ok.1 hname
    have himage : (ensureImageNoted s).Ensures h (fun _ h' => Building s h' ∧ h'.HasImage s)
        fun _ h' => Building s h' := by
      rw [ensureImageNoted, ensures_bind]
      refine (Worker.ensures_ensureImage hb).mono ?_ fun _ _ hb => hb
      intro pulled h' hI
      refine (keeps_building_hasImage ?_ h' hI).mono (fun _ _ hI => hI) fun _ _ hI => hI.1
      exact asks_when (asks_record _) fun _ => asks_pure pulled
    dsimp only
    rw [ensures_bind]
    refine himage.mono ?_ fun _ _ hb => hb.settled
    rintro pulled h' ⟨hb, hi⟩
    rw [ensures_bind]
    refine (ensures_ensureContainer hname hb hi).mono ?_ fun _ _ hs => hs
    rintro ⟨info, made⟩ h' hs
    refine keeps_update (keeps_settled (asks_startExisting.mono (by decide))) (fun o => ?_) h' hs
    refine keeps_update (keeps_settled (asks_waitUntilHealthy.mono (by decide))) fun o => ?_
    split
    · exact keeps_pure o
    · exact keeps_collectRun

theorem ensures_carryOut {d : Decision} {o : Outcome} (hname : s.name = some name)
    (hb : Building s h) :
    (carryOut c config s name d o).Ensures h (fun _ h' => Settled s h') fun _ h' => Settled s h' := by
  cases d with
  | noOp => exact (ensures_pure o).2 hb.settled
  | create => exact ensures_startContainer hb
  | recreate =>
    refine (ensures_bind _ _).2 ((ensures_discard _).2 ?_)
    refine (Worker.ensures_ensureImage hb).mono ?_ fun _ _ hb => hb.settled
    rintro pulled h' ⟨hb, hi⟩
    rw [ensures_bind, ensures_record]
    exact Worker.ensures_takeDown hname hb hi fun h'' hb _ _ => ensures_startContainer hb
  | restart =>
    refine keeps_settled (asks_bind (asks_record _) fun _ => ?_) h hb.settled
    refine asks_bind (Worker.asks_restartContainer.mono (by decide)) fun report => ?_
    exact asks_bind (asks_waitIfAsked.mono (by decide)) fun _ => asks_pure _
  | startOnly =>
    refine keeps_settled (asks_bind (asks_startExisting.mono (by decide)) fun report => ?_) h hb.settled
    exact asks_bind (asks_waitIfAsked.mono (by decide)) fun _ => asks_pure _

theorem ensures_recreateOrRestart (hb : Building s h) :
    (recreateOrRestart c config s).Ensures h (fun _ h' => Settled s h') fun _ h' => Settled s h' := by
  rw [recreateOrRestart, ensures_bind, ensures_ofExcept]
  cases hname : s.requireName .recreateOrRestartContainer with
  | error e => exact hb.settled
  | ok name =>
    dsimp only
    rw [ensures_bind]
    refine (keeps_building (asks_assess.mono (by decide)) h hb).mono ?_ fun _ _ hb => hb.settled
    intro a h' hb
    exact ensures_carryOut (Spec.requireName_eq_ok.1 hname) hb

end Reconcile

/-- Starting a container, or bringing it to its specification, keeps to the phases up to the wait for the end
of the container: whatever is answered, every step is lawful after those before it. -/
theorem Reconciler.replacement_in_phases (r : Reconciler) (a : Action) (s : Spec)
    (ha : a = .startContainer ∨ a = .recreateOrRestartContainer) (t : History)
    (result : Except Error Outcome) (hr : Program.Run (r.run a s).run t result)
    (before : History) (e : Event) (after : History) (h : t.beforeWait = before ++ e :: after) :
    Lawful s before e := by
  have hperform : (r.perform a s).Ensures [] (fun _ h' => Settled s h') fun _ h' => Settled s h' := by
    rcases ha with rfl | rfl
    · rw [Reconciler.perform, ensures_bind, ensures_ofExcept]
      split
      · exact Reconcile.ensures_startContainer building_nil
      · exact building_nil.settled
    · exact Reconcile.ensures_recreateOrRestart building_nil
  have hrun : (r.run a s).Ensures [] (fun _ h' => Settled s h') fun _ h' => Settled s h' := by
    rw [Reconciler.ensures_run]
    split
    · exact hperform
    · exact building_nil.settled
  have hs := hrun t result hr
  cases result with
  | ok o => exact hs before e after h
  | error e' => exact hs before e after h

/-! ### A container with another image -/

/-- A specification with nothing but a name and an image. -/
def plainSpec : Spec := { name := some "web", image := some "nginx" }

/-- A world in which the container runs with another image. -/
def outdatedWorld : World := { engine := {
  images := .ofList [("nginx", { id := "new" })]
  containers := .ofList [("web", .ofFields [("Image", .str "old"),
    ("State", .ofFields [("Status", .str "running")])])] } }

/-- How the container is brought to its specification there. -/
def replacementHistory : History :=
  Program.historyIn ((Reconciler.ofSpec plainSpec {} .path).run .recreateOrRestartContainer plainSpec).run
    outdatedWorld

theorem replacementHistory_kinds : replacementHistory.beforeWait.map Event.kind? =
    [some .look, some .look, some .look, some .look, some .look, some .takeDown, some .takeDown,
      some .look, some .takeDown, some .look, some .look] ++
    [some .create, some .look, some .start] := by
  decide +kernel

theorem replacement_in_phases_outdatedWorld : ∃ before e after,
    replacementHistory.beforeWait = before ++ e :: after ∧ e.kind? = some .create ∧
      Lawful plainSpec before e := by
  obtain ⟨before, rest, h, -, hrest⟩ := List.map_eq_append_iff.1 replacementHistory_kinds
  obtain ⟨e, after, rfl, he, -⟩ := List.map_eq_cons_iff.1 hrest
  exact ⟨before, e, after, h, he, Reconciler.replacement_in_phases _ _ _ (.inr rfl) _ _
    (Program.run_historyIn _ _) before e after h⟩

end Shipshape
