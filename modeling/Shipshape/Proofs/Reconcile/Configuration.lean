import Shipshape.Proofs.Drift.Views
import Shipshape.Proofs.Memory.Run
import Shipshape.Proofs.Reconcile.Asks
import Shipshape.Proofs.Worker.Errors

/-!
# Configuration errors and changes

An error that holds the declared container itself to be at fault should come before anything is changed.
`configuration_errors_first_iff` says of which invocations this is true against every environment: of all
but those that can reach a comparison or a request behind a change (`FailsLate`).

Proof outline. Most actions raise no configuration error at all once their parameters are there
(`ensures_perform`), and the comparing ones change nothing. What is left are the two actions that bring a
container up. A specification that is refused at once changes nothing. Without an image, nothing is
changed if no container can be compared with the specification and no volume has to be made
(`ensures_recreateOrRestart_of_none`). In every other case there is a run that changes something and then
fails (`FailsLate.mayFail`): behind a fetched image a live container may be unreadable, and without an image the
request for a new container fails, which is noticed behind the removal of the old one and behind the creation
of its volumes.
-/

namespace Shipshape

namespace History

variable {t : History}

theorem untouched_nil : Untouched [] := by
  intro c hc
  cases hc

theorem Untouched.step (h : t.Untouched) {c : Call} {answer : c.Answer}
    (hc : c.isMutating = false) : Untouched (t ++ [.answered c answer]) := by
  intro c' hc'
  simp only [calls, List.filterMap_append, List.mem_append] at hc'
  rcases hc' with hc' | hc'
  · exact h c' hc'
  · simp only [List.filterMap_cons, List.filterMap_nil, Event.call?, List.mem_singleton] at hc'
    rw [hc', hc]

theorem Untouched.pause (h : t.Untouched) {ms : Nat} : Untouched (t ++ [.slept ms]) := by
  intro c hc
  simp only [calls, List.filterMap_append, List.mem_append] at hc
  rcases hc with hc | hc
  · exact h c hc
  · cases hc

end History

open History Procedure

theorem Procedure.keeps_untouched {α : Type} {p : Procedure α}
    (hp : p.Asks fun c => c.isMutating = false) : p.Keeps Untouched :=
  hp.keeps (fun _ _ _ hc h => h.step hc) fun _ _ h => h.pause

theorem Procedure.AsksKinds.keeps_untouched {α : Type} {p : Procedure α}
    (hp : p.AsksKinds [.look, .probe]) : p.Keeps Untouched :=
  Procedure.keeps_untouched (Asks.mono hp fun _ => Call.isMutating_of_look)

theorem Procedure.AsksKinds.untouched {α : Type} {p : Procedure α} (hp : p.AsksKinds [.look, .probe])
    {result : Except Error α} (h : Program.Run p.run t result) : t.Untouched := by
  have hafter := hp.keeps_untouched [] untouched_nil t result h
  cases result with
  | ok a => exact hafter
  | error e => exact hafter

/-- The error comes first: a run that ends in a configuration error changed nothing. -/
abbrev ConfigurationFirst (e : Error) (h : History) : Prop := e.isConfiguration = true → h.Untouched

namespace Reconciler

variable {r : Reconciler} {a : Action} {s : Spec}

theorem first_of_raises {α : Type} {p : Procedure α} (hp : p.Raises Worker.Foreign) :
    p.Ensures [] (fun _ _ => True) ConfigurationFirst := by
  refine (hp []).mono (fun _ _ ha => ha) fun e h hforeign he => ?_
  rw [hforeign.1] at he
  cases he

theorem first_of_keeps {α : Type} {p : Procedure α} (hp : p.Keeps Untouched) :
    p.Ensures [] (fun _ _ => True) ConfigurationFirst :=
  (hp [] untouched_nil).mono (fun _ _ _ => trivial) fun _ _ h _ => h

/-- All actions but those that bring a container up look only, or raise no configuration error. -/
theorem ensures_perform (hstart : a ≠ .startContainer) (hrecreate : a ≠ .recreateOrRestartContainer)
    (hv : s.validateFor a = .ok ()) :
    (r.perform a s).Ensures [] (fun _ _ => True) ConfigurationFirst := by
  cases a with
  | compareContainer =>
    exact first_of_keeps (AsksKinds.keeps_untouched
      (asks_bind Reconcile.asks_assess fun _ => asks_pure _))
  | compareImage =>
    exact first_of_keeps (AsksKinds.keeps_untouched (Reconcile.asks_compareImage.mono (by decide)))
  | createVolume =>
    obtain ⟨name, hname⟩ := Spec.name_of_validateFor hv rfl
    exact first_of_raises (raises_bind (Worker.raises_requireName _ hname) fun name =>
      raises_bind Worker.raises_createVolume fun _ => raises_pure _)
  | ensureImage => exact first_of_raises (raises_bind Worker.raises_ensureImage fun _ => raises_pure _)
  | pullImage =>
    obtain ⟨image, himage⟩ := Spec.image_of_validateFor hv rfl
    exact first_of_raises (raises_bind (Worker.raises_pullImage himage) fun _ => raises_pure _)
  | recreateOrRestartContainer => exact absurd rfl hrecreate
  | removeContainer =>
    obtain ⟨name, hname⟩ := Spec.name_of_validateFor hv rfl
    exact first_of_raises (raises_bind (Worker.raises_removeContainer hname) fun _ => raises_pure _)
  | removeImage =>
    obtain ⟨image, himage⟩ := Spec.image_of_validateFor hv rfl
    exact first_of_raises (raises_bind (Worker.raises_removeImage himage) fun _ => raises_pure _)
  | removeVolume =>
    obtain ⟨name, hname⟩ := Spec.name_of_validateFor hv rfl
    exact first_of_raises (raises_bind (Worker.raises_requireName _ hname) fun name =>
      raises_bind Worker.raises_removeVolume fun _ => raises_pure _)
  | restartContainer =>
    obtain ⟨name, hname⟩ := Spec.name_of_validateFor hv rfl
    exact first_of_raises (raises_bind (Worker.raises_restartContainer hname) fun _ => raises_pure _)
  | startContainer => exact absurd rfl hstart
  | stopContainer =>
    obtain ⟨name, hname⟩ := Spec.name_of_validateFor hv rfl
    exact first_of_raises (raises_bind (Worker.raises_stopContainer hname) fun _ => raises_pure _)
  | stopAndRemoveContainer =>
    obtain ⟨name, hname⟩ := Spec.name_of_validateFor hv rfl
    refine first_of_raises (raises_bind (Worker.raises_requireName _ hname) fun name =>
      raises_bind Worker.raises_inspect fun info => ?_)
    split
    · exact raises_pure _
    · exact raises_bind (raises_discard (Worker.raises_stopContainer hname)) fun _ =>
        raises_bind (raises_discard (Worker.raises_removeContainer hname)) fun _ => raises_pure _

end Reconciler

/-! ### Specifications without an image -/

/-- A container is conceivable that can be compared with the specification, which has no image. -/
def Comparator.Comparable (c : Comparator) (s : Spec) : Prop := ∃ live d, c.compare s live none = .ok d

/-- The specification mounts a volume that is made before the container is. -/
def Spec.MakesVolumes (s : Spec) : Prop :=
  s.engine = .podman ∧ ∃ vs v, Create.Podman.storage s.volumes = .ok vs ∧ .named v ∈ vs

namespace Worker

variable {s : Spec} {h : History}

theorem checkImage_of_none (himage : s.image = none) : checkImage s = pure none := by
  rw [checkImage, himage]

theorem ensureImage_of_none (himage : s.image = none) : ensureImage s = pure false := by
  rw [ensureImage, himage]
  rfl

theorem request_of_none {name : String} (hname : s.name = some name) (himage : s.image = none) :
    Create.request s = .error (.missingParameter "start_container" "image") := by
  have hbase : Create.base s = .error (.missingParameter "start_container" "image") := by
    rw [Create.base, Spec.requireName, hname, Spec.requireImage, himage]
    rfl
  rw [Create.request]
  split
  · rw [Create.Docker.request, hbase]
    rfl
  · rw [Create.Podman.request, hbase]
    rfl

theorem keeps_provisionVolumes (hvolumes : ¬ s.MakesVolumes) :
    (provisionVolumes s).Keeps Untouched := by
  have hall : ∀ vs : List Create.Podman.Storage, (∀ v, .named v ∉ vs) →
      (provisionAll vs).Asks fun c => c.isMutating = false := by
    intro vs hvs
    induction vs with
    | nil => exact asks_pure false
    | cons v vs ih =>
      have hrest := ih fun v hv => hvs v (List.mem_cons_of_mem _ hv)
      refine asks_bind ?_ fun _ => asks_bind hrest fun _ => asks_pure _
      cases v with
      | named v => exact absurd (List.mem_cons_self ..) (hvs v)
      | mount m =>
        rw [provision]
        split
        · refine asks_bind (p := ExceptT.lift _) ⟨rfl, fun _ => trivial⟩ fun made => ?_
          split
          · exact asks_pure _
          · exact asks_throw _
        · exact asks_pure false
  refine keeps_untouched ?_
  unfold provisionVolumes
  split
  · exact asks_pure false
  · next hengine =>
    cases hstorage : Create.Podman.storage s.volumes with
    | error e => exact asks_throw e
    | ok vs =>
      exact hall vs fun v hv => hvolumes ⟨hengine, vs, v, hstorage, hv⟩

theorem ensures_createContainer_of_none {name : String} (hname : s.name = some name) (himage : s.image = none)
    (hvolumes : ¬ s.MakesVolumes) (hu : h.Untouched) :
    (createContainer s).Ensures h (fun _ _ => False) fun _ h' => h'.Untouched := by
  rw [createContainer, ensures_bind, ensures_discard]
  refine (keeps_provisionVolumes hvolumes h hu).mono (fun _ h' hu' => ?_) fun _ _ hu' => hu'
  rw [ensures_bind, ensures_ofExcept, request_of_none hname himage]
  exact hu'

end Worker

namespace Reconcile

variable {c : Comparator} {config : Config} {s : Spec} {h : History}

theorem compareWith_of_none (himage : s.image = none) (hcomparable : ¬ c.Comparable s)
    (live : Inspection) : ∃ e, compareWith c s live = throw e := by
  cases hcompare : c.compare s live none with
  | ok d => exact absurd ⟨live, d, hcompare⟩ hcomparable
  | error e =>
    refine ⟨e, ?_⟩
    rw [compareWith, Worker.checkImage_of_none himage]
    show Procedure.ofExcept (c.compare s live none) >>= _ = _
    rw [hcompare]
    rfl

theorem ensures_ensureContainer_of_none {name : String} (hname : s.name = some name) (himage : s.image = none)
    (hcomparable : ¬ c.Comparable s) (hvolumes : ¬ s.MakesVolumes) (hu : h.Untouched) :
    (ensureContainer c s name).Ensures h (fun _ _ => False) fun _ h' => h'.Untouched := by
  rw [ensureContainer, ensures_bind]
  refine (AsksKinds.keeps_untouched (Worker.asks_inspect.mono (by decide)) h hu).mono (fun info h' hu' => ?_)
    fun _ _ hu' => hu'
  cases info with
  | some live =>
    obtain ⟨e, he⟩ := compareWith_of_none himage hcomparable live
    show (replaceIfDrifted c s name live >>= _).Ensures h' _ _
    rw [replaceIfDrifted, he, ensures_bind, ensures_bind, ensures_throw]
    exact hu'
  | none =>
    show ((discard (Worker.createContainer s)) >>= _).Ensures h' _ _
    rw [ensures_bind, ensures_discard]
    exact (Worker.ensures_createContainer_of_none hname himage hvolumes hu').mono (fun _ _ hf => hf.elim)
      fun _ _ hu' => hu'

theorem keeps_startContainer_of_none {o : Outcome} (himage : s.image = none)
    (hcomparable : ¬ c.Comparable s) (hvolumes : ¬ s.MakesVolumes) :
    (startContainer c config s o).Keeps Untouched := by
  intro h hu
  rw [startContainer, ensures_bind, ensures_ofExcept]
  cases hname : s.requireName .startContainer with
  | error e => exact hu
  | ok name =>
    have hensure := ensures_ensureContainer_of_none (Spec.requireName_eq_ok.1 hname) himage hcomparable
      hvolumes hu
    rw [ensureImageNoted, Worker.ensureImage_of_none himage]
    show ((ensureContainer c s name) >>= _).Ensures h _ _
    rw [ensures_bind]
    exact hensure.mono (fun _ _ hf => hf.elim) fun _ _ hu' => hu'

theorem ensures_assess_of_none (himage : s.image = none) (hcomparable : ¬ c.Comparable s) (hu : h.Untouched) :
    (assess c s).Ensures h (fun a h' => a.decision = .create ∧ h'.Untouched)
      fun _ h' => h'.Untouched := by
  rw [assess, ensures_bind, ensures_ofExcept]
  cases s.validate with
  | error e => exact hu
  | ok _ =>
    dsimp only
    rw [ensures_bind, ensures_ofExcept]
    cases s.requireName .compareContainer with
    | error e => exact hu
    | ok name =>
      dsimp only
      rw [ensures_bind]
      refine (AsksKinds.keeps_untouched (Worker.asks_inspect.mono (by decide)) h hu).mono
        (fun info h' hu' => ?_) fun _ _ hu' => hu'
      cases info with
      | some live =>
        obtain ⟨e, he⟩ := compareWith_of_none himage hcomparable live
        show (assessLive c s name live).Ensures h' _ _
        rw [assessLive, he, ensures_bind, ensures_throw]
        exact hu'
      | none =>
        show ((Procedure.record _) >>= _).Ensures h' _ _
        rw [ensures_bind, ensures_record, ensures_pure]
        exact ⟨rfl, hu'⟩

theorem ensures_recreateOrRestart_of_none (himage : s.image = none) (hcomparable : ¬ c.Comparable s)
    (hvolumes : ¬ s.MakesVolumes) (hu : h.Untouched) :
    (recreateOrRestart c config s).Ensures h (fun _ _ => True) fun _ h' => h'.Untouched := by
  rw [recreateOrRestart, ensures_bind, ensures_ofExcept]
  cases s.requireName .recreateOrRestartContainer with
  | error e => exact hu
  | ok name =>
    dsimp only
    rw [ensures_bind]
    refine (ensures_assess_of_none himage hcomparable hu).mono ?_ fun _ _ hu' => hu'
    rintro a h' ⟨ha, hu'⟩
    rw [ha]
    exact (keeps_startContainer_of_none himage hcomparable hvolumes h' hu').mono (fun _ _ _ => trivial)
      fun _ _ hu'' => hu''

end Reconcile

/-! ### Errors behind a change -/

/-- The errors that the declared container is to blame for. -/
abbrev Blames (e : Error) : Prop := e.isConfiguration = true

namespace Worker

variable {s : Spec} {name image : String}

theorem mayReturn_inspect (live : Inspection) : (inspect name).MayReturn false (some live) :=
  mayReturn_engineIfFound (.inspectContainer name) live

theorem mayReturn_inspect_none : (inspect name).MayReturn false none :=
  mayReturn_engineIfFound_none (.inspectContainer name)

theorem mayReturn_checkImage {found : Option Image} (h : s.image = none → found = none) :
    (checkImage s).MayReturn false found := by
  unfold checkImage
  split
  · next hnone =>
    rw [h hnone]
    exact mayReturn_pure none
  · next reference _ =>
    cases found with
    | none => exact mayReturn_engineIfFound_none (.inspectImage reference)
    | some i => exact mayReturn_engineIfFound (.inspectImage reference) i

theorem mayReturn_checkImage_none : (checkImage s).MayReturn false none := mayReturn_checkImage fun _ => rfl

theorem mayReturn_ensureImage (himage : s.image = some image) :
    (ensureImage s).MayReturn true true := by
  have hpull : (pullImage s).MayReturn true true := by
    have hreference : s.requireImage .pullImage = .ok image := Spec.requireImage_eq_ok.2 himage
    refine (mayReturn_ofExcept hreference).bind (mayReturn_checkImage_none.bind ?_)
    exact (mayReturn_engine (.pullImage _) (.ok (some { id := "" }))).bind (mayReturn_pure true)
  rw [ensureImage, himage]
  exact mayReturn_checkImage_none.bind hpull

theorem mayReturn_createVolume : ∃ record, (createVolume name).MayReturn true (some record) :=
  ⟨⟨name, "", "", ∅⟩, (mayReturn_engineIfFound_none (.inspectVolume name)).bind
    ((mayReturn_engineOrFail (.createVolume _) _).bind (mayReturn_pure _))⟩

theorem mayReturn_provision (v : Create.Podman.Storage) :
    ∃ b, (provision v).MayReturn (v matches .named _) b := by
  cases v with
  | named v =>
    obtain ⟨record, h⟩ := @mayReturn_createVolume v.name
    exact ⟨true, h.bind (mayReturn_pure true)⟩
  | mount m =>
    refine ⟨false, ?_⟩
    show MayReturn false (provision (.mount m)) false
    rw [provision]
    split
    · next source _ _ => exact (mayReturn_ask (.hostPath source) (some false)).bind (mayReturn_pure false)
    · exact mayReturn_pure false

theorem mayReturn_provisionAll (vs : List Create.Podman.Storage) :
    ∃ b, (provisionAll vs).MayReturn (vs.any fun v => v matches .named _) b := by
  induction vs with
  | nil => exact ⟨false, mayReturn_pure false⟩
  | cons v vs ih =>
    obtain ⟨first, hv⟩ := mayReturn_provision v
    obtain ⟨rest, hvs⟩ := ih
    refine ⟨first || rest, ?_⟩
    rw [List.any_cons, ← Bool.or_false (List.any _ _)]
    exact hv.bind (hvs.bind (mayReturn_pure _))

theorem mayFail_createContainer_podman (hname : s.name = some name) (himage : s.image = none)
    {vs : List Create.Podman.Storage} (hengine : s.engine = .podman)
    (hstorage : Create.Podman.storage s.volumes = .ok vs) :
    (createContainer s).MayFail (vs.any fun v => v matches .named _) Blames := by
  have hrequest : (ofExcept (Create.request s)).MayFail false Blames :=
    mayFail_ofExcept (request_of_none hname himage) rfl
  obtain ⟨made, hmade⟩ := mayReturn_provisionAll vs
  rw [createContainer, provisionVolumes, hengine, ← Bool.or_false (List.any _ _)]
  exact ((mayReturn_ofExcept hstorage).bind hmade).discard.fail hrequest.bind

theorem mayFail_createContainer (hname : s.name = some name) (himage : s.image = none) :
    (createContainer s).MayFail false Blames := by
  cases hengine : s.engine with
  | docker =>
    have hprovision : (provisionVolumes s).MayReturn false false := by
      rw [provisionVolumes, hengine]
      exact mayReturn_pure false
    have hrequest : (ofExcept (Create.request s)).MayFail false Blames :=
      mayFail_ofExcept (request_of_none hname himage) rfl
    exact hprovision.discard.fail hrequest.bind
  | podman =>
    cases hstorage : Create.Podman.storage s.volumes with
    | ok vs => exact (mayFail_createContainer_podman hname himage hengine hstorage).weaken
    | error e =>
      have he := Create.Podman.isConfiguration_of_storage hstorage
      rw [createContainer, provisionVolumes, hengine, hstorage]
      exact (mayFail_throw he).bind.discard.bind

theorem mayFail_createContainer_late (hname : s.name = some name) (himage : s.image = none)
    (hvolumes : s.MakesVolumes) : (createContainer s).MayFail true Blames := by
  obtain ⟨hengine, vs, v, hstorage, hv⟩ := hvolumes
  have hnamed : (vs.any fun v => v matches .named _) = true := List.any_eq_true.2 ⟨_, hv, rfl⟩
  have h := mayFail_createContainer_podman hname himage hengine hstorage
  rwa [hnamed] at h

end Worker

namespace Reconcile

variable {c : Comparator} {config : Config} {s : Spec} {name : String} {o : Outcome}

/-- A live container with a mount that cannot be read. -/
def unreadable : Inspection := ⟨.obj [("Mounts", .arr [.int 5])]⟩

theorem mayFail_compareWith_unreadable (hv : s.validate = .ok ()) :
    (compareWith c s unreadable).MayFail false Blames := by
  have hvolumes : (c.beside s unreadable none).differs .volumes = .error (.malformedVolume "5") := by
    obtain ⟨vs, hvs⟩ := (Spec.valid_of_validate hv).volumes
    exact Result.bind_eq_error.2 (.inr ⟨vs, hvs, rfl⟩)
  have hbefore : ∀ a ∈ ([.capAdd, .securityOpt, .image, .ipcMode, .labels, .privileged, .pidMode,
      .cgroupnsMode, .tmpfs] : List Attribute), ∃ b, (c.beside s unreadable none).differs a = .ok b := by
    intro a ha
    simp only [List.mem_cons, List.not_mem_nil, or_false] at ha
    rcases ha with rfl | rfl | rfl | rfl | rfl | rfl | rfl | rfl | rfl <;> exact ⟨_, rfl⟩
  have hcompare : c.compare s unreadable none = .error (.malformedVolume "5") :=
    Result.bind_eq_error.2 (.inr ⟨(), hv, Comparator.foldlM_lookAt_error hbefore hvolumes⟩)
  have hfail : (Procedure.ofExcept (c.compare s unreadable none)).MayFail false Blames :=
    mayFail_ofExcept hcompare rfl
  exact Worker.mayReturn_checkImage_none.fail hfail.bind

theorem mayFail_startContainer_of_image {image : String} (hname : s.name = some name)
    (himage : s.image = some image) (hv : s.validate = .ok ()) :
    (startContainer c config s o).MayFail true Blames := by
  have hrequire : s.requireName .startContainer = .ok name := Spec.requireName_eq_ok.2 hname
  have hensure : (ensureImageNoted s).MayReturn true true :=
    (Worker.mayReturn_ensureImage himage).bind ((mayReturn_record _).bind (mayReturn_pure true))
  have hcontainer : (ensureContainer c s name).MayFail false Blames :=
    (Worker.mayReturn_inspect unreadable).fail (mayFail_compareWith_unreadable hv).bind.bind
  exact (mayReturn_ofExcept hrequire).fail (hensure.fail hcontainer.bind)

theorem mayFail_startContainer_of_none {x : Bool} (hname : s.name = some name) (himage : s.image = none)
    (hcreate : (Worker.createContainer s).MayFail x Blames) :
    (startContainer c config s o).MayFail x Blames := by
  have hrequire : s.requireName .startContainer = .ok name := Spec.requireName_eq_ok.2 hname
  have hensure : (ensureImageNoted s).MayReturn false false := by
    rw [ensureImageNoted, Worker.ensureImage_of_none himage]
    exact (mayReturn_pure false).bind (mayReturn_pure false)
  have hcontainer : (ensureContainer c s name).MayFail x Blames :=
    Worker.mayReturn_inspect_none.fail ((mayReturn_pure false).fail hcreate.discard.bind)
  exact (mayReturn_ofExcept hrequire).fail (hensure.fail hcontainer.bind)

theorem mayFail_recreateOrRestart_of_create {x : Bool} (hname : s.name = some name)
    (hv : s.validate = .ok ()) (hstart : ∀ o, (startContainer c config s o).MayFail x Blames) :
    (recreateOrRestart c config s).MayFail x Blames := by
  have hrequire : ∀ a, s.requireName a = .ok name := fun a => Spec.requireName_eq_ok.2 hname
  have hassess : (assess c s).MayReturn false ⟨none, none, false, false, .create⟩ :=
    (mayReturn_ofExcept hv).bind ((mayReturn_ofExcept (hrequire _)).bind
      (Worker.mayReturn_inspect_none.bind ((mayReturn_record _).bind (mayReturn_pure _))))
  exact (mayReturn_ofExcept (hrequire _)).fail (hassess.fail (hstart _))

theorem mayReturn_assess {live : Inspection} {image : Option Image} {d : Drift × List Note}
    (hname : s.name = some name) (himage : s.image = none → image = none) (hd : c.compare s live image = .ok d)
    (hchanged : d.1.changed = true) (unitChanged : Bool) :
    (assess c s).MayReturn false ⟨some live, some d.1, false, unitChanged,
      .decide (some d.1) unitChanged s.configStrategy? s.state⟩ := by
  obtain ⟨hv, -⟩ := Comparator.exists_compare_iff.1 ⟨d, hd⟩
  have hcompare : (compareWith c s live).MayReturn false d.1 :=
    (Worker.mayReturn_checkImage himage).bind ((mayReturn_ofExcept hd).bind
      ((mayReturn_notes d.2).bind (mayReturn_pure d.1)))
  refine (mayReturn_ofExcept hv).bind ((mayReturn_ofExcept (Spec.requireName_eq_ok.2 hname)).bind
    ((Worker.mayReturn_inspect live).bind (hcompare.bind ?_)))
  rw [hchanged]
  refine (mayReturn_unit .checkChanged name unitChanged).bind ?_
  cases unitChanged with
  | false => exact (mayReturn_record _).bind (mayReturn_pure _)
  | true => exact (mayReturn_record _).bind ((mayReturn_record _).bind (mayReturn_pure _))

theorem exists_state_drift (hcomparable : c.Comparable s) :
    ∃ live d, c.compare s live none = .ok d ∧ .state ∈ d.1.keys := by
  obtain ⟨live, d, h⟩ := hcomparable
  obtain ⟨hv, hall⟩ := Comparator.exists_compare_iff.1 ⟨d, h⟩
  have hagree := Inspection.agreeOutsideState_setField live.document .null
  have hstate : (c.beside s ⟨live.document.setField "State" .null⟩ none).differs .state = .ok true := by
    have hstatus : Inspection.status? ⟨live.document.setField "State" .null⟩ = none := by
      have hsection : (live.document.setField "State" .null).getD "State" = .null := by
        rw [Json.getD, Json.get?, Json.fields_setField, Dict.get?_insert_self]
        rfl
      rw [Inspection.status?, Inspection.state, Inspection.sectionOf, hsection]
      rfl
    show Except.ok (Comparison.stateDiffers _) = _
    rw [Comparison.stateDiffers, Comparator.beside, hstatus]
    cases s.state <;> rfl
  have hdiffers : ∀ a, ∃ b, (c.beside s ⟨live.document.setField "State" .null⟩ none).differs a = .ok b := by
    intro a
    by_cases ha : a = .state
    · subst ha
      exact ⟨true, hstate⟩
    · rw [Comparator.differs_congr hagree ha]
      exact hall a
  obtain ⟨d', hd'⟩ := Comparator.exists_compare_iff.2 ⟨hv, hdiffers⟩
  exact ⟨_, d', hd', (Comparator.mem_keys_of_compare hd' _).2 hstate⟩

theorem mayFail_recreateOrRestart_of_comparable (hname : s.name = some name) (himage : s.image = none)
    (hcomparable : c.Comparable s) : (recreateOrRestart c config s).MayFail true Blames := by
  obtain ⟨live, d, hd, hstate⟩ := exists_state_drift hcomparable
  have hrequire : ∀ a, s.requireName a = .ok name := fun a => Spec.requireName_eq_ok.2 hname
  have hassess : (assess c s).MayReturn false ⟨some live, some d.1, false, true, .recreate⟩ := by
    have hchanged : d.1.changed = true := Drift.changed_iff.2 ⟨.state, hstate⟩
    have hdecision : Decision.decide (some d.1) true s.configStrategy? s.state = .recreate := by
      simp [Decision.decide, hchanged]
    rw [← hdecision]
    exact mayReturn_assess hname (fun _ => rfl) hd hchanged true
  have hstop : (Worker.stopContainer s).MayReturn false false :=
    (mayReturn_ofExcept (hrequire _)).bind ((Worker.mayReturn_inspect ⟨.null⟩).bind
      (mayReturn_pure false))
  have hremove : (Worker.removeContainer s).MayReturn true true :=
    (mayReturn_ofExcept (hrequire _)).bind ((mayReturn_unit .remove name true).bind
      (Worker.mayReturn_inspect_none.bind (mayReturn_pure true)))
  have hensure : (Worker.ensureImage s).MayReturn false false := by
    rw [Worker.ensureImage_of_none himage]
    exact mayReturn_pure false
  have hstart : ∀ o, (startContainer c config s o).MayFail false Blames := fun o =>
    mayFail_startContainer_of_none hname himage (Worker.mayFail_createContainer hname himage)
  exact (mayReturn_ofExcept (hrequire _)).fail (hassess.fail (hensure.discard.fail
    ((mayReturn_record _).fail (hstop.discard.fail (hremove.discard.fail (hstart _))))))

end Reconcile

namespace Reconciler

variable {r : Reconciler} {a : Action} {s : Spec}

/-- Of which invocations a configuration error may come behind a change: the container is brought up, its
parameters make sense by themselves, and there is an image to fetch, a live container to compare with and
remove, or a volume to make. -/
structure FailsLate (r : Reconciler) (a : Action) (s : Spec) : Prop where
  action : a = .startContainer ∨ a = .recreateOrRestartContainer
  parameters : s.validateFor a = .ok ()
  valid : s.validate = .ok ()
  reachable : s.image.isSome ∨ r.comparator.Comparable s ∨ s.MakesVolumes

theorem ensures_first (hlate : ¬ r.FailsLate a s) (hv : s.validateFor a = .ok ()) :
    (r.perform a s).Ensures [] (fun _ _ => True) ConfigurationFirst := by
  by_cases hstart : a = .startContainer
  · subst hstart
    show ((Procedure.ofExcept s.validate) >>= _).Ensures [] _ _
    rw [ensures_bind, ensures_ofExcept]
    cases hvalid : s.validate with
    | error e => exact fun _ => untouched_nil
    | ok _ =>
      obtain ⟨image, himage⟩ := Spec.image_of_validateFor hv rfl
      exact absurd ⟨.inl rfl, hv, hvalid, .inl (by rw [himage]; rfl)⟩ hlate
  by_cases hrecreate : a = .recreateOrRestartContainer
  · subst hrecreate
    show (Reconcile.recreateOrRestart r.comparator r.config s).Ensures [] _ _
    cases hvalid : s.validate with
    | error e =>
      obtain ⟨name, hname⟩ := Spec.name_of_validateFor hv rfl
      rw [Reconcile.recreateOrRestart, ensures_bind, ensures_ofExcept,
        Spec.requireName_eq_ok.2 hname]
      dsimp only
      rw [Reconcile.assess, hvalid, ensures_bind, ensures_bind, ensures_ofExcept]
      exact fun _ => untouched_nil
    | ok _ =>
      have hnone : s.image = none := by
        cases himage : s.image with
        | none => rfl
        | some image => exact absurd ⟨.inr rfl, hv, hvalid, .inl (by rw [himage]; rfl)⟩ hlate
      have hcomparable : ¬ r.comparator.Comparable s := fun h =>
        hlate ⟨.inr rfl, hv, hvalid, .inr (.inl h)⟩
      have hvolumes : ¬ s.MakesVolumes := fun h => hlate ⟨.inr rfl, hv, hvalid, .inr (.inr h)⟩
      exact (Reconcile.ensures_recreateOrRestart_of_none hnone hcomparable hvolumes untouched_nil).mono
        (fun _ _ _ => trivial) fun _ _ hu _ => hu
  exact ensures_perform hstart hrecreate hv

/-- An invocation that can fail late does so against some environment. -/
theorem FailsLate.mayFail (hlate : r.FailsLate a s) : (r.perform a s).MayFail true Blames := by
  obtain ⟨ha, hv, hvalid, hreach⟩ := hlate
  have hneeds : a.needsName = true := by rcases ha with rfl | rfl <;> rfl
  obtain ⟨name, hname⟩ := Spec.name_of_validateFor hv hneeds
  cases himage : s.image with
  | some image =>
    have hstart : ∀ o, (Reconcile.startContainer r.comparator r.config s o).MayFail true Blames :=
      fun o => Reconcile.mayFail_startContainer_of_image hname himage hvalid
    rcases ha with rfl | rfl
    · exact (mayReturn_ofExcept hvalid).fail (hstart _)
    · exact Reconcile.mayFail_recreateOrRestart_of_create hname hvalid hstart
  | none =>
    rcases ha with rfl | rfl
    · obtain ⟨image, hsome⟩ := Spec.image_of_validateFor hv rfl
      rw [himage] at hsome
      cases hsome
    · rcases hreach with hreach | hcomparable | hvolumes
      · rw [himage] at hreach
        cases hreach
      · exact Reconcile.mayFail_recreateOrRestart_of_comparable hname himage hcomparable
      · exact Reconcile.mayFail_recreateOrRestart_of_create hname hvalid fun o =>
          Reconcile.mayFail_startContainer_of_none hname himage
            (Worker.mayFail_createContainer_late hname himage hvolumes)

/-- A configuration error comes before anything is changed, against every environment, exactly in the
invocations that cannot reach a comparison or a request behind a change. -/
theorem configuration_errors_first_iff (r : Reconciler) (a : Action) (s : Spec) :
    (∀ t e, Program.Run (r.run a s).run t (.error e) → e.isConfiguration = true → t.Untouched) ↔
      ¬ r.FailsLate a s := by
  have hruns : (∀ t e, Program.Run (r.run a s).run t (.error e) → ConfigurationFirst e t) ↔
      (r.run a s).Ensures [] (fun _ _ => True) ConfigurationFirst := by
    constructor
    · intro h t result hr
      cases result with
      | ok o => trivial
      | error e => exact h t e hr
    · intro h t e hr
      exact h t _ hr
  rw [hruns, ensures_run]
  cases hv : s.validateFor a with
  | error e =>
    have hlate : ¬ r.FailsLate a s := by
      rintro ⟨-, hv', -, -⟩
      rw [hv] at hv'
      cases hv'
    exact ⟨fun _ => hlate, fun _ _ => untouched_nil⟩
  | ok _ =>
    constructor
    · intro h hlate
      obtain ⟨t, e, he, ht, hr⟩ := hlate.mayFail
      exact touched_iff.1 (ht rfl) (h t _ hr he)
    · intro hlate
      exact ensures_first hlate hv

end Reconciler

/-! ### A command whose quoting is not balanced -/

/-- A specification whose command has an opening quote and no closing one. -/
def unbalancedSpec : Spec := { name := some "web", image := some "nginx", command := some "echo 'oops" }

/-- A world in which its image can be fetched. -/
def fetchableWorld : World := { engine := { registry := .ofList [("nginx:latest", { id := "new" })] } }

/-- How bringing the container up ends there. -/
def unbalancedRun : Program (Except Error Outcome) :=
  ((Reconciler.ofSpec unbalancedSpec {} .path).run .startContainer unbalancedSpec).run

theorem unbalancedRun_fails : ∃ e, (unbalancedRun.runIn fetchableWorld).1 = .error e ∧
    e.isConfiguration = true := by
  exact ⟨_, rfl, rfl⟩

theorem unbalancedRun_touched : (unbalancedRun.historyIn fetchableWorld).Touched := by
  have h : ((unbalancedRun.historyIn fetchableWorld).calls.any Call.isMutating) = true := by
    decide +kernel
  simpa [Touched] using h

/-- The image is fetched before the quoting is looked at. -/
theorem fetched_before_refused : ¬ ∀ (r : Reconciler) (a : Action) (s : Spec) (t : History) (e : Error),
    Program.Run (r.run a s).run t (.error e) → e.isConfiguration = true → t.Untouched := by
  intro hclaim
  obtain ⟨e, hrun, he⟩ := unbalancedRun_fails
  have hr := Program.run_historyIn unbalancedRun fetchableWorld
  rw [hrun] at hr
  exact touched_iff.1 unbalancedRun_touched (hclaim _ _ _ _ _ hr he)

end Shipshape
