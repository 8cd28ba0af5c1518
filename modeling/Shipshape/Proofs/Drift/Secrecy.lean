import Shipshape.Drift.Report
import Shipshape.Proofs.Drift.Rule.Runtime
import Shipshape.Proofs.Drift.Veil
import Shipshape.Proofs.Drift.Views

/-!
# Secrets in diagnostics

Two comparisons whose sides agree apart from the values of secrets, and in which the same secrets are the live
ones, leave the same behind for a reader (`secrets_stay_hidden`): which attributes differ, the lines of a trace,
and the diff.

Proof outline. Only the rule on the environment reads secrets (`differs_of_sameViews`). Of a desired secret it
asks whether it is the live one and no more, and what is shown of both sides is a function of the veiled
environments and of these answers (`redact_environment`). All that a reader gets is made of what is shown
(`lookAt_shown`, `report?_eq`).
-/

namespace Shipshape

open Secret

namespace Spec

/-- Two specifications agree on all but the values of secrets in the environment. -/
structure SameOpenly (s s' : Spec) : Prop where
  others : ∃ environment, s' = { s with environment }
  environment : s.environment.map (·.veiled) = s'.environment.map (·.veiled)

variable {s s' : Spec}

theorem SameOpenly.declaredEnvironment (h : s.SameOpenly s') :
    s.declaredEnvironment.map veilAll = s'.declaredEnvironment.map veilAll := by
  have henv := h.environment
  unfold Spec.declaredEnvironment
  generalize s.environment = env at henv ⊢
  generalize s'.environment = env' at henv ⊢
  rcases env with _ | env
  · rcases env' with _ | env'
    · rfl
    · cases henv
  · rcases env' with _ | env'
    · cases henv
    · exact Environment.map_veilAll_ofDeclared (Option.some.inj henv)

theorem validate_eq (s : Spec) : s.validate = (do
    Dimension.validate s.dimensions
    discard (Healthcheck.ofDeclared s.healthcheck)
    discard s.declaredEnvironment
    discard (Volume.setOfDeclared s.volumes)) := by
  unfold validate declaredEnvironment
  rcases s.environment with _ | env
  · rfl
  · rfl

theorem SameOpenly.validate (h : s.SameOpenly s') : s.validate = s'.validate := by
  have hdeclared := h.declaredEnvironment
  obtain ⟨env, rfl⟩ := h.others
  rw [validate_eq, validate_eq]
  rcases Result.cases_of_map_eq hdeclared with ⟨e, hx, hx'⟩ | ⟨d, d', hx, hx', -⟩
  · rw [hx, hx']
  · rw [hx, hx']
    rfl

end Spec

namespace Inspection

/-- Two live documents agree on all but the values of secrets in the environment. -/
structure SameOpenly (live live' : Inspection) : Prop where
  outside : ∀ k, k ≠ "Config" → live.document.get? k = live'.document.get? k
  config : ∀ k, k ≠ "Env" → live.config.get? k = live'.config.get? k
  env : ((live.configTexts "Env").map Comparison.liveEntry).map veil =
    ((live'.configTexts "Env").map Comparison.liveEntry).map veil

theorem SameOpenly.sameViews {live live' : Inspection} (h : live.SameOpenly live') : live.SameViews live' :=
  sameViews_of_agree (fun k hk _ => h.outside k hk) h.config

theorem SameOpenly.status {live live' : Inspection} (h : live.SameOpenly live') : live.status? = live'.status? := by
  unfold status? state sectionOf Json.getD
  rw [h.outside "State" (by decide)]

end Inspection

/-! ### Redacted environments -/

namespace Secret

theorem maskFields_eq_map (l : List (String × Json)) :
    maskFields l = l.map fun e => (e.1, if isSecretName e.1 then mask e.2 else e.2) := by
  induction l with
  | nil => rfl
  | cons e l ih =>
    obtain ⟨k, v⟩ := e
    rw [maskFields, ih]
    rfl

/-- What is shown of a live environment. -/
def maskEntries (d : Dict Json) : Dict Json :=
  d.mapEntries fun k v => if isSecretName k then mask v else v

theorem redact_ofDict (live desired : Dict Json) : redact .environment ⟨.ofDict live, .ofDict desired⟩ =
    ⟨.ofDict (maskEntries live), .ofDict (desired.mapEntries (hideDesired live))⟩ := by
  show (⟨.obj (maskFields live.entries),
    .obj (desired.entries.map fun e => (e.1, hideDesired (.ofList live.entries) e.1 e.2))⟩ : Snapshot) = _
  rw [maskFields_eq_map, Dict.ofList_entries]
  rfl

end Secret

/-! ### The rule on the environment -/

namespace Comparison

/-- For every desired secret, whether it is the live one. -/
def secretMatches (c : Comparison) : Except Error (Dict Bool) :=
  c.desiredEnvironment.map fun d =>
    (d.filter fun e => isSecretName e.1).mapEntries fun k v => c.liveEnvironment.get? k == some v

def shownLive (live : Dict String) (k : String) : Json :=
  if isSecretName k then mask (.ofString? (live.get? k)) else .ofString? (live.get? k)

def shownDesired (live : Dict String) (e : String × String) : Json :=
  if isSecretName e.1 then
    if (live.get? e.1).isSome && live.get? e.1 != some e.2 then Secret.hiddenChanged else Secret.hidden
  else .str e.2

theorem desiredMark_text (x : Option String) (v : String) : desiredMark (some (.ofString? x)) (.str v) =
    if x.isSome && x != some v then Secret.hiddenChanged else Secret.hidden := by
  rcases x with _ | u
  · rfl
  · show (if !(u == v) && !false then hiddenChanged else Secret.hidden) = _
    by_cases huv : u = v
    · simp [huv]
    · simp [huv]

/-- What is shown of both sides' environments. -/
theorem redact_environment (c : Comparison) {d : Dict String} (hd : c.desiredEnvironment.toOption.getD ∅ = d) :
    redact .environment c.environmentSnapshot =
      ⟨.ofDict (d.mapEntries fun k _ => shownLive c.liveEnvironment k),
        .ofDict (d.mapEntries fun k v => shownDesired c.liveEnvironment (k, v))⟩ := by
  have hlive : maskEntries (d.mapEntries fun k _ => Json.ofString? (c.liveEnvironment.get? k)) =
      d.mapEntries fun k _ => shownLive c.liveEnvironment k := by
    ext k : 1
    rw [maskEntries, Dict.get?_mapEntries, Dict.get?_mapEntries, Dict.get?_mapEntries, Option.map_map]
    rfl
  have hdesired : (d.mapValues Json.str).mapEntries
      (hideDesired (d.mapEntries fun k _ => Json.ofString? (c.liveEnvironment.get? k))) =
      d.mapEntries fun k v => shownDesired c.liveEnvironment (k, v) := by
    ext k : 1
    rw [Dict.get?_mapEntries, Dict.get?_mapEntries, Dict.get?_mapValues]
    cases hk : d.get? k with
    | none => rfl
    | some v =>
      rw [Option.map_some, Option.map_some, Option.map_some, hideDesired, shownDesired, Dict.get?_mapEntries, hk,
        Option.map_some, desiredMark_text]
      by_cases hsecret : isSecretName k = true
      · rw [hsecret]
        rfl
      · rw [Bool.not_eq_true] at hsecret
        rw [hsecret]
        rfl
  unfold environmentSnapshot Json.ofStringDict
  rw [hd, redact_ofDict, hlive, hdesired]

variable {c c' : Comparison}

/-- Two comparisons whose environments agree on all but secrets, and whose secrets are the live ones alike. -/
structure SameEnvironments (c c' : Comparison) : Prop where
  desired : c.desiredEnvironment.map veilAll = c'.desiredEnvironment.map veilAll
  live : veilAll c.liveEnvironment = veilAll c'.liveEnvironment
  secrets : c.secretMatches = c'.secretMatches

theorem forall₂_of_map_veil {p p' : String × String → Bool} {l l' : List (String × String)}
    (h : l.map veil = l'.map veil)
    (hopen : ∀ e e', veil e = veil e' → isSecretName e.1 = false → p e = p' e')
    (hsecret : (l.filter fun e => isSecretName e.1).map (fun e => (e.1, p e)) =
      (l'.filter fun e => isSecretName e.1).map fun e => (e.1, p' e)) :
    List.Forall₂ (fun e e' => veil e = veil e' ∧ p e = p' e') l l' := by
  induction l generalizing l' with
  | nil =>
    rw [List.map_eq_nil_iff.1 h.symm]
    exact .nil
  | cons e l ih =>
    rcases l' with _ | ⟨e', l'⟩
    · cases h
    · obtain ⟨hhead, htail⟩ := List.cons_eq_cons.1 h
      have hname : e'.1 = e.1 := (Prod.mk.inj hhead).1.symm
      rw [List.filter_cons, List.filter_cons, hname] at hsecret
      by_cases he : isSecretName e.1 = true
      · rw [if_pos he, if_pos he] at hsecret
        obtain ⟨hmatch, hrest⟩ := List.cons_eq_cons.1 hsecret
        exact .cons ⟨hhead, (Prod.mk.inj hmatch).2⟩ (ih htail hrest)
      · rw [if_neg he, if_neg he] at hsecret
        exact .cons ⟨hhead, hopen e e' hhead (Bool.eq_false_iff.2 he)⟩ (ih htail hsecret)

theorem SameEnvironments.entries (h : c.SameEnvironments c') :
    (∃ e, c.desiredEnvironment = .error e ∧ c'.desiredEnvironment = .error e) ∨
      ∃ d d', c.desiredEnvironment = .ok d ∧ c'.desiredEnvironment = .ok d' ∧
        List.Forall₂ (fun e e' => veil e = veil e' ∧
          (c.liveEnvironment.get? e.1 == some e.2) = (c'.liveEnvironment.get? e'.1 == some e'.2))
          d.entries d'.entries := by
  rcases Result.cases_of_map_eq h.desired with hfailed | ⟨d, d', hd, hd', hveil⟩
  · exact .inl hfailed
  · have hsecrets := h.secrets
    unfold secretMatches at hsecrets
    rw [hd, hd'] at hsecrets
    refine .inr ⟨d, d', hd, hd', forall₂_of_map_veil (congrArg Dict.entries hveil) (fun e e' he hopen => ?_)
      (congrArg Dict.entries (Except.ok.inj hsecrets))⟩
    have hname : e.1 = e'.1 := (Prod.mk.inj he).1
    rw [← hname, get?_eq_of_veilAll h.live hopen, value_of_veil_eq he hopen]

theorem SameEnvironments.differs (h : c.SameEnvironments c') : c.environmentDiffers = c'.environmentDiffers := by
  unfold environmentDiffers
  rcases h.entries with ⟨e, hd, hd'⟩ | ⟨d, d', hd, hd', hentries⟩
  · rw [hd, hd']
    rfl
  · rw [hd, hd']
    refine congrArg Except.ok ?_
    generalize d.entries = l at hentries
    generalize d'.entries = l' at hentries
    induction hentries with
    | nil => rfl
    | cons hhead htail ih => rw [List.any_cons, List.any_cons, ih, bne, bne, hhead.2]

theorem mask_text (x : Option String) : mask (.ofString? x) = if x.isSome then Secret.hidden else .null := by
  rcases x with _ | v
  · rfl
  · rfl

theorem shownLive_eq {live live' : Dict String} (h : veilAll live = veilAll live') (k : String) :
    shownLive live k = shownLive live' k := by
  unfold shownLive
  by_cases hk : isSecretName k = true
  · rw [if_pos hk, if_pos hk, mask_text, mask_text, isSome_eq_of_veilAll h]
  · rw [get?_eq_of_veilAll h (Bool.eq_false_iff.2 hk)]

theorem shownDesired_eq {live live' : Dict String} (h : veilAll live = veilAll live') {e e' : String × String}
    (hveil : veil e = veil e') (hmatch : (live.get? e.1 == some e.2) = (live'.get? e'.1 == some e'.2)) :
    shownDesired live e = shownDesired live' e' := by
  obtain ⟨k, v⟩ := e
  obtain ⟨k', v'⟩ := e'
  obtain rfl : k = k' := (Prod.mk.inj hveil).1
  unfold shownDesired bne
  dsimp only at hmatch ⊢
  rw [hmatch, isSome_eq_of_veilAll h]
  by_cases hk : isSecretName k = true
  · rw [if_pos hk, if_pos hk]
  · rw [if_neg hk, if_neg hk]
    exact congrArg Json.str (value_of_veil_eq hveil (Bool.eq_false_iff.2 hk))

theorem SameEnvironments.redact (h : c.SameEnvironments c') :
    redact .environment c.environmentSnapshot = redact .environment c'.environmentSnapshot := by
  rcases h.entries with ⟨e, hd, hd'⟩ | ⟨d, d', hd, hd', hentries⟩
  · rw [redact_environment c rfl, redact_environment c' rfl, hd, hd']
    rfl
  · have hmap : ∀ {F F' : String × String → Json}, (∀ e e', veil e = veil e' →
        (c.liveEnvironment.get? e.1 == some e.2) = (c'.liveEnvironment.get? e'.1 == some e'.2) → F e = F' e') →
        d.entries.map (fun e => (e.1, F e)) = d'.entries.map fun e => (e.1, F' e) := by
      intro F F' hF
      rw [← List.forall₂_eq_eq_eq, List.forall₂_map_left_iff, List.forall₂_map_right_iff]
      exact hentries.imp fun e e' he => Prod.ext (Prod.mk.inj he.1).1 (hF e e' he.1 he.2)
    have hlive : Json.ofDict (d.mapEntries fun k _ => shownLive c.liveEnvironment k) =
        .ofDict (d'.mapEntries fun k _ => shownLive c'.liveEnvironment k) :=
      congrArg Json.obj (hmap (F := fun e => shownLive c.liveEnvironment e.1) fun e e' hveil _ => by
        rw [(Prod.mk.inj hveil).1, shownLive_eq h.live])
    have hdesired : Json.ofDict (d.mapEntries fun k v => shownDesired c.liveEnvironment (k, v)) =
        .ofDict (d'.mapEntries fun k v => shownDesired c'.liveEnvironment (k, v)) :=
      congrArg Json.obj (hmap (F := shownDesired c.liveEnvironment) fun _ _ => shownDesired_eq h.live)
    have hread : c.desiredEnvironment.toOption.getD ∅ = d := by
      rw [hd]
      rfl
    have hread' : c'.desiredEnvironment.toOption.getD ∅ = d' := by
      rw [hd']
      rfl
    rw [redact_environment c hread, redact_environment c' hread', hlive, hdesired]

end Comparison

/-! ### All attributes -/

section attributes

variable {c : Comparator} {s s' : Spec} {live live' : Inspection} {image : Option Image}

theorem sameEnvironments_of_sameOpenly (hs : s.SameOpenly s') (hlive : live.SameOpenly live')
    (hsecrets : (c.beside s live image).secretMatches = (c.beside s' live' image).secretMatches) :
    (c.beside s live image).SameEnvironments (c.beside s' live' image) := by
  refine ⟨?_, ?_, hsecrets⟩
  · have hdesired : ∀ s live, (c.beside s live image).desiredEnvironment.map veilAll =
        (s.declaredEnvironment.map veilAll).map (·.erase Spec.debugKey) := by
      intro s live
      show Except.map _ (s.declaredEnvironment >>= _) = _
      rcases s.declaredEnvironment with e | d
      · rfl
      · exact congrArg Except.ok (veilAll_erase d _)
    rw [hdesired, hdesired, hs.declaredEnvironment]
  · show veilAll (Dict.ofList _) = veilAll (Dict.ofList _)
    rw [veilAll_ofList, veilAll_ofList]
    exact congrArg Dict.ofList hlive.env

theorem differs_of_sameOpenly (hs : s.SameOpenly s') (hlive : live.SameOpenly live')
    (hsecrets : (c.beside s live image).secretMatches = (c.beside s' live' image).secretMatches) (a : Attribute) :
    (c.beside s live image).differs a = (c.beside s' live' image).differs a := by
  by_cases henv : a = .environment
  · rw [henv]
    exact (sameEnvironments_of_sameOpenly hs hlive hsecrets).differs
  · obtain ⟨env, rfl⟩ := hs.others
    by_cases hstate : a = .state
    · rw [hstate]
      simp only [Comparison.differs, Comparison.stateDiffers, Comparator.beside, hlive.status]
    · exact Comparator.differs_of_sameViews env hlive.sameViews hstate henv

theorem redact_of_sameOpenly (hs : s.SameOpenly s') (hlive : live.SameOpenly live')
    (hsecrets : (c.beside s live image).secretMatches = (c.beside s' live' image).secretMatches) (a : Attribute) :
    redact a ((c.beside s live image).snapshot a) = redact a ((c.beside s' live' image).snapshot a) := by
  by_cases henv : a = .environment
  · rw [henv]
    exact (sameEnvironments_of_sameOpenly hs hlive hsecrets).redact
  · obtain ⟨env, rfl⟩ := hs.others
    by_cases hstate : a = .state
    · rw [hstate]
      simp only [Comparison.snapshot, Comparison.stateSnapshot, Comparator.beside, hlive.status]
    · rw [Comparator.snapshot_of_sameViews env hlive.sameViews hstate henv]

end attributes

/-! ### What a reader gets -/

/-- What is shown of a drift: both sides of the attributes that differ, with the secrets hidden. -/
def Drift.shown (d : Drift) : List (Attribute × Snapshot) := d.entries.map fun e => (e.key, redact e.key e.shown)

theorem Drift.shown_push (d : Drift) (e : DriftEntry) :
    (d.push e).shown = d.shown ++ [(e.key, redact e.key e.shown)] := by
  rw [shown, entries_push, List.map_append]
  rfl

theorem Drift.keys_eq (d : Drift) : d.keys = d.shown.map Prod.fst := by
  unfold keys shown
  rw [List.map_map]
  rfl

theorem Drift.report?_congr {d d' : Drift} (h : d.shown = d'.shown) : d.report? = d'.report? := by
  have hsorted : ∀ d : Drift, ((byName d.entries).map fun e => (e.key, redact e.key e.shown)) =
      d.shown.mergeSort fun p q => (compare p.1.name q.1.name).isLE :=
    fun d => List.map_mergeSort fun _ _ _ _ => rfl
  have hchanged : d.changed = d'.changed := by
    have hempty : d.shown.isEmpty = d'.shown.isEmpty := by rw [h]
    unfold shown at hempty
    rw [List.isEmpty_map, List.isEmpty_map] at hempty
    unfold changed
    rw [hempty]
  unfold report?
  rw [hchanged, hsorted, hsorted, h]

/-- What a comparison leaves behind for a reader: which attributes differ, the lines of a trace, and the diff. -/
structure Diagnostics where
  keys : List Attribute
  lines : Verbosity → List String
  diff : Option String

namespace Diagnostics

def of (d : Drift × List Note) : Diagnostics :=
  ⟨d.1.keys, fun v => ((Trace.empty v).pushAll d.2).lines, d.1.report?⟩

theorem of_congr {d d' : Drift × List Note} (hshown : d.1.shown = d'.1.shown) (hnotes : d.2 = d'.2) : of d = of d' := by
  unfold of
  rw [Drift.keys_eq, Drift.keys_eq, hshown, hnotes, Drift.report?_congr hshown]

end Diagnostics

namespace Comparator

/-- Compares the first attributes only: what was found and noted on the way, wherever the way ends. -/
def compareFirst (n : Nat) (c : Comparator) (s : Spec) (live : Inspection) (image : Option Image) :
    Except Error (Drift × List Note) := do
  s.validate
  (Attribute.all.take n).foldlM (lookAt (c.beside s live image)) ({}, [])

theorem diagnostics_foldlM_congr {c c' : Comparison} (hdiffers : ∀ a, c.differs a = c'.differs a)
    (hredact : ∀ a, redact a (c.snapshot a) = redact a (c'.snapshot a)) {l : List Attribute}
    {d d' : Drift × List Note} (hshown : d.1.shown = d'.1.shown) (hnotes : d.2 = d'.2) :
    (l.foldlM (lookAt c) d).map Diagnostics.of = (l.foldlM (lookAt c') d').map Diagnostics.of := by
  induction l generalizing d d' with
  | nil => exact congrArg Except.ok (Diagnostics.of_congr hshown hnotes)
  | cons a l ih =>
    rw [List.foldlM_cons, List.foldlM_cons]
    unfold lookAt
    rw [hdiffers a]
    rcases c'.differs a with e | b
    · rfl
    · cases b with
      | true =>
        have hline : driftLine ⟨a, c.snapshot a⟩ = driftLine ⟨a, c'.snapshot a⟩ := by
          unfold driftLine
          dsimp only
          rw [hredact a]
        refine @ih (d.1.push ⟨a, c.snapshot a⟩, _) (d'.1.push ⟨a, c'.snapshot a⟩, _) ?_ ?_
        · rw [Drift.shown_push, Drift.shown_push, hshown, hredact a]
        · rw [hnotes, hline]
      | false =>
        refine @ih (d.1, _) (d'.1, _) hshown ?_
        rw [hnotes]

variable {s s' : Spec} {live live' : Inspection}

/-- Secrets do not show in diagnostics, apart from whether they are the live ones. -/
theorem secrets_stay_hidden (c : Comparator) (image : Option Image) (hs : s.SameOpenly s')
    (hlive : live.SameOpenly live')
    (hsecrets : (c.beside s live image).secretMatches = (c.beside s' live' image).secretMatches) :
    (c.compare s live image).map Diagnostics.of = (c.compare s' live' image).map Diagnostics.of ∧
      ∀ n, (c.compareFirst n s live image).map Diagnostics.of =
        (c.compareFirst n s' live' image).map Diagnostics.of := by
  have hfold : ∀ l : List Attribute,
      (s.validate >>= fun _ => l.foldlM (lookAt (c.beside s live image)) ({}, [])).map Diagnostics.of =
        (s'.validate >>= fun _ => l.foldlM (lookAt (c.beside s' live' image)) ({}, [])).map Diagnostics.of := by
    intro l
    rw [hs.validate]
    rcases s'.validate with e | _
    · rfl
    · exact diagnostics_foldlM_congr (differs_of_sameOpenly hs hlive hsecrets)
        (redact_of_sameOpenly hs hlive hsecrets) rfl rfl
  exact ⟨hfold _, fun n => hfold _⟩

/-! ### A secret that was changed -/

def secretSpec (secret : String) : Spec :=
  { name := some "web", image := some "nginx", environment := some (.entries ["DB_PASSWORD=" ++ secret, "MODE=fast"]) }

def secretLive (secret : String) : Inspection :=
  ⟨.ofFields [("Config", .ofFields [("Env", .ofStrings ["DB_PASSWORD=" ++ secret, "MODE=slow"])])]⟩

theorem secretLive_sameOpenly {secret secret' : String}
    (henv : (((secretLive secret).configTexts "Env").map Comparison.liveEntry).map veil =
      (((secretLive secret').configTexts "Env").map Comparison.liveEntry).map veil) :
    (secretLive secret).SameOpenly (secretLive secret') := by
  have hother : ∀ (k₀ k : String) (v v' : Json), k ≠ k₀ →
      (Dict.ofList [(k₀, v)]).get? k = (Dict.ofList [(k₀, v')]).get? k := by
    intro k₀ k v v' hk
    rw [Dict.get?_ofList, Dict.get?_ofList, List.reverse_singleton, List.reverse_singleton, Dict.lookup_cons,
      Dict.lookup_cons, if_neg hk, if_neg hk]
  have hconfig : ∀ secret, (secretLive secret).config =
      .ofList [("Env", .ofStrings ["DB_PASSWORD=" ++ secret, "MODE=slow"])] := by
    intro secret
    rw [Inspection.config, Inspection.sectionOf, secretLive, Json.getD_ofFields]
    exact Json.fields_ofDict _
  refine ⟨fun k hk => ?_, fun k hk => ?_, henv⟩
  · exact (Json.get?_ofDict _ k).trans ((hother "Config" k _ _ hk).trans (Json.get?_ofDict _ k).symm)
  · rw [hconfig, hconfig]
    exact hother "Env" k _ _ hk

theorem secrets_stay_hidden_password :
    (secretSpec "hunter2").SameOpenly (secretSpec "swordfish") ∧
    (secretLive "hunter1").SameOpenly (secretLive "marlin") ∧
    ((ofSpec {} .path).compare (secretSpec "hunter2") (secretLive "hunter1") none).map Diagnostics.of =
      ((ofSpec {} .path).compare (secretSpec "swordfish") (secretLive "marlin") none).map Diagnostics.of := by
  have hs : (secretSpec "hunter2").SameOpenly (secretSpec "swordfish") := ⟨⟨_, rfl⟩, rfl⟩
  have hlive : (secretLive "hunter1").SameOpenly (secretLive "marlin") := secretLive_sameOpenly (by decide +kernel)
  refine ⟨hs, hlive, (secrets_stay_hidden _ none hs hlive ?_).1⟩
  decide +kernel

end Comparator

end Shipshape
