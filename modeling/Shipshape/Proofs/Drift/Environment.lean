import Shipshape.Proofs.Drift.Visibility

/-!
# The environment of a live container

A container that was given its environment and reports it is no drift, in whatever order the entries are reported,
unless the declared environment is one that is not kept (`created_environment_kept_iff`): behind an equals sign in a
name the report is read otherwise, and the name of the service is not left to the declaration.

Where the environments differ, redaction keeps the shape of both sides (`environment_drift_keeps_shape`): the names,
every value that is no secret, and under which names the sides differ.

Proof outline. Both sides of the snapshot are the desired environment with other values, and so are the redacted
ones (`redact_environment`), so everything is shown name by name.
-/

namespace Shipshape

/-! ### A container that was given its environment -/

/-- Why a declared environment is not what a container of this name reports. -/
inductive Create.Unkept (declared : Dict String) (name : String) : Prop where
  /-- What stands behind an equals sign in a name is read as a part of the value. -/
  | separator {k : String} (declares : k ∈ declared.keys) (sign : '=' ∈ k.toList) : Unkept declared name
  /-- The name of the service takes the place of the value that was declared for it. -/
  | service {v : String} (declares : declared.get? Create.serviceNameKey = some v)
      (other : v ≠ Create.serviceName name) : Unkept declared name

namespace Comparison

theorem created_environment_kept_iff {s : Spec} {declared : Dict String}
    (hdeclared : s.declaredEnvironment = .ok declared) (name : String) :
    ∃ env, Create.environment s name = .ok env ∧ ∀ (c : Comparator) (live : Inspection) (image : Option Image),
      (live.configTexts "Env").Perm (env.entries.map fun e => e.1 ++ "=" ++ e.2) →
        ((c.beside s live image).environmentDiffers = .ok false ↔ ¬ Create.Unkept declared name) := by
  refine ⟨declared.insert Create.serviceNameKey (Create.serviceName name), ?_, fun c live image hreported => ?_⟩
  · show (s.declaredEnvironment >>= _) = _
    rw [hdeclared]
    rfl
  · rw [environmentDiffers_of_reported (c := c.beside s live image) hdeclared hreported]
    constructor
    · rintro ⟨hnames, hservice⟩ hunkept
      cases hunkept with
      | separator declares sign => exact hnames _ declares sign
      | service declares other => exact other (hservice _ declares)
    · intro hkept
      refine ⟨fun k hk hsign => hkept (.separator hk hsign), fun v hv => ?_⟩
      by_contra hne
      exact hkept (.service hv hne)

/-- Values may hold equals signs and be empty, and the entries may be reported in another order. -/
theorem created_environment_kept_iff_web :
    let s : Spec := { environment := some (.entries ["MODE=a=b", "EMPTY=", "SERVICE_NAME=web-app"]) }
    let live : Inspection := ⟨.ofFields [("Config", .ofFields
      [("Env", .ofStrings ["SERVICE_NAME=web-app", "MODE=a=b", "EMPTY="])])]⟩
    ∃ env, Create.environment s "web_app" = .ok env ∧
      (live.configTexts "Env").Perm (env.entries.map fun e => e.1 ++ "=" ++ e.2) ∧
      ((Comparator.ofSpec s .path).beside s live none).environmentDiffers = .ok false := by
  intro s live
  have hdeclared : s.declaredEnvironment =
      .ok (.ofList [("EMPTY", ""), ("MODE", "a=b"), ("SERVICE_NAME", "web-app")]) := by decide +kernel
  obtain ⟨env, henv, hkept⟩ := created_environment_kept_iff hdeclared "web_app"
  have hexpected : Create.environment s "web_app" =
      .ok (.ofList [("EMPTY", ""), ("MODE", "a=b"), ("SERVICE_NAME", "web-app")]) := by decide +kernel
  obtain rfl := Except.ok.inj (hexpected.symm.trans henv)
  have hreported : (live.configTexts "Env").Perm
      ((Dict.ofList [("EMPTY", ""), ("MODE", "a=b"), ("SERVICE_NAME", "web-app")]).entries.map fun e =>
        e.1 ++ "=" ++ e.2) := by decide +kernel
  refine ⟨_, henv, hreported, (hkept _ live none hreported).2 fun hunkept => ?_⟩
  cases hunkept with
  | separator declares sign =>
    obtain ⟨e, he, rfl⟩ := List.mem_map.1 (Dict.mem_keys_ofList.1 declares)
    have hnames : ∀ e ∈ [("EMPTY", ""), ("MODE", "a=b"), ("SERVICE_NAME", "web-app")], '=' ∉ e.1.toList := by decide
    exact hnames e he sign
  | service declares other => exact other (Option.some.inj (declares.symm.trans (by decide +kernel)))

/-- Two containers that have just what they were given: one was to have another name for its service, and one has a
name with an equals sign. -/
theorem given_environment_drifts :
    let other : Spec := { environment := some (.object (.ofList [("SERVICE_NAME", .str "front")])) }
    let signed : Spec := { environment := some (.object (.ofList [("A=B", .str "x")])) }
    let live (entries : List String) : Inspection :=
      ⟨.ofFields [("Config", .ofFields [("Env", .ofStrings entries)])]⟩
    Create.environment other "web" = .ok (.ofList [("SERVICE_NAME", "web")]) ∧
      ((Comparator.ofSpec other .path).beside other (live ["SERVICE_NAME=web"]) none).environmentDiffers = .ok true ∧
      Create.environment signed "web" = .ok (.ofList [("A=B", "x"), ("SERVICE_NAME", "web")]) ∧
      ((Comparator.ofSpec signed .path).beside signed (live ["A=B=x", "SERVICE_NAME=web"]) none).environmentDiffers =
        .ok true := by
  decide +kernel

end Comparison

/-! ### What is shown of both sides -/

open Secret

/-- What redaction leaves of the two sides of an environment. -/
structure Secret.KeepsShape (current desired redactedCurrent redactedDesired : Dict Json) : Prop where
  currentKeys : redactedCurrent.keys = current.keys
  desiredKeys : redactedDesired.keys = desired.keys
  /-- Every value that is no secret is left as it is. -/
  openly : ∀ k, isSecretName k = false →
    redactedCurrent.get? k = current.get? k ∧ redactedDesired.get? k = desired.get? k
  /-- Of a live secret it is seen whether it is there. -/
  liveSecret : ∀ k, isSecretName k = true →
    redactedCurrent.get? k = (current.get? k).map fun v => if v.isNull then .null else Secret.hidden
  /-- A desired secret is hidden, with a mark or without one. -/
  desiredSecret : ∀ k v, isSecretName k = true → redactedDesired.get? k = some v →
    v = Secret.hidden ∨ v = Secret.hiddenChanged
  /-- The sides differ under the same names as before. -/
  differs : ∀ k, redactedCurrent.get? k ≠ redactedDesired.get? k ↔ current.get? k ≠ desired.get? k

namespace Comparison

variable {live d : Dict String}

theorem shownDesired_cases {e : String × String} (he : isSecretName e.1 = true) :
    shownDesired live e = Secret.hidden ∨ shownDesired live e = Secret.hiddenChanged := by
  rw [shownDesired, if_pos he]
  split
  · exact .inr rfl
  · exact .inl rfl

theorem keepsShape_shown (live d : Dict String) :
    KeepsShape (d.mapEntries fun k _ => .ofString? (live.get? k)) (d.mapValues .str)
      (d.mapEntries fun k _ => shownLive live k) (d.mapEntries fun k v => shownDesired live (k, v)) := by
  have hcurrent := Dict.get?_mapEntries (fun k _ => Json.ofString? (live.get? k)) d
  have hdesired := Dict.get?_mapValues Json.str d
  have hshownLive := Dict.get?_mapEntries (fun k _ => shownLive live k) d
  have hshownDesired := Dict.get?_mapEntries (fun k v => shownDesired live (k, v)) d
  refine ⟨?_, ?_, fun k hk => ?_, fun k hk => ?_, fun k v hk hv => ?_, fun k => not_congr ?_⟩
  · rw [Dict.keys_mapEntries, Dict.keys_mapEntries]
  · rw [Dict.keys_mapEntries, Dict.keys_mapValues]
  · rw [hshownLive, hcurrent, hshownDesired, hdesired]
    simp [shownLive, shownDesired, hk]
  · rw [hshownLive, hcurrent, Option.map_map]
    refine congrArg (fun f => (d.get? k).map f) (funext fun _ => ?_)
    rw [shownLive, if_pos hk, mask_text]
    cases live.get? k with
    | none => rfl
    | some v => rfl
  · rw [hshownDesired] at hv
    obtain ⟨w, -, rfl⟩ := Option.map_eq_some_iff.1 hv
    exact shownDesired_cases hk
  · rw [hshownLive, hshownDesired, hcurrent, hdesired]
    cases d.get? k with
    | none => exact iff_of_true rfl rfl
    | some v =>
      rw [Option.map_some, Option.map_some, Option.map_some, Option.map_some, Option.some_inj, Option.some_inj,
        shownLive_eq_shownDesired_iff (e := (k, v))]
      exact (Json.ofString?_injective.eq_iff' (b := some v) rfl).symm

end Comparison

namespace Comparator

theorem environment_drift_keeps_shape (c : Comparator) {s : Spec} {live : Inspection} {image : Option Image}
    {d : Drift × List Note} (h : c.compare s live image = .ok d) {e : DriftEntry} (he : e ∈ d.1.entries)
    (hkey : e.key = .environment) : ∃ current desired redactedCurrent redactedDesired : Dict Json,
      e.shown = ⟨.ofDict current, .ofDict desired⟩ ∧
      redact e.key e.shown = ⟨.ofDict redactedCurrent, .ofDict redactedDesired⟩ ∧
      current.keys = desired.keys ∧ KeepsShape current desired redactedCurrent redactedDesired := by
  obtain ⟨-, hshown⟩ := sound_compare h e he
  rw [hkey] at hshown ⊢
  rw [hshown]
  refine ⟨_, _, _, _, rfl, Comparison.redact_environment (c.beside s live image) rfl, ?_,
    Comparison.keepsShape_shown _ _⟩
  rw [Dict.keys_mapEntries, Dict.keys_mapValues]

/-- A secret is missing, another one is to become empty, and a third one is as it is to be. -/
theorem environment_drift_keeps_shape_secrets :
    let s : Spec := { environment := some (.object (.ofList [("API_KEY", .str "k"), ("DB_PASSWORD", .null),
      ("MODE", .str "rw"), ("TOKEN", .str "t")])) }
    let live : Inspection := ⟨.ofFields [("State", .ofFields [("Status", .str "running")]), ("Config", .ofFields
      [("Env", .ofStrings ["DB_PASSWORD=old", "MODE=ro", "TOKEN=t"])])]⟩
    ∃ d, ∃ e ∈ d.1.entries, (ofSpec s .path).compare s live none = .ok d ∧ e.key = .environment ∧
      ∃ current desired redactedCurrent redactedDesired : Dict Json,
        e.shown = ⟨.ofDict current, .ofDict desired⟩ ∧
        redact e.key e.shown = ⟨.ofDict redactedCurrent, .ofDict redactedDesired⟩ ∧
        current.keys = desired.keys ∧ KeepsShape current desired redactedCurrent redactedDesired := by
  intro s live
  have hkeys : ((ofSpec s .path).compare s live none).map (·.1.keys) = .ok [.environment] := by
    decide +kernel
  obtain ⟨d, hd, hkeys⟩ := Result.map_eq_ok.1 hkeys
  have hentry : Attribute.environment ∈ d.1.keys := by
    rw [hkeys]
    exact List.mem_singleton_self _
  obtain ⟨e, he, hkey⟩ := List.mem_map.1 hentry
  exact ⟨d, e, he, hd, hkey, environment_drift_keeps_shape _ hd he hkey⟩

end Comparator

end Shipshape
