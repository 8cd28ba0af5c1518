import Shipshape.Proofs.Create.Podman.Entry
import Shipshape.Proofs.Create.Request
import Shipshape.Proofs.Dimension
import Shipshape.Proofs.Drift.Comparison

/-!
# Specifications that can be requested

A specification that was accepted for comparison can be turned into a request exactly if it is `Requestable`: its
command lines are balanced, its limits and ulimits have values that can be read, and, for Podman, none of its
volumes is an entry of blanks (`exists_request_iff`). Comparing looks at none of this beforehand.

Proof outline. For each part of a request there is an exact condition under which it is made; a request is made if
all of its parts are (`exists_base_iff`).
-/

namespace Shipshape

/-! ### Command lines -/

/-- No quote is open at the end of a command line, and no backslash is its last character. -/
def CommandLine.Balanced (line : String) : Prop := (scan .start line.toList).mode = .plain

theorem CommandLine.exists_split_iff {line : String} : (∃ words, split line = .ok words) ↔ Balanced line := by
  unfold split wordsOf? State.finish? Balanced
  by_cases hmode : (scan .start line.toList).mode = .plain
  · simp [hmode]
  · simp [hmode]

theorem Create.exists_words?_iff {line : Option String} :
    (∃ words, words? line = .ok words) ↔ ∀ text ∈ line, CommandLine.Balanced text := by
  simp only [words?, Result.exists_mapM_option_iff, CommandLine.exists_split_iff]

/-! ### Limits -/

namespace Dimension

/-- The values of limits: numbers, texts that are blank or end in a digit, and sizes with a unit. -/
inductive IsLimit : Json → Prop
  | int (n : Int) : IsLimit (.int n)
  | float (x : Decimal.Binary64) : IsLimit (.float x)
  | blank {s : String} (h : Text.trimChars s.toList = []) : IsLimit (.str s)
  | digit {s : String} {last : Char} (hlast : (Text.trimChars s.toList).getLast? = some last)
      (h : last.isDigit = true) : IsLimit (.str s)
  | size {s : String} {number : List Char} {unit : Char} {n bytes : Nat}
      (htext : Text.trimChars s.toList = number ++ [unit]) (hunit : unitBytes? unit.toLower = some bytes)
      (hnumber : Decimal.readUnsigned? (Text.trimChars number) = some n)
      (hfits : n * bytes < Decimal.unsignedLimit) : IsLimit (.str s)

variable {key : String}

theorem exists_bytesOf_iff {raw number : List Char} {unit : Char} : (∃ t, bytesOf key raw number unit = .ok t) ↔
    ∃ bytes n, unitBytes? unit = some bytes ∧ Decimal.readUnsigned? (Text.trimChars number) = some n ∧
      n * bytes < Decimal.unsignedLimit := by
  simp only [bytesOf_eq_ok_iff]
  constructor
  · rintro ⟨t, bytes, n, hunit, hn, hfits, -⟩
    exact ⟨bytes, n, hunit, hn, hfits⟩
  · rintro ⟨bytes, n, hunit, hn, hfits⟩
    exact ⟨_, bytes, n, hunit, hn, hfits, rfl⟩

theorem exists_canonicalText_str_iff {s : String} : (∃ t, canonicalText key (.str s) = .ok t) ↔ IsLimit (.str s) := by
  simp only [canonicalText]
  cases hlast : (Text.trimChars s.toList).getLast? with
  | none =>
    have hempty := List.getLast?_eq_none_iff.1 hlast
    exact iff_of_true ⟨"", rfl⟩ (.blank hempty)
  | some last =>
    dsimp only
    by_cases hdigit : last.isDigit = true
    · rw [if_pos hdigit]
      exact iff_of_true ⟨_, rfl⟩ (.digit hlast hdigit)
    · rw [if_neg hdigit, exists_bytesOf_iff]
      constructor
      · rintro ⟨bytes, n, hunit, hnumber, hfits⟩
        exact .size (List.dropLast_append_getLast? last hlast).symm hunit hnumber hfits
      · intro h
        cases h with
        | blank hempty =>
          rw [hempty] at hlast
          cases hlast
        | digit hlast' hdigit' =>
          rw [hlast] at hlast'
          rw [Option.some.inj hlast'] at hdigit
          exact absurd hdigit' hdigit
        | size htext hunit hnumber hfits =>
          rw [htext, List.getLast?_concat, Option.some.injEq] at hlast
          rw [htext, List.dropLast_concat, ← hlast]
          exact ⟨_, _, hunit, hnumber, hfits⟩

theorem exists_canonicalText_iff (key : String) {v : Json} : (∃ t, canonicalText key v = .ok t) ↔ IsLimit v := by
  cases v with
  | str s => exact exists_canonicalText_str_iff
  | int n => exact iff_of_true ⟨_, rfl⟩ (.int n)
  | float x => exact iff_of_true ⟨_, rfl⟩ (.float x)
  | _ => exact iff_of_false nofun nofun

theorem hostField?_of_validate {dimensions : Dict Json} (h : validate dimensions = .ok ()) {v : Json}
    (hv : dimensions.get? key = some v) : ∃ field, (key, field) ∈ hostFields := by
  have hknown : (dimensions.keys.filter fun k => (hostField? k).isNone).isEmpty = true := by
    by_contra hunknown
    rw [Bool.not_eq_true] at hunknown
    simp only [validate, hunknown, Bool.not_false, if_true] at h
    cases h
  have hkey : key ∈ dimensions.keys := by
    by_contra hkey
    rw [Dict.get?_eq_none_iff.2 hkey] at hv
    cases hv
  have hsome := List.filter_eq_nil_iff.1 (List.isEmpty_iff.1 hknown) key hkey
  rw [Bool.not_eq_true, Option.isNone_eq_false_iff, Option.isSome_iff_exists] at hsome
  obtain ⟨field, hfield⟩ := hsome
  exact ⟨field, Dict.mem_of_lookup hfield⟩

end Dimension

theorem Create.exists_resource?_iff {s : Spec} {key field : String} : (∃ x, resource? s key field = .ok x) ↔
    ∀ v, s.dimensions.get? key = some v → Dimension.IsLimit v := by
  unfold resource?
  cases s.dimensions.get? key with
  | none => exact iff_of_true ⟨none, rfl⟩ nofun
  | some v =>
    simp only [Option.some.injEq, forall_eq', ← Dimension.exists_canonicalText_iff key]
    constructor
    · rintro ⟨x, hx⟩
      obtain ⟨t, ht, -⟩ := Result.bind_eq_ok.1 hx
      exact ⟨t, ht⟩
    · rintro ⟨t, ht⟩
      exact ⟨_, Result.bind_eq_ok.2 ⟨t, ht, rfl⟩⟩

/-! ### Ulimits -/

namespace Ulimits

/-- The values of ulimits: numbers of 64 bits, texts of such, and `unlimited`. -/
inductive IsValue : Json → Prop
  | int {n : Int} (h : Decimal.isSigned n = true) : IsValue (.int n)
  | unlimited {s : String} (h : Text.lower s = "unlimited") : IsValue (.str s)
  | text {s : String} {n : Int} (h : Decimal.readSigned? (Text.trimChars s.toList) = some n) : IsValue (.str s)

/-- A limit of which the soft or the hard value is given, or both. -/
structure IsPair (limit : Json) : Prop where
  given : (limit.get? "soft").isSome ∨ (limit.get? "hard").isSome
  soft : ∀ v ∈ limit.get? "soft", IsValue v
  hard : ∀ v ∈ limit.get? "hard", IsValue v

/-- Declared ulimits that can be read. -/
inductive IsDeclared : Json → Prop
  | null : IsDeclared .null
  | obj {limits : List (String × Json)} (h : ∀ e ∈ limits, IsPair e.2) : IsDeclared (.obj limits)

variable {key : String}

theorem exists_declaredValue_iff (key : String) {v : Json} : (∃ n, declaredValue key v = .ok n) ↔ IsValue v := by
  cases v with
  | int n =>
    by_cases h : Decimal.isSigned n = true
    · exact iff_of_true ⟨n, by simp [declaredValue, h]⟩ (.int h)
    · refine iff_of_false (by simp [declaredValue, h]) fun hv => ?_
      cases hv with
      | int hv => exact h hv
  | str s =>
    by_cases hlower : Text.lower s = "unlimited"
    · exact iff_of_true ⟨-1, by simp [declaredValue, hlower]⟩ (.unlimited hlower)
    · cases hread : Decimal.readSigned? (Text.trimChars s.toList) with
      | some n => exact iff_of_true ⟨n, by simp [declaredValue, hlower, hread]⟩ (.text hread)
      | none =>
        refine iff_of_false (by simp [declaredValue, hlower, hread]) fun hv => ?_
        cases hv with
        | unlimited h => exact hlower h
        | text h =>
          rw [hread] at h
          cases h
  | _ => exact iff_of_false nofun nofun

theorem exists_declaredPair_iff_values {limit : Json} : (∃ p, declaredPair key limit = .ok p) ↔
    ∃ soft hard, (limit.get? "soft").mapM (declaredValue key) = .ok soft ∧
      (limit.get? "hard").mapM (declaredValue key) = .ok hard ∧ (soft.isSome ∨ hard.isSome) := by
  simp only [declaredPair, Result.bind_eq_ok]
  constructor
  · rintro ⟨p, soft, hsoft, hard, hhard, h⟩
    refine ⟨soft, hard, hsoft, hhard, ?_⟩
    cases soft with
    | some s => exact .inl rfl
    | none =>
      cases hard with
      | some h => exact .inr rfl
      | none => cases h
  · rintro ⟨soft, hard, hsoft, hhard, h⟩
    cases soft with
    | some s =>
      cases hard with
      | some h => exact ⟨_, _, hsoft, _, hhard, rfl⟩
      | none => exact ⟨_, _, hsoft, _, hhard, rfl⟩
    | none =>
      cases hard with
      | some h => exact ⟨_, _, hsoft, _, hhard, rfl⟩
      | none => simp at h

theorem exists_declaredPair_iff {limit : Json} : (∃ p, declaredPair key limit = .ok p) ↔ IsPair limit := by
  rw [exists_declaredPair_iff_values]
  constructor
  · rintro ⟨soft, hard, hsoft, hhard, hgiven⟩
    refine ⟨?_, fun v hv => ?_, fun v hv => ?_⟩
    · rwa [Result.isSome_of_mapM_option hsoft, Result.isSome_of_mapM_option hhard] at hgiven
    · exact (exists_declaredValue_iff key).1 (Result.exists_mapM_option_iff.1 ⟨soft, hsoft⟩ v hv)
    · exact (exists_declaredValue_iff key).1 (Result.exists_mapM_option_iff.1 ⟨hard, hhard⟩ v hv)
  · intro h
    obtain ⟨soft, hsoft⟩ := Result.exists_mapM_option_iff.2 fun v hv =>
      (exists_declaredValue_iff key).2 (h.soft v hv)
    obtain ⟨hard, hhard⟩ := Result.exists_mapM_option_iff.2 fun v hv =>
      (exists_declaredValue_iff key).2 (h.hard v hv)
    refine ⟨soft, hard, hsoft, hhard, ?_⟩
    rw [Result.isSome_of_mapM_option hsoft, Result.isSome_of_mapM_option hhard]
    exact h.given

theorem exists_ofDeclared_iff {v : Json} : (∃ us, ofDeclared v = .ok us) ↔ IsDeclared v := by
  cases v with
  | null => exact iff_of_true ⟨∅, rfl⟩ .null
  | obj limits =>
    have hread : (∃ us, ofDeclared (.obj limits) = .ok us) ↔ ∀ e ∈ limits, IsPair e.2 := by
      rw [ofDeclared, Result.exists_bind_pure_iff, Result.exists_mapM_iff]
      simp only [Result.exists_bind_pure_iff, exists_declaredPair_iff]
    rw [hread]
    constructor
    · exact .obj
    · intro h
      cases h with
      | obj h => exact h
  | _ => exact iff_of_false nofun nofun

end Ulimits

theorem Create.exists_ulimits_iff {s : Spec} :
    (∃ us, ulimits s = .ok us) ↔ ∀ v, s.dimensions.get? "ulimits" = some v → Ulimits.IsDeclared v := by
  unfold ulimits
  cases s.dimensions.get? "ulimits" with
  | none => exact iff_of_true ⟨[], rfl⟩ nofun
  | some v =>
    simp only [Option.some.injEq, forall_eq', ← Ulimits.exists_ofDeclared_iff, Result.exists_bind_pure_iff]

/-! ### Whole specifications -/

/-- All parts of a specification can be requested of its engine. -/
structure Spec.Requestable (s : Spec) : Prop where
  command : ∀ line ∈ s.command, CommandLine.Balanced line
  entrypoint : ∀ line ∈ s.entrypoint, CommandLine.Balanced line
  limits : ∀ key v, key ≠ "ulimits" → s.dimensions.get? key = some v → Dimension.IsLimit v
  ulimits : ∀ v, s.dimensions.get? "ulimits" = some v → Ulimits.IsDeclared v
  volumes : s.engine = .podman → ∀ entry, .bind entry ∈ s.volumes → Text.trim entry = "" → entry = ""

namespace Create

variable {s : Spec} {name image : String}

theorem exists_resources_iff (h : Dimension.validate s.dimensions = .ok ()) : (∃ res, resources s = .ok res) ↔
    ∀ key v, key ≠ "ulimits" → s.dimensions.get? key = some v → Dimension.IsLimit v := by
  rw [resources, Result.exists_bind_pure_iff, Result.exists_mapM_iff]
  simp only [exists_resource?_iff]
  constructor
  · intro hall key v hkey hv
    obtain ⟨field, hfield⟩ := Dimension.hostField?_of_validate h hv
    exact hall (key, field) (List.mem_filter.2 ⟨hfield, bne_iff_ne.2 hkey⟩) v hv
  · intro hall e he v hv
    exact hall e.1 v (bne_iff_ne.1 (List.mem_filter.1 he).2) hv

theorem exists_environment (h : s.Valid) (name : String) : ∃ env, environment s name = .ok env := by
  rw [environment, Result.exists_bind_pure_iff]
  cases henv : s.environment with
  | none => exact ⟨∅, rfl⟩
  | some env => exact h.environment env henv

/-- What can be compared is requested, apart from storage, exactly if its command lines and limits can be read. -/
theorem exists_base_iff (hname : s.name = some name) (himage : s.image = some image) (h : s.Valid) :
    (∃ r, base s = .ok r) ↔ (∃ us, ulimits s = .ok us) ∧ (∃ words, words? s.command = .ok words) ∧
      (∃ words, words? s.entrypoint = .ok words) ∧ ∃ res, resources s = .ok res := by
  have hname' := Spec.requireName_eq_ok (a := .startContainer).2 hname
  have himage' := Spec.requireImage_eq_ok (a := .startContainer).2 himage
  obtain ⟨env, henv⟩ := exists_environment h name
  obtain ⟨health, hhealth⟩ := h.healthcheck
  simp only [base, Result.bind_eq_ok]
  constructor
  · rintro ⟨r, _, -, _, -, us, hus, command, hcommand, entrypoint, hentrypoint, _, -, _, -, res, hres, -⟩
    exact ⟨⟨us, hus⟩, ⟨command, hcommand⟩, ⟨entrypoint, hentrypoint⟩, res, hres⟩
  · rintro ⟨⟨us, hus⟩, ⟨command, hcommand⟩, ⟨entrypoint, hentrypoint⟩, res, hres⟩
    exact ⟨_, name, hname', image, himage', us, hus, command, hcommand, entrypoint, hentrypoint, env, henv, health,
      hhealth, res, hres, rfl⟩

theorem exists_storage_iff (h : s.Valid) : (∃ storage, Podman.storage s.volumes = .ok storage) ↔
    ∀ entry, .bind entry ∈ s.volumes → Text.trim entry = "" → entry = "" := by
  obtain ⟨volumes, hvolumes⟩ := h.volumes
  obtain ⟨read, hread, -⟩ := Result.bind_eq_ok.1 hvolumes
  rw [Podman.storage, Result.exists_bind_pure_iff, Result.exists_mapM_iff]
  constructor
  · intro hall entry hentry
    obtain ⟨volume, -, hvolume⟩ := Result.exists_of_mapM hread hentry
    exact (Podman.exists_ofBind_iff hvolume).1 (hall _ hentry)
  · intro hall d hd
    cases d with
    | mount m => exact ⟨_, rfl⟩
    | bind entry =>
      obtain ⟨volume, -, hvolume⟩ := Result.exists_of_mapM hread hd
      exact (Podman.exists_ofBind_iff hvolume).2 (hall entry hd)

theorem exists_request_iff_parts (h : s.Valid) : (∃ r, request s = .ok r) ↔ (∃ r, base s = .ok r) ∧
    (s.engine = .podman → ∃ storage, Podman.storage s.volumes = .ok storage) := by
  unfold request
  cases hengine : s.engine with
  | docker =>
    -- The entries are read for this engine too, but as they were read for the comparison.
    obtain ⟨volumes, hvolumes⟩ := h.volumes
    obtain ⟨read, hread, -⟩ := Result.bind_eq_ok.1 hvolumes
    rw [and_iff_left nofun]
    dsimp only
    simp only [Docker.request, hread]
    exact Result.exists_bind_pure_iff
  | podman =>
    simp only [Podman.request, Result.bind_eq_ok]
    constructor
    · rintro ⟨r, base, hbase, storage, hstorage, -⟩
      exact ⟨⟨base, hbase⟩, fun _ => ⟨storage, hstorage⟩⟩
    · rintro ⟨⟨base, hbase⟩, hstorage⟩
      obtain ⟨storage, hstorage⟩ := hstorage trivial
      exact ⟨_, base, hbase, storage, hstorage, rfl⟩

/-- A specification that can be compared is requested exactly if all of its parts can be. -/
theorem exists_request_iff (hname : s.name = some name) (himage : s.image = some image)
    (hvalid : s.validate = .ok ()) : (∃ r, request s = .ok r) ↔ s.Requestable := by
  have h := Spec.valid_of_validate hvalid
  rw [exists_request_iff_parts h, exists_base_iff hname himage h, exists_ulimits_iff, exists_words?_iff,
    exists_words?_iff, exists_resources_iff h.dimensions, exists_storage_iff h]
  constructor
  · rintro ⟨⟨hulimits, hcommand, hentrypoint, hlimits⟩, hvolumes⟩
    exact ⟨hcommand, hentrypoint, hlimits, hulimits, hvolumes⟩
  · intro hparts
    exact ⟨⟨hparts.ulimits, hparts.command, hparts.entrypoint, hparts.limits⟩, hparts.volumes⟩

theorem exists_request_iff_service :
    let s : Spec := { name := some "web", image := some "nginx", command := some "serve --name 'the web'"
                      dimensions := .ofList [("mem_limit", .str "1g"),
                        ("ulimits", .obj [("nofile", .obj [("soft", .int 5)])])]
                      engine := .podman, volumes := [.bind "", .bind "/data:/data:ro"] }
    s.validate = .ok () ∧ ∃ r, request s = .ok r := by
  intro s
  have hvalid : s.validate = .ok () := by decide +kernel
  have hcommand : ∀ line ∈ s.command, CommandLine.Balanced line := by
    intro line hline
    rw [← Option.some.inj hline]
    exact (by decide +kernel : (CommandLine.scan .start "serve --name 'the web'".toList).mode = .plain)
  have hlimits : ∀ key v, key ≠ "ulimits" → s.dimensions.get? key = some v → Dimension.IsLimit v := by
    intro key v hkey hv
    rcases List.mem_pair.1 (Dict.mem_of_mem_ofList (Dict.get?_eq_some_iff.1 hv)) with heq | heq
    · rw [(Prod.mk.inj heq).2]
      have htext : Text.trimChars "1g".toList = ['1'] ++ ['g'] := by decide +kernel
      have hunit : Dimension.unitBytes? (Char.toLower 'g') = some 1073741824 := rfl
      have hnumber : Decimal.readUnsigned? (Text.trimChars ['1']) = some 1 := by decide +kernel
      exact .size htext hunit hnumber (by decide)
    · exact absurd (Prod.mk.inj heq).1 hkey
  have hulimits : ∀ v, s.dimensions.get? "ulimits" = some v → Ulimits.IsDeclared v := by
    intro v hv
    rw [Dict.get?_ofList] at hv
    rw [← Option.some.inj hv]
    refine .obj fun e he => ?_
    rw [List.mem_singleton.1 he]
    refine ⟨.inl rfl, fun v hv => ?_, nofun⟩
    rw [Json.get?_obj] at hv
    rw [← Option.some.inj hv]
    exact .int (by decide)
  have hvolumes : s.engine = .podman → ∀ entry, .bind entry ∈ s.volumes → Text.trim entry = "" → entry = "" := by
    intro _ entry hentry htrim
    rcases List.mem_pair.1 hentry with heq | heq
    · exact VolumeDeclaration.bind.inj heq
    · rw [VolumeDeclaration.bind.inj heq] at htrim
      exact absurd htrim (by decide +kernel)
  exact ⟨hvalid, (exists_request_iff rfl rfl hvalid).2 ⟨hcommand, nofun, hlimits, hulimits, hvolumes⟩⟩

/-- An open quote, an unknown unit and an entry of blanks are found when the request is made. -/
theorem accepted_in_vain :
    let s : Spec := { name := some "web", image := some "nginx" }
    ∀ t ∈ [{ s with command := some "echo 'oops" }, { s with dimensions := .ofList [("mem_limit", .str "1x")] },
      { s with engine := .podman, volumes := [.bind "  "] }], t.validate = .ok () ∧ ∀ r, request t ≠ .ok r := by
  intro s
  have hfails : ∀ {t : Spec}, (request t).toOption.isNone = true → ∀ r, request t ≠ .ok r := by
    intro t h r hr
    rw [hr] at h
    cases h
  refine List.forall_mem_cons.2 ⟨⟨?_, hfails ?_⟩, List.forall_mem_cons.2 ⟨⟨?_, hfails ?_⟩,
    List.forall_mem_singleton.2 ⟨?_, hfails ?_⟩⟩⟩
  all_goals decide +kernel

end Create

end Shipshape
