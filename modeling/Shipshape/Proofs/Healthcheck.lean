import Shipshape.Drift.Rule.Runtime
import Shipshape.Proofs.Memory.Document

/-!
# Healthchecks that read back

A declaration is accepted exactly if it gives every option and no other, and each duration is a number of seconds
whose nanoseconds fit 64 bits (`Accepted`). What was accepted is read back from the record of an engine, unless its
test is an empty list: that is a healthcheck when it is declared and none when it is reported
(`declared_reads_back_iff`).

Proof outline. The checks on the names of the options come before everything else (`ofDeclared_of_hasOptions`,
`exists_error_of_not_hasOptions`). Behind them the declaration is a sequence of readings, each with its own exact
condition.
-/

namespace Shipshape.Healthcheck

/-! ### The record of an engine -/

theorem ofLive?_toJson (h : Healthcheck) :
    ofLive? (some h.toJson) = if h.test = [] || h.test = [disabled] then none else some h := by
  obtain ⟨fields, hfields⟩ : ∃ fields, h.toJson = .obj fields := ⟨_, rfl⟩
  have htest : (h.toJson.getD "Test").plainTexts = h.test := by
    rw [toJson, Json.getD_ofFields]
    exact Json.plainTexts_ofStrings _
  have hnumber : ∀ k (n : Nat), h.toJson.get? k = some (.int n) → liveNumber h.toJson k = n := by
    intro k n hk
    rw [liveNumber, hk]
    exact Int.toNat_natCast n
  have hget : ∀ k, h.toJson.get? k = List.lookup k _ := fun k => Json.get?_ofFields _ k
  rw [hfields, ofLive?, ← hfields]
  simp only [htest, hnumber _ _ (hget "Interval"), hnumber _ _ (hget "Timeout"),
    hnumber _ _ (hget "StartPeriod"), hnumber _ _ (hget "Retries")]

/-! ### Numbers -/

/-- Numbers that are written as whole numbers or as texts. -/
def isPlainNumber : Json → Bool
  | .int _ | .str _ => true
  | _ => false

/-- The number that an option gives. -/
inductive Gives : Json → Nat → Prop where
  | int (n : Nat) : Gives (.int n) n
  | str {s : String} {n : Nat} (digits : Decimal.readUnsigned? (Text.trimChars s.toList) = some n) : Gives (.str s) n

variable {key : String} {v : Json} {n d : Nat} {e : Error}

theorem declaredNumber_of_gives (h : Gives v n) : declaredNumber key v = .ok n := by
  cases h with
  | int n => simp [declaredNumber]
  | str digits => simp [declaredNumber, digits]

theorem gives_of_declaredNumber (hv : isPlainNumber v = true) (h : declaredNumber key v = .ok n) : Gives v n := by
  cases v with
  | int i =>
    by_cases hi : 0 ≤ i
    · simp only [declaredNumber, if_pos hi, Except.ok.injEq] at h
      obtain ⟨m, rfl⟩ := Int.eq_ofNat_of_zero_le hi
      rw [← h]
      exact .int m
    · simp [declaredNumber, hi] at h
  | str s =>
    cases hs : Decimal.readUnsigned? (Text.trimChars s.toList) with
    | none => simp [declaredNumber, hs] at h
    | some m =>
      simp only [declaredNumber, hs, Except.ok.injEq] at h
      rw [← h]
      exact .str hs
  | _ => cases hv

theorem declaredNumber_eq_error (h : declaredNumber key v = .error e) : e = notInteger key v := by
  unfold declaredNumber at h
  dsimp only at h
  split at h
  · cases h
  · exact (Except.error.inj h).symm

theorem declaredDuration_eq_ok_iff : declaredDuration key v = .ok d ↔
    ∃ n, declaredNumber key v = .ok n ∧ d = n * nanosPerSecond ∧ d < Decimal.unsignedLimit := by
  unfold declaredDuration
  rw [Result.bind_eq_ok]
  refine exists_congr fun n => and_congr_right fun _ => ?_
  split
  · next hfits =>
    constructor
    · intro h
      obtain rfl := Except.ok.inj h
      exact ⟨rfl, hfits⟩
    · rintro ⟨rfl, -⟩
      rfl
  · next hfits =>
    refine iff_of_false nofun ?_
    rintro ⟨rfl, h⟩
    exact hfits h

theorem declaredDuration_eq_error (h : declaredDuration key v = .error e) : e = notInteger key v := by
  rcases Result.bind_eq_error.1 h with h | ⟨n, -, h⟩
  · exact declaredNumber_eq_error h
  · split at h
    · cases h
    · exact (Except.error.inj h).symm

/-! ### Declarations -/

/-- The options that are numbers of seconds. -/
def durationNames : List String := ["interval", "timeout", "start_period"]

/-- The durations by the names of their options. -/
def durations (h : Healthcheck) : List (String × Nat) :=
  [("interval", h.interval), ("timeout", h.timeout), ("start_period", h.startPeriod)]

/-- A declaration gives every option, and no other. -/
def HasOptions (raw : Dict Json) : Prop := ∀ k, k ∈ raw.keys ↔ k ∈ optionNames

/-- What has to be declared for a healthcheck. -/
structure Accepted (raw : Dict Json) (h : Healthcheck) : Prop where
  options : HasOptions raw
  test : ∃ v, raw.get? "test" = some v ∧ declaredTest? v = some h.test
  durations : ∀ e ∈ h.durations, ∃ v n, raw.get? e.1 = some v ∧ Gives v n ∧ e.2 = n * nanosPerSecond ∧
    e.2 < Decimal.unsignedLimit
  retries : ∃ v, raw.get? "retries" = some v ∧ Gives v h.retries

variable {raw : Dict Json} {x : Healthcheck}

theorem HasOptions.exists_get? (h : HasOptions raw) {k : String} (hk : k ∈ optionNames) : ∃ v, raw.get? k = some v :=
  Option.ne_none_iff_exists'.1 fun hnone => Dict.get?_eq_none_iff.1 hnone ((h k).2 hk)

/-- Behind the checks on the names, the test is read first, and a test that turns the healthcheck off is the end. -/
theorem ofDeclared_of_hasOptions (h : HasOptions raw) : ofDeclared (some raw) =
    match declaredTest? ((raw.get? "test").getD .null) with
    | none => .ok none
    | some test => do
      let interval ← declaredDuration "interval" ((raw.get? "interval").getD .null)
      let timeout ← declaredDuration "timeout" ((raw.get? "timeout").getD .null)
      let startPeriod ← declaredDuration "start_period" ((raw.get? "start_period").getD .null)
      let retries ← declaredNumber "retries" ((raw.get? "retries").getD .null)
      return some { test, interval, timeout, startPeriod, retries } := by
  have hnonempty : raw.isEmpty = false := by
    obtain ⟨v, hv⟩ := h.exists_get? (k := "test") (by decide)
    rw [Dict.isEmpty_eq_false_iff]
    rintro rfl
    cases hv
  have hunsupported : (raw.keys.filter fun k => !optionNames.contains k).isEmpty = true := by
    rw [List.isEmpty_iff, List.filter_eq_nil_iff]
    intro k hk
    simpa using (h k).1 hk
  have hmissing : (optionNames.filter fun k => !raw.contains k).isEmpty = true := by
    rw [List.isEmpty_iff, List.filter_eq_nil_iff]
    intro k hk
    obtain ⟨v, hv⟩ := h.exists_get? hk
    simp [Dict.contains, hv]
  unfold ofDeclared
  simp only [Option.getD_some, hnonempty, hunsupported, hmissing]
  rfl

theorem exists_error_of_not_hasOptions (hraw : raw ≠ ∅) (h : ¬ HasOptions raw) :
    ∃ e, ofDeclared (some raw) = .error e := by
  have hnonempty : raw.isEmpty = false := Dict.isEmpty_eq_false_iff.2 hraw
  by_cases hunsupported : (raw.keys.filter fun k => !optionNames.contains k).isEmpty = true
  · by_cases hmissing : (optionNames.filter fun k => !raw.contains k).isEmpty = true
    · refine absurd (fun k => ⟨fun hk => ?_, fun hk => ?_⟩) h
      · by_contra hnot
        refine List.filter_eq_nil_iff.1 (List.isEmpty_iff.1 hunsupported) k hk ?_
        simpa using hnot
      · by_contra hnot
        refine List.filter_eq_nil_iff.1 (List.isEmpty_iff.1 hmissing) k hk ?_
        simp [Dict.contains, Dict.get?_eq_none_iff.2 hnot]
    · unfold ofDeclared
      simp only [Option.getD_some, hnonempty, hunsupported, hmissing]
      exact ⟨_, rfl⟩
  · unfold ofDeclared
    simp only [Option.getD_some, hnonempty, hunsupported]
    exact ⟨_, rfl⟩

theorem hasOptions_of_ofDeclared {h : Option Healthcheck} (hraw : raw ≠ ∅) (hd : ofDeclared (some raw) = .ok h) :
    HasOptions raw := by
  by_contra hoptions
  obtain ⟨e, he⟩ := exists_error_of_not_hasOptions hraw hoptions
  rw [he] at hd
  cases hd

theorem ofDeclared_eq_none_iff : ofDeclared (some raw) = .ok none ↔
    raw = ∅ ∨ HasOptions raw ∧ ∃ v, raw.get? "test" = some v ∧ declaredTest? v = none := by
  by_cases hraw : raw = ∅
  · rw [hraw]
    exact iff_of_true rfl (.inl rfl)
  · rw [or_iff_right hraw]
    constructor
    · intro hd
      have hoptions := hasOptions_of_ofDeclared hraw hd
      obtain ⟨v, hv⟩ := hoptions.exists_get? (k := "test") (by decide)
      refine ⟨hoptions, v, hv, ?_⟩
      rw [ofDeclared_of_hasOptions hoptions, hv, Option.getD_some] at hd
      cases htest : declaredTest? v with
      | none => rfl
      | some test =>
        rw [htest] at hd
        simp only [Result.bind_eq_ok] at hd
        obtain ⟨_, -, _, -, _, -, _, -, hd⟩ := hd
        cases hd
    · rintro ⟨hoptions, v, hv, htest⟩
      rw [ofDeclared_of_hasOptions hoptions, hv, Option.getD_some, htest]

theorem ofDeclared_eq_some_iff : ofDeclared (some raw) = .ok (some x) ↔ HasOptions raw ∧
    (∃ v, raw.get? "test" = some v ∧ declaredTest? v = some x.test) ∧
    (∀ e ∈ x.durations, ∃ v, raw.get? e.1 = some v ∧ declaredDuration e.1 v = .ok e.2) ∧
    ∃ v, raw.get? "retries" = some v ∧ declaredNumber "retries" v = .ok x.retries := by
  constructor
  · intro hd
    have hraw : raw ≠ ∅ := by
      rintro rfl
      cases hd
    have hoptions := hasOptions_of_ofDeclared hraw hd
    obtain ⟨test, htest⟩ := hoptions.exists_get? (k := "test") (by decide)
    obtain ⟨interval, hinterval⟩ := hoptions.exists_get? (k := "interval") (by decide)
    obtain ⟨timeout, htimeout⟩ := hoptions.exists_get? (k := "timeout") (by decide)
    obtain ⟨start, hstart⟩ := hoptions.exists_get? (k := "start_period") (by decide)
    obtain ⟨retries, hretries⟩ := hoptions.exists_get? (k := "retries") (by decide)
    rw [ofDeclared_of_hasOptions hoptions, htest, hinterval, htimeout, hstart, hretries] at hd
    simp only [Option.getD_some] at hd
    cases hwords : declaredTest? test with
    | none =>
      rw [hwords] at hd
      cases hd
    | some words =>
      rw [hwords] at hd
      simp only [Result.bind_eq_ok] at hd
      obtain ⟨i, hi, t, ht, s, hs, r, hr, hd⟩ := hd
      obtain rfl := Option.some.inj (Except.ok.inj hd)
      refine ⟨hoptions, ⟨test, htest, hwords⟩, fun e he => ?_, retries, hretries, hr⟩
      simp only [durations, List.mem_cons, List.not_mem_nil, or_false] at he
      rcases he with rfl | rfl | rfl
      · exact ⟨interval, hinterval, hi⟩
      · exact ⟨timeout, htimeout, ht⟩
      · exact ⟨start, hstart, hs⟩
  · rintro ⟨hoptions, ⟨test, htest, hwords⟩, hdurations, retries, hretries, hr⟩
    have hduration : ∀ e ∈ x.durations, declaredDuration e.1 ((raw.get? e.1).getD .null) = .ok e.2 := by
      intro e he
      obtain ⟨v, hv, hread⟩ := hdurations e he
      rw [hv, Option.getD_some, hread]
    have hi := hduration ("interval", x.interval) (by simp [durations])
    have ht := hduration ("timeout", x.timeout) (by simp [durations])
    have hs := hduration ("start_period", x.startPeriod) (by simp [durations])
    rw [ofDeclared_of_hasOptions hoptions, htest, hretries, hi, ht, hs]
    simp only [Option.getD_some, hwords, hr]
    rfl

theorem ofDeclared_eq_error (hoptions : HasOptions raw) (h : ofDeclared (some raw) = .error e) :
    ∃ k ∈ "retries" :: durationNames, e = notInteger k ((raw.get? k).getD .null) := by
  rw [ofDeclared_of_hasOptions hoptions] at h
  split at h
  · cases h
  · simp only [Result.bind_eq_error] at h
    rcases h with h | ⟨_, -, h | ⟨_, -, h | ⟨_, -, h | ⟨_, -, h⟩⟩⟩⟩
    · exact ⟨"interval", by decide, declaredDuration_eq_error h⟩
    · exact ⟨"timeout", by decide, declaredDuration_eq_error h⟩
    · exact ⟨"start_period", by decide, declaredDuration_eq_error h⟩
    · exact ⟨"retries", by decide, declaredNumber_eq_error h⟩
    · cases h

/-! ### What was declared is read back -/

theorem declaredTest?_ne_disabled {test : List String} (h : declaredTest? v = some test) : test ≠ [disabled] := by
  unfold declaredTest? at h
  split at h
  · dsimp only at h
    split at h
    · cases h
    · next hne => rwa [← Option.some.inj h]
  · split at h
    · cases h
    · simp [← Option.some.inj h]
  · simp [← Option.some.inj h]

theorem declaredTest?_eq_some_nil_iff : declaredTest? v = some [] ↔ v = .arr [] := by
  constructor
  · intro h
    unfold declaredTest? at h
    split at h
    · dsimp only at h
      split at h
      · cases h
      · rw [List.map_eq_nil_iff.1 (Option.some.inj h)]
    · split at h
      · cases h
      · cases h
    · cases h
  · rintro rfl
    rfl

theorem test_ne_disabled {declared : Option (Dict Json)} (h : ofDeclared declared = .ok (some x)) :
    x.test ≠ [disabled] := by
  cases declared with
  | none => cases h
  | some raw =>
    obtain ⟨-, ⟨v, -, htest⟩, -⟩ := ofDeclared_eq_some_iff.1 h
    exact declaredTest?_ne_disabled htest

theorem readsBack_iff {h : Option Healthcheck} (hd : ofDeclared (some raw) = .ok h) :
    ofLive? (some (Comparison.shownHealthcheck h)) = h ↔ raw.get? "test" ≠ some (.arr []) := by
  cases h with
  | none =>
    refine iff_of_true rfl fun hempty => ?_
    rcases ofDeclared_eq_none_iff.1 hd with rfl | ⟨-, v, hv, htest⟩
    · cases hempty
    · rw [Option.some.inj (hv.symm.trans hempty), declaredTest?_eq_some_nil_iff.2 rfl] at htest
      cases htest
  | some x =>
    obtain ⟨-, ⟨v, hv, htest⟩, -⟩ := ofDeclared_eq_some_iff.1 hd
    have hnil : x.test = [] ↔ v = .arr [] := by
      rw [← declaredTest?_eq_some_nil_iff, htest, Option.some_inj]
    show ofLive? (some x.toJson) = some x ↔ _
    rw [ofLive?_toJson, hv, ne_eq, Option.some_inj, ← hnil]
    simp [test_ne_disabled hd]

/-- The numbers of a declaration are written as whole numbers or as texts. -/
def PlainNumbers (raw : Dict Json) : Prop :=
  ∀ k ∈ "retries" :: durationNames, ∀ v, raw.get? k = some v → isPlainNumber v = true

theorem ofDeclared_eq_some_iff_accepted (hnumbers : PlainNumbers raw) :
    ofDeclared (some raw) = .ok (some x) ↔ Accepted raw x := by
  have hnames : ∀ e ∈ x.durations, e.1 ∈ "retries" :: durationNames := by simp [durations, durationNames]
  rw [ofDeclared_eq_some_iff]
  constructor
  · rintro ⟨hoptions, htest, hdurations, retries, hretries, hr⟩
    refine ⟨hoptions, htest, fun e he => ?_, retries, hretries,
      gives_of_declaredNumber (hnumbers _ (by decide) _ hretries) hr⟩
    obtain ⟨v, hv, hread⟩ := hdurations e he
    obtain ⟨n, hn, hexact⟩ := declaredDuration_eq_ok_iff.1 hread
    exact ⟨v, n, hv, gives_of_declaredNumber (hnumbers _ (hnames e he) _ hv) hn, hexact⟩
  · rintro ⟨hoptions, htest, hdurations, retries, hretries, hr⟩
    refine ⟨hoptions, htest, fun e he => ?_, retries, hretries, declaredNumber_of_gives hr⟩
    obtain ⟨v, n, hv, hn, hexact⟩ := hdurations e he
    exact ⟨v, hv, declaredDuration_eq_ok_iff.2 ⟨n, declaredNumber_of_gives hn, hexact⟩⟩

/-- A healthcheck reads back exactly if its test is not an empty list. It is made of what was declared, with durations
that fit, and a duration that does not fit is refused wherever the test does not turn the healthcheck off. -/
theorem declared_reads_back_iff (hnumbers : PlainNumbers raw) :
    (∀ h, ofDeclared (some raw) = .ok h →
      (ofLive? (some (Comparison.shownHealthcheck h)) = h ↔ raw.get? "test" ≠ some (.arr []))) ∧
    (∀ x, ofDeclared (some raw) = .ok (some x) ↔ Accepted raw x) ∧
    ∀ k ∈ durationNames, ∀ v n, raw.get? k = some v → Gives v n → Decimal.unsignedLimit ≤ n * nanosPerSecond →
      (∀ t, raw.get? "test" = some t → declaredTest? t ≠ none) →
        ∃ e, ofDeclared (some raw) = .error e ∧
          (HasOptions raw → ∃ k' ∈ "retries" :: durationNames, e = notInteger k' ((raw.get? k').getD .null)) := by
  refine ⟨fun h => readsBack_iff, fun x => ofDeclared_eq_some_iff_accepted hnumbers,
    fun k hk v n hv hgives hlarge henabled => ?_⟩
  cases hd : ofDeclared (some raw) with
  | error e => exact ⟨e, rfl, fun hoptions => ofDeclared_eq_error hoptions hd⟩
  | ok h =>
    exfalso
    cases h with
    | none =>
      rcases ofDeclared_eq_none_iff.1 hd with rfl | ⟨-, t, ht, hoff⟩
      · cases hv
      · exact henabled t ht hoff
    | some x =>
      -- the option is one of the durations, and what it gives is what its duration is made of
      obtain ⟨d, hmem⟩ : ∃ d, (k, d) ∈ x.durations := by
        simp only [durationNames, List.mem_cons, List.not_mem_nil, or_false] at hk
        rcases hk with rfl | rfl | rfl <;> simp [durations]
      obtain ⟨-, -, hdurations, -⟩ := ofDeclared_eq_some_iff.1 hd
      obtain ⟨v', hv', hread⟩ := hdurations _ hmem
      obtain ⟨n', hn', rfl, hfits⟩ := declaredDuration_eq_ok_iff.1 hread
      rw [← Option.some.inj (hv.symm.trans hv'), declaredNumber_of_gives hgives] at hn'
      rw [← Except.ok.inj hn'] at hfits
      omega

/-- The longest duration that fits, and one of a second more. -/
theorem declared_reads_back_iff_longest :
    let raw (seconds : Nat) : Dict Json := .ofList [("interval", .int seconds), ("retries", .str " +3"),
      ("start_period", .str "0"), ("test", .str "true"), ("timeout", .int 1)]
    let h : Healthcheck := ⟨["CMD-SHELL", "true"], 18446744073000000000, 1000000000, 0, 3⟩
    ofDeclared (some (raw 18446744073)) = .ok (some h) ∧ ofLive? (some h.toJson) = some h ∧
      ∃ e, ofDeclared (some (raw 18446744074)) = .error e := by
  intro raw h
  have hnumbers : ∀ n, PlainNumbers (raw n) := by
    intro n k hk v hv
    rw [Dict.get?_ofList] at hv
    simp only [durationNames, List.mem_cons, List.not_mem_nil, or_false] at hk
    rcases hk with rfl | rfl | rfl | rfl <;> exact (Option.some.inj hv) ▸ rfl
  have htest : ∀ n t, (raw n).get? "test" = some t → t = .str "true" := by
    intro n t ht
    rw [Dict.get?_ofList] at ht
    exact (Option.some.inj ht).symm
  have hread : ofDeclared (some (raw 18446744073)) = .ok (some h) := by decide +kernel
  refine ⟨hread, ((declared_reads_back_iff (hnumbers _)).1 _ hread).2 fun hempty => ?_, ?_⟩
  · cases htest _ _ hempty
  · obtain ⟨e, he, -⟩ := (declared_reads_back_iff (hnumbers 18446744074)).2.2 "interval" (by decide) _ _ rfl
      (.int 18446744074) (by decide) fun t ht => by
        rw [htest _ _ ht]
        decide
    exact ⟨e, he⟩

/-- A healthcheck whose test is an empty list is declared, and none is read back. -/
theorem empty_test_lost :
    let raw : Dict Json := .ofList [("interval", .int 1), ("retries", .int 1), ("start_period", .int 1),
      ("test", .arr []), ("timeout", .int 1)]
    let h : Healthcheck := ⟨[], 1000000000, 1000000000, 1000000000, 1⟩
    ofDeclared (some raw) = .ok (some h) ∧ ofLive? (some (Comparison.shownHealthcheck (some h))) = none := by
  intro raw h
  refine ⟨by decide +kernel, ?_⟩
  show ofLive? (some h.toJson) = none
  rw [ofLive?_toJson]
  rfl

end Shipshape.Healthcheck
