import Shipshape.Create.Request
import Shipshape.Proofs.Memory.Document
import Shipshape.Proofs.Name

/-!
# Names of limits

A canonical name is in lower case. Taking the canonical name of one again may drop another `rlimit_` from it, or
blanks in front of it (`canonicalName_canonicalName_iff`). The kernel's name for it leads back in any case
(`canonicalName_kernelUlimit`).
-/

namespace Shipshape

namespace Ulimits

/-- A name that has a second `rlimit_` behind the first one, or blanks. -/
def Doubled (name : String) : Prop := Name.Doubled "rlimit_".toList name

theorem isLower_canonicalName (name : String) : Name.IsLower (canonicalName name) := Name.isLower_canonical _ name

/-- Canonical forms are canonical, but for those of doubled names. -/
theorem canonicalName_canonicalName_iff {name : String} :
    canonicalName (canonicalName name) = canonicalName name ↔ ¬ Doubled name :=
  Name.canonical_canonical_iff (by decide : "rlimit_".toList ≠ [])

/-- The beginning of the kernel's names. -/
def kernelStart : List Char := ['R', 'L', 'I', 'M', 'I', 'T', '_']

theorem toList_kernelUlimit (r : UlimitRecord) :
    (Create.Podman.kernelUlimit r).name.toList = kernelStart ++ r.name.toList.map Char.toUpper := by
  simp only [Create.Podman.kernelUlimit, Create.Podman.upper, String.toList_append, String.toList_ofList]
  rfl

theorem trimChars_kernelName (name : String) :
    Text.trimChars (kernelStart ++ (canonicalName name).toList.map Char.toUpper) =
      kernelStart ++ (canonicalName name).toList.map Char.toUpper := by
  have hstart : ∀ c ∈ kernelStart, Text.isBlank c = false := by
    have hall : kernelStart.all (!Text.isBlank ·) = true := by decide
    simpa only [List.all_eq_true, Bool.not_eq_true'] using hall
  refine Text.trimChars_eq_self_iff.2 ⟨fun c hc => ?_, fun c hc => ?_⟩
  · refine hstart c ?_
    rw [kernelStart, List.cons_append, List.head?_cons, Option.some.injEq] at hc
    rw [← hc]
    exact List.mem_cons_self ..
  · rw [List.getLast?_append, List.getLast?_map] at hc
    rcases Option.or_eq_some_iff.1 hc with hc | ⟨-, hc⟩
    · obtain ⟨d, hd, rfl⟩ := Option.map_eq_some_iff.1 hc
      rw [Text.isBlank_toUpper]
      exact Name.isBlank_of_getLast?_canonical hd
    · exact hstart c (List.mem_of_mem_getLast? hc)

/-- The kernel's name for a limit has the limit's name as its canonical form. -/
theorem canonicalName_kernelUlimit {r : UlimitRecord} {name : String} (hr : r.name = canonicalName name) :
    canonicalName (Create.Podman.kernelUlimit r).name = r.name := by
  have hback : (canonicalName name).toList.map (Char.toLower ∘ Char.toUpper) = (canonicalName name).toList := by
    show (canonicalName name).toList.map (fun c => c.toUpper.toLower) = _
    rw [List.map_congr_left fun c hc => (Text.toLower_toUpper c).trans (isLower_canonicalName name c hc),
      List.map_id']
  have hstart : kernelStart.map Char.toLower = "rlimit_".toList := by decide
  refine String.toList_inj.1 ?_
  rw [canonicalName, Name.toList_canonical, Name.letters, toList_kernelUlimit, hr, trimChars_kernelName,
    List.map_append, List.map_map, hback, hstart, Name.withoutStart_append]

/-! ### Declared limits -/

/-- Both values are in the signed 64-bit range. -/
def IsSigned (p : LimitPair) : Prop :=
  Decimal.isSigned p.soft = true ∧ Decimal.isSigned p.hard = true

theorem isSigned_of_declaredValue {key : String} {v : Json} {n : Int} (h : declaredValue key v = .ok n) :
    Decimal.isSigned n = true := by
  unfold declaredValue at h
  split at h
  · split at h
    · next hn =>
      injection h with h
      rwa [← h]
    · cases h
  · split at h
    · injection h with h
      rw [← h]
      decide
    · split at h
      · next n' hread =>
        injection h with h
        rw [← h]
        exact (Option.filter_eq_some_iff.1 hread).2
      · cases h
  · cases h

theorem isSigned_of_declaredPair {key : String} {limit : Json} {p : LimitPair}
    (h : declaredPair key limit = .ok p) : IsSigned p := by
  have hvalue : ∀ {field : Option Json} {n : Int},
      field.mapM (declaredValue key) = .ok (some n) → Decimal.isSigned n = true := by
    intro field n hn
    cases field with
    | none => cases hn
    | some v =>
      obtain ⟨n', hn', hn⟩ := Result.bind_eq_ok.1 hn
      injection hn with hn
      injection hn with hn
      rw [← hn]
      exact isSigned_of_declaredValue hn'
  obtain ⟨soft, hsoft, h⟩ := Result.bind_eq_ok.1 h
  obtain ⟨hard, hhard, h⟩ := Result.bind_eq_ok.1 h
  split at h
  · injection h with h
    rw [← h]
    exact ⟨hvalue hsoft, hvalue hhard⟩
  · injection h with h
    rw [← h]
    exact ⟨hvalue hsoft, hvalue hsoft⟩
  · injection h with h
    rw [← h]
    exact ⟨hvalue hhard, hvalue hhard⟩
  · cases h

/-- Declared limits as they can be requested: by canonical names, and within range. -/
structure Declared (us : Ulimits) : Prop where
  names : ∀ e ∈ us.entries, ∃ name, e.1 = canonicalName name
  signed : ∀ e ∈ us.entries, IsSigned e.2

theorem declared_of_ofDeclared {v : Json} {us : Ulimits} (h : ofDeclared v = .ok us) : Declared us := by
  cases v with
  | null =>
    injection h with h
    rw [← h]
    exact ⟨nofun, nofun⟩
  | obj limits =>
    obtain ⟨pairs, hpairs, h⟩ := Result.bind_eq_ok.1 h
    injection h with h
    subst h
    have hpair : ∀ e ∈ pairs, ∃ name, e.1 = canonicalName name ∧ IsSigned e.2 := by
      intro e he
      obtain ⟨limit, -, hlimit⟩ := Result.exists_of_mem_mapM hpairs he
      obtain ⟨p, hp, hlimit⟩ := Result.bind_eq_ok.1 hlimit
      injection hlimit with hlimit
      subst hlimit
      dsimp only
      exact ⟨limit.1, rfl, isSigned_of_declaredPair hp⟩
    refine ⟨fun e he => ?_, fun e he => ?_⟩
    · obtain ⟨name, hname, -⟩ := hpair e (Dict.mem_of_mem_ofList he)
      exact ⟨name, hname⟩
    · obtain ⟨-, -, hsigned⟩ := hpair e (Dict.mem_of_mem_ofList he)
      exact hsigned
  | bool b => cases h
  | int n => cases h
  | float x => cases h
  | str t => cases h
  | arr items => cases h

theorem mem_keys_of_ofDeclared {v : Json} {us : Ulimits} (h : ofDeclared v = .ok us) {k : String} :
    k ∈ us.keys ↔ ∃ name ∈ v.fields.keys, canonicalName name = k := by
  cases v with
  | null =>
    rw [← Except.ok.inj h]
    exact iff_of_false nofun fun ⟨_, hname, _⟩ => nomatch hname
  | obj limits =>
    obtain ⟨pairs, hpairs, h⟩ := Result.bind_eq_ok.1 h
    have hnames : List.Forall₂ Eq (limits.map fun e => canonicalName e.1) (pairs.map Prod.fst) := by
      rw [List.forall₂_map_left_iff, List.forall₂_map_right_iff]
      refine (Result.mapM_eq_ok.1 hpairs).imp fun limit e he => ?_
      obtain ⟨p, -, he⟩ := Result.bind_eq_ok.1 he
      have hpair : (canonicalName limit.1, p) = e := Except.ok.inj he
      rw [← hpair]
    rw [List.forall₂_eq_eq_eq] at hnames
    rw [← Except.ok.inj h, Dict.mem_keys_ofList, ← hnames, List.mem_map]
    show _ ↔ ∃ name ∈ (Dict.ofList limits).keys, canonicalName name = k
    simp [Dict.mem_keys_ofList]
  | bool b => cases h
  | int n => cases h
  | float x => cases h
  | str t => cases h
  | arr items => cases h

theorem Declared.canonicalName_eq_of_subset {us : Ulimits} (hus : Declared us)
    (h : us.keys ⊆ us.keys.map canonicalName) : ∀ name ∈ us.keys, canonicalName name = name := by
  refine Name.canonical_eq_of_onto (fun name hname => ?_) h
  obtain ⟨e, he, rfl⟩ := List.mem_map.1 hname
  obtain ⟨name, hname⟩ := hus.names e he
  rw [hname]
  exact isLower_canonicalName name

/-! ### Live limits -/

theorem ofJson?_toJson {r : UlimitRecord} (h : IsSigned ⟨r.soft, r.hard⟩) :
    UlimitRecord.ofJson? r.toJson = some r := by
  have hsoft : Json.signed? (.int r.soft) = some r.soft := if_pos h.1
  have hhard : Json.signed? (.int r.hard) = some r.hard := if_pos h.2
  rw [UlimitRecord.ofJson?, UlimitRecord.toJson, Json.record?_ofFields]
  show (Json.signed? (.int r.soft) >>= fun soft => Json.signed? (.int r.hard) >>= fun hard =>
    some (⟨r.name, soft, hard⟩ : UlimitRecord)) = _
  rw [hsoft, hhard]
  rfl

theorem mapM_ofJson?_toJson {records : List UlimitRecord} (h : ∀ r ∈ records, IsSigned ⟨r.soft, r.hard⟩) :
    (records.map UlimitRecord.toJson).mapM UlimitRecord.ofJson? = some records := by
  induction records with
  | nil => rfl
  | cons r records ih =>
    rw [List.forall_mem_cons] at h
    rw [List.map_cons, List.mapM_cons, ofJson?_toJson h.1, ih h.2]
    rfl

theorem ofLive_records {records : List UlimitRecord} (h : ∀ r ∈ records, IsSigned ⟨r.soft, r.hard⟩) :
    ofLive (some (.arr (records.map UlimitRecord.toJson))) =
      .ok (.ofList (records.map fun r => (canonicalName r.name, ⟨r.soft, r.hard⟩))) := by
  have hread : Json.list? UlimitRecord.ofJson? (.arr (records.map UlimitRecord.toJson)) = some records :=
    mapM_ofJson?_toJson h
  rw [ofLive]
  · simp only [hread]
  · nofun

/-! ### Limits that the host manages -/

/-- The limits together with the live one of a name, if there is none. -/
def carry (live us : Ulimits) (name : String) : Ulimits :=
  if us.contains name then us
  else match live.get? name with
    | some limit => us.insert name limit
    | none => us

theorem carryHostManaged_eq_foldl (us live : Ulimits) :
    us.carryHostManaged live = (hostManaged.map canonicalName).foldl (carry live) us := rfl

theorem get?_carry (live us : Ulimits) (name k : String) :
    (carry live us name).get? k = (us.get? k).or (if k = name then live.get? name else none) := by
  rw [carry]
  cases hus : us.get? name with
  | some limit =>
    have hcontains : us.contains name = true := by
      rw [Dict.contains, hus]
      rfl
    rw [if_pos hcontains]
    by_cases hk : k = name
    · rw [hk, hus, Option.some_or]
    · rw [if_neg hk, Option.or_none]
  | none =>
    have hcontains : ¬ us.contains name = true := by
      rw [Dict.contains, hus]
      exact Bool.false_ne_true
    rw [if_neg hcontains]
    cases live.get? name with
    | some limit =>
      show (us.insert name limit).get? k = _
      rw [Dict.get?_insert]
      by_cases hk : k = name
      · rw [if_pos hk, if_pos hk, hk, hus, Option.none_or]
      · rw [if_neg hk, if_neg hk, Option.or_none]
    | none => rw [ite_self, Option.or_none]

theorem get?_carryHostManaged (us live : Ulimits) (k : String) : (us.carryHostManaged live).get? k =
    (us.get? k).or (if k = "nproc" then live.get? "nproc" else none) := by
  have hnames : hostManaged.map canonicalName = ["nproc", "nproc"] := by decide
  rw [carryHostManaged_eq_foldl, hnames, List.foldl_cons, List.foldl_cons, List.foldl_nil, get?_carry, get?_carry,
    Option.or_assoc, Option.or_self]

theorem carryHostManaged_self (us : Ulimits) : us.carryHostManaged us = us := by
  ext k : 1
  rw [get?_carryHostManaged]
  split
  · next hk => rw [hk, Option.or_self]
  · rw [Option.or_none]

theorem mem_keys_carryHostManaged {us : Ulimits} (live : Ulimits) {k : String} (hk : k ∈ us.keys) :
    k ∈ (us.carryHostManaged live).keys := by
  by_contra hnot
  have hnone := Dict.get?_eq_none_iff.2 hnot
  rw [get?_carryHostManaged, Option.or_eq_none_iff] at hnone
  exact Dict.get?_eq_none_iff.1 hnone.1 hk

end Ulimits

end Shipshape
