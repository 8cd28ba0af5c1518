import Shipshape.Proofs.Drift.Rule.Limits

/-!
# Limits that are not set

Where nothing is declared to be limited and nothing is limited, the limits are not looked at one by one. Looking at
them would find a difference all the same if nothing is written in two ways, or if ulimits are declared to be none and
the container has some (`shortcut_agrees_iff`); and they are looked at as soon as another limit is declared.

Proof outline. Each limit is looked at by itself, and where nothing is set, what is found of it is given by how its
declaration and its live value are written (`Looked`).
-/

namespace Shipshape

/-- The text of a value that is not set, by which it is compared; only numbers and texts have one. -/
def Json.zeroText? : Json → Option String
  | .int n => if n = 0 then some "0" else none
  | .float x => if x.isZero then some (if x.negative then "-0.0" else "0.0") else none
  | .str s => if s = "" then some "" else none
  | _ => none

theorem Dimension.canonicalText_of_isUnset {key : String} {v : Json} (h : v.isUnset = true) :
    (canonicalText key v).toOption = v.zeroText? := by
  cases v with
  | null => rfl
  | bool b => rfl
  | arr items => rfl
  | obj fields => rfl
  | int n =>
    have hn : n = 0 := eq_of_beq h
    subst hn
    rfl
  | float x =>
    have hx : x.isZero = true := h
    rw [canonicalText, Json.zeroText?, if_pos hx, Comparison.text_of_isZero hx]
    rfl
  | str s =>
    have hs : s = "" := eq_of_beq h
    subst hs
    rfl

namespace Comparison

variable {c : Comparison} {e : String × String} {v : Json}

theorem isUnset_of_noDimensions (h : c.noDimensions = true) {key : String}
    (hv : c.spec.dimensions.get? key = some v) : v.isUnset = true :=
  (noDimensions_iff.1 h).1 v (List.mem_map_of_mem (f := Prod.snd) (Dict.get?_eq_some_iff.1 hv))

/-! ### Looking at a limit where nothing is set -/

/-- What looking at a limit finds where nothing is set: two zeros or empty texts are compared as they are written, and
ulimits that are declared to be none are not met by a container that has any but the number of processes. -/
inductive Looked (c : Comparison) : String × String → Bool → Prop
  | undeclared {e : String × String} (hnone : c.spec.dimensions.get? e.1 = none) : Looked c e false
  | limit {e : String × String} {v : Json} {s t : String} (he : e ∈ Create.limitFields)
      (hv : c.spec.dimensions.get? e.1 = some v) (hs : v.zeroText? = some s)
      (ht : (c.liveDimension e.2).zeroText? = some t) : Looked c e (s != t)
  | ulimits {live : Ulimits} (hv : c.spec.dimensions.get? "ulimits" = some (.obj []))
      (hlive : Ulimits.ofLive (some (c.liveDimension "Ulimits")) = .ok live) :
      Looked c ("ulimits", "Ulimits") (live.keys.any (· != "nproc"))

theorem carryHostManaged_empty {live : Ulimits} :
    Ulimits.carryHostManaged ∅ live = live ↔ ∀ name ∈ live.keys, name = "nproc" := by
  have hget : ∀ k, (Ulimits.carryHostManaged ∅ live).get? k = if k = "nproc" then live.get? "nproc" else none :=
    fun k => Ulimits.get?_carryHostManaged ∅ live k
  constructor
  · intro hsame name hname
    by_contra hne
    refine Dict.get?_eq_none_iff.1 ?_ hname
    rw [← hsame, hget, if_neg hne]
  · intro hall
    ext k : 1
    rw [hget]
    split
    · next hk => rw [hk]
    · next hk => exact (Dict.get?_eq_none_iff.2 fun hmem => hk (hall k hmem)).symm

theorem ulimitsDiffer_none {b : Bool} : c.ulimitsDiffer (.obj []) = .ok b ↔
    ∃ live, Ulimits.ofLive (some (c.liveDimension "Ulimits")) = .ok live ∧
      b = live.keys.any (· != "nproc") := by
  have hnone : Ulimits.ofDeclared (.obj []) = .ok ∅ := rfl
  have hdiffers : ∀ live : Ulimits,
      (Ulimits.carryHostManaged ∅ live != live) = live.keys.any (· != "nproc") := by
    intro live
    rw [Bool.eq_iff_iff, bne_iff_ne, ne_eq, carryHostManaged_empty, List.any_eq_true]
    simp
  rw [ulimitsDiffer, hnone]
  show (Ulimits.ofLive _ >>= fun live => .ok (Ulimits.carryHostManaged ∅ live != live)) = _ ↔ _
  rw [Result.bind_eq_ok]
  refine exists_congr fun live => and_congr_right fun _ => ?_
  rw [Except.ok.injEq, hdiffers, eq_comm]

theorem ne_null_of_validate {dimensions : Dict Json} {key : String} (h : Dimension.validate dimensions = .ok ())
    (hv : dimensions.get? key = some v) : v ≠ .null := by
  rintro rfl
  unfold Dimension.validate at h
  dsimp only at h
  split at h
  · cases h
  · split at h
    · cases h
    · next hfind =>
      exact List.find?_eq_none.1 hfind _ (Dict.get?_eq_some_iff.1 hv) rfl

theorem dimensionDiffers_of_undeclared (hno : c.noDimensions = true) (he : e ∈ Dimension.hostFields)
    (hnone : c.spec.dimensions.get? e.1 = none) : c.dimensionDiffers e.1 e.2 = .ok false := by
  rw [dimensionDiffers_undeclared hnone]
  rcases mem_hostFields_iff.1 he with hlimit | rfl
  · rw [(noDimensions_iff.1 hno).2 e hlimit, Bool.not_true, Bool.and_false]
  · rfl

theorem dimensionDiffers_iff_looked (hvalid : Dimension.validate c.spec.dimensions = .ok ())
    (hno : c.noDimensions = true) (he : e ∈ Dimension.hostFields) {b : Bool} :
    c.dimensionDiffers e.1 e.2 = .ok b ↔ Looked c e b := by
  constructor
  · intro h
    cases hv : c.spec.dimensions.get? e.1 with
    | none =>
      rw [dimensionDiffers_of_undeclared hno he hv] at h
      rw [← Except.ok.inj h]
      exact .undeclared hv
    | some v =>
      have hset := isUnset_of_noDimensions hno hv
      rcases mem_hostFields_iff.1 he with hlimit | rfl
      · rw [dimensionDiffers_limit hlimit hv] at h
        obtain ⟨s, t, hs, ht, rfl⟩ := Dimension.differ_eq_ok_iff.1 h
        refine .limit hlimit hv ?_ ?_
        · rw [← Dimension.canonicalText_of_isUnset hset, Result.toOption_eq_some_iff.2 hs]
        · rw [← Dimension.canonicalText_of_isUnset ((noDimensions_iff.1 hno).2 e hlimit),
            Result.toOption_eq_some_iff.2 ht]
      · rw [dimensionDiffers_ulimits hv] at h
        obtain ⟨us, hus, -⟩ := Result.bind_eq_ok.1 h
        obtain rfl := (declaresNone_of_isUnset hset hus).resolve_left (ne_null_of_validate hvalid hv)
        obtain ⟨live, hlive, rfl⟩ := ulimitsDiffer_none.1 h
        exact .ulimits hv hlive
  · intro h
    cases h with
    | undeclared hnone => exact dimensionDiffers_of_undeclared hno he hnone
    | limit hlimit hv hs ht =>
      rw [dimensionDiffers_limit hlimit hv, Dimension.differ_eq_ok_iff]
      refine ⟨_, _, ?_, ?_, rfl⟩
      · rw [← Result.toOption_eq_some_iff, Dimension.canonicalText_of_isUnset (isUnset_of_noDimensions hno hv), hs]
      · rw [← Result.toOption_eq_some_iff,
          Dimension.canonicalText_of_isUnset ((noDimensions_iff.1 hno).2 _ hlimit), ht]
    | ulimits hv hlive =>
      rw [dimensionDiffers_ulimits hv]
      exact ulimitsDiffer_none.2 ⟨_, hlive, rfl⟩

/-! ### The shortcut -/

/-- Looking at the limits one by one would find a difference: the first one that is not found to be as desired is found
to differ. -/
def HidesDrift (c : Comparison) : Prop :=
  ∃ before e after, Dimension.hostFields = before ++ e :: after ∧ (∀ b ∈ before, Looked c b false) ∧ Looked c e true

theorem anyDimensionDiffers_iff_hidesDrift (hvalid : Dimension.validate c.spec.dimensions = .ok ())
    (hno : c.noDimensions = true) : c.anyDimensionDiffers Dimension.hostFields = .ok true ↔ c.HidesDrift := by
  rw [anyDimensionDiffers_eq_ok_true]
  refine exists_congr fun before => exists_congr fun e => exists_congr fun after => and_congr_right fun hsplit => ?_
  have hmem : ∀ b ∈ before, b ∈ Dimension.hostFields := fun b hb => hsplit ▸ List.mem_append_left _ hb
  have he : e ∈ Dimension.hostFields := hsplit ▸ List.mem_append_right _ (List.mem_cons_self ..)
  rw [dimensionDiffers_iff_looked hvalid hno he]
  exact and_congr_left fun _ => forall₂_congr fun b hb => dimensionDiffers_iff_looked hvalid hno (hmem b hb)

def declaring (c : Comparison) (key : String) (v : Json) : Comparison :=
  { c with spec := { c.spec with dimensions := c.spec.dimensions.insert key v } }

theorem get?_declaring (c : Comparison) (key : String) (v : Json) (k : String) :
    (c.declaring key v).spec.dimensions.get? k = if k = key then some v else c.spec.dimensions.get? k :=
  Dict.get?_insert ..

theorem dimensionDiffers_declaring {key : String} (hne : e.1 ≠ key) :
    (c.declaring key v).dimensionDiffers e.1 e.2 = c.dimensionDiffers e.1 e.2 := by
  rw [dimensionDiffers, dimensionDiffers, get?_declaring, if_neg hne]
  rfl

theorem noDimensions_declaring (hno : c.noDimensions = true) (key : String) (v : Json) :
    (c.declaring key v).noDimensions = v.isUnset := by
  obtain ⟨hdeclared, hlive⟩ := noDimensions_iff.1 hno
  rw [Bool.eq_iff_iff, noDimensions_iff]
  constructor
  · rintro ⟨hall, -⟩
    refine hall v (List.mem_map_of_mem (f := Prod.snd) ((Dict.get?_eq_some_iff (k := key)).1 ?_))
    rw [get?_declaring, if_pos rfl]
  · intro hv
    refine ⟨fun w hw => ?_, hlive⟩
    obtain ⟨e, he, rfl⟩ := List.mem_map.1 hw
    rcases Dict.mem_of_mem_insert he with rfl | he
    · exact hv
    · exact hdeclared _ (List.mem_map_of_mem he)

theorem dimensionsDiffer_declaring (hno : c.noDimensions = true) (he : e ∈ Dimension.hostFields)
    (hnone : c.spec.dimensions.get? e.1 = none)
    (hmatch : (c.declaring e.1 v).dimensionDiffers e.1 e.2 = .ok false) :
    (c.declaring e.1 v).dimensionsDiffer =
      if v.isUnset then .ok false else c.anyDimensionDiffers Dimension.hostFields := by
  rw [dimensionsDiffer, noDimensions_declaring hno]
  congr 1
  refine anyDimensionDiffers_congr fun e' he' => ?_
  by_cases hkey : e'.1 = e.1
  · rw [eq_of_mem_hostFields he' he hkey, hmatch, dimensionDiffers_of_undeclared hno he hnone]
  · exact dimensionDiffers_declaring hkey

/-- Where nothing is set no difference is reported, and looking at the limits one by one reports none either, exactly if
none is hidden. What they would report is reported as soon as another limit is declared, if that one is set and as
desired. -/
theorem shortcut_agrees_iff (hvalid : Dimension.validate c.spec.dimensions = .ok ()) (hno : c.noDimensions = true) :
    c.dimensionsDiffer = .ok false ∧
    (c.anyDimensionDiffers Dimension.hostFields ≠ .ok true ↔ ¬ c.HidesDrift) ∧
    ∀ e ∈ Dimension.hostFields, ∀ v, c.spec.dimensions.get? e.1 = none →
      (c.declaring e.1 v).dimensionDiffers e.1 e.2 = .ok false →
        (c.declaring e.1 v).dimensionsDiffer =
          if v.isUnset then .ok false else c.anyDimensionDiffers Dimension.hostFields := by
  refine ⟨if_pos hno, not_congr (anyDimensionDiffers_iff_hidesDrift hvalid hno), ?_⟩
  intro e he v hnone hmatch
  exact dimensionsDiffer_declaring hno he hnone hmatch

/-- Nothing is set but the number of processes, which the host manages; and one limit more may be declared. -/
theorem shortcut_agrees_iff_processes :
    let c : Comparison := ⟨{ dimensions := .ofList [("mem_limit", .int 0), ("ulimits", .obj [])] },
      ⟨.ofFields [("HostConfig", .ofFields [("CpuShares", .int 0), ("Memory", .int 0), ("Ulimits", .arr
        [UlimitRecord.toJson ⟨"RLIMIT_NPROC", 4096, 4096⟩])])]⟩, none, .docker, .path⟩
    c.noDimensions = true ∧ ¬ c.HidesDrift ∧ (c.declaring "cpu_shares" (.str "0")).dimensionsDiffer = .ok false := by
  intro c
  have hvalid : Dimension.validate c.spec.dimensions = .ok () := by decide +kernel
  have hno : c.noDimensions = true := by decide +kernel
  have hnone : c.anyDimensionDiffers Dimension.hostFields = .ok false := by decide +kernel
  obtain ⟨-, hhides, hdeclaring⟩ := shortcut_agrees_iff hvalid hno
  refine ⟨hno, hhides.1 (by rw [hnone]; nofun), ?_⟩
  have hverdict := hdeclaring ("cpu_shares", "CpuShares") (by decide) (.str "0") rfl (by decide +kernel)
  rwa [hnone, ite_self] at hverdict

/-- A difference in ulimits, and two ways to write nothing, that are seen when another limit is declared: one that is as
desired. -/
theorem hidden_drift_shows :
    let beside (dimensions hostConfig : List (String × Json)) : Comparison := ⟨{ dimensions := .ofList dimensions },
      ⟨.ofFields [("HostConfig", .ofFields (("CpuShares", .int 0) :: hostConfig))]⟩, none, .docker, .path⟩
    let opened := beside [("ulimits", .obj [])] [("Ulimits", .arr [UlimitRecord.toJson ⟨"nofile", 1024, 1024⟩])]
    let blank := beside [("mem_limit", .str "")] [("Memory", .int 0)]
    ∀ c ∈ [opened, blank], Dimension.validate c.spec.dimensions = .ok () ∧ c.noDimensions = true ∧
      c.anyDimensionDiffers Dimension.hostFields = .ok true ∧
      (c.declaring "cpu_shares" (.str "0")).dimensionDiffers "cpu_shares" "CpuShares" = .ok false ∧
      (c.declaring "cpu_shares" (.str "0")).dimensionsDiffer = .ok true := by
  intro beside opened blank c hc
  simp only [List.mem_cons, List.not_mem_nil, or_false] at hc
  rcases hc with rfl | rfl
  · decide +kernel
  · decide +kernel

end Comparison

end Shipshape
