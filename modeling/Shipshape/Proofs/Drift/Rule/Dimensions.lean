import Mathlib.Data.List.Nodup
import Shipshape.Drift.Rule.Runtime
import Shipshape.Proofs.Create.Resources

/-!
# The rule on limits

The limits are looked at in order up to the first one that differs or cannot be compared
(`anyDimensionDiffers_append`), unless nothing is set (`noDimensions_iff`). What is found of a limit is given by its
declaration and its live value, and so is what the rule says (`dimensionsDiffer_congr`).
-/

namespace Shipshape.Comparison

variable {c c' : Comparison} {e : String × String} {l : List (String × String)} {v : Json}

/-! ### The fields -/

theorem ne_ulimits_of_mem (he : e ∈ Create.limitFields) : e.1 ≠ "ulimits" := by
  simpa using (List.mem_filter.1 he).2

theorem hostFields_eq : Dimension.hostFields = Create.limitFields ++ [("ulimits", "Ulimits")] := by decide

theorem mem_hostFields_iff : e ∈ Dimension.hostFields ↔ e ∈ Create.limitFields ∨ e = ("ulimits", "Ulimits") := by
  rw [hostFields_eq, List.mem_append, List.mem_singleton]

theorem nodup_hostFields : (Dimension.hostFields.map Prod.fst).Nodup := by decide

theorem eq_of_mem_hostFields {e' : String × String} (he : e ∈ Dimension.hostFields) (he' : e' ∈ Dimension.hostFields)
    (hkey : e.1 = e'.1) : e = e' := List.inj_on_of_nodup_map nodup_hostFields he he' hkey

/-! ### One limit -/

theorem liveDimension_of_hostValue {field : String} (h : c.live.hostValue? field = some v) :
    c.liveDimension field = v := by
  rw [liveDimension, h]
  rfl

theorem dimensionDiffers_limit (he : e ∈ Create.limitFields) (hv : c.spec.dimensions.get? e.1 = some v) :
    c.dimensionDiffers e.1 e.2 = Dimension.differ e.1 v (c.liveDimension e.2) := by
  rw [dimensionDiffers, hv]
  exact if_neg (ne_ulimits_of_mem he)

theorem dimensionDiffers_ulimits (hv : c.spec.dimensions.get? "ulimits" = some v) :
    c.dimensionDiffers "ulimits" "Ulimits" = c.ulimitsDiffer v := by
  rw [dimensionDiffers, hv]
  exact if_pos rfl

theorem dimensionDiffers_undeclared (hnone : c.spec.dimensions.get? e.1 = none) :
    c.dimensionDiffers e.1 e.2 = .ok (e.1 != "ulimits" && !(c.liveDimension e.2).isUnset) := by
  rw [dimensionDiffers, hnone]

/-! ### One limit after the other -/

theorem anyDimensionDiffers_append (c : Comparison) (before after : List (String × String)) :
    c.anyDimensionDiffers (before ++ after) =
      c.anyDimensionDiffers before >>= fun differs => if differs then .ok true else c.anyDimensionDiffers after := by
  induction before with
  | nil => rfl
  | cons e before ih =>
    rw [List.cons_append, anyDimensionDiffers, anyDimensionDiffers, ih]
    rcases c.dimensionDiffers e.1 e.2 with error | differs
    · rfl
    · cases differs with
      | true => rfl
      | false => rfl

theorem anyDimensionDiffers_eq_ok_false :
    c.anyDimensionDiffers l = .ok false ↔ ∀ e ∈ l, c.dimensionDiffers e.1 e.2 = .ok false := by
  induction l with
  | nil => simp [anyDimensionDiffers]
  | cons e l ih =>
    rw [List.forall_mem_cons, ← ih, anyDimensionDiffers, Result.bind_eq_ok]
    constructor
    · rintro ⟨differs, hdiffers, h⟩
      cases differs with
      | true => cases h
      | false => exact ⟨hdiffers, h⟩
    · rintro ⟨hdiffers, h⟩
      exact ⟨false, hdiffers, h⟩

theorem anyDimensionDiffers_eq_ok_true : c.anyDimensionDiffers l = .ok true ↔
    ∃ before e after, l = before ++ e :: after ∧ (∀ b ∈ before, c.dimensionDiffers b.1 b.2 = .ok false) ∧
      c.dimensionDiffers e.1 e.2 = .ok true := by
  induction l with
  | nil => simp [anyDimensionDiffers]
  | cons e l ih =>
    rw [anyDimensionDiffers, Result.bind_eq_ok]
    constructor
    · rintro ⟨differs, hdiffers, h⟩
      cases differs with
      | true => exact ⟨[], e, l, rfl, nofun, hdiffers⟩
      | false =>
        obtain ⟨before, e', after, rfl, hbefore, he'⟩ := ih.1 h
        exact ⟨e :: before, e', after, rfl, List.forall_mem_cons.2 ⟨hdiffers, hbefore⟩, he'⟩
    · rintro ⟨before, e', after, hl, hbefore, he'⟩
      cases before with
      | nil =>
        obtain ⟨rfl, -⟩ := List.cons_eq_cons.1 hl
        exact ⟨true, he', rfl⟩
      | cons b before =>
        obtain ⟨rfl, rfl⟩ := List.cons_eq_cons.1 hl
        rw [List.forall_mem_cons] at hbefore
        exact ⟨false, hbefore.1, ih.2 ⟨before, e', after, rfl, hbefore.2, he'⟩⟩

/-! ### Nothing set -/

/-- Where nothing is set, nothing declared is set, and nothing live but ulimits. -/
theorem noDimensions_iff : c.noDimensions = true ↔
    (∀ v ∈ Dict.values c.spec.dimensions, v.isUnset = true) ∧
      ∀ e ∈ Create.limitFields, (c.liveDimension e.2).isUnset = true := by
  rw [noDimensions, Bool.and_eq_true, Dimension.allUnset, Dimension.allUnset, List.all_eq_true, List.all_map,
    List.all_eq_true]
  rfl

/-! ### What the rule looks at -/

theorem dimensionDiffers_congr (hspec : c'.spec.dimensions = c.spec.dimensions) (he : e ∈ Dimension.hostFields)
    (h : c'.liveDimension e.2 = c.liveDimension e.2) : c'.dimensionDiffers e.1 e.2 = c.dimensionDiffers e.1 e.2 := by
  rw [dimensionDiffers, dimensionDiffers, hspec, h]
  rcases mem_hostFields_iff.1 he with hlimit | rfl
  · simp only [if_neg (ne_ulimits_of_mem hlimit)]
  · have hulimits : ∀ v, c'.ulimitsDiffer v = c.ulimitsDiffer v := by
      intro v
      simp only [ulimitsDiffer, h]
    simp only [hulimits]

theorem anyDimensionDiffers_congr (h : ∀ e ∈ l, c'.dimensionDiffers e.1 e.2 = c.dimensionDiffers e.1 e.2) :
    c'.anyDimensionDiffers l = c.anyDimensionDiffers l := by
  induction l with
  | nil => rfl
  | cons e l ih =>
    rw [List.forall_mem_cons] at h
    rw [anyDimensionDiffers, anyDimensionDiffers, h.1, ih h.2]

theorem noDimensions_congr (hspec : c'.spec.dimensions = c.spec.dimensions)
    (h : ∀ e ∈ Create.limitFields, (c'.liveDimension e.2).isUnset = (c.liveDimension e.2).isUnset) :
    c'.noDimensions = c.noDimensions := by
  rw [Bool.eq_iff_iff, noDimensions_iff, noDimensions_iff, hspec]
  exact and_congr_right fun _ => forall₂_congr fun e he => by rw [h e he]

theorem dimensionsDiffer_congr_ulimits (hspec : c'.spec.dimensions = c.spec.dimensions)
    (hlimits : ∀ e ∈ Create.limitFields, c'.liveDimension e.2 = c.liveDimension e.2)
    (hulimits : ∀ v, c'.ulimitsDiffer v = c.ulimitsDiffer v) : c'.dimensionsDiffer = c.dimensionsDiffer := by
  have hno : c'.noDimensions = c.noDimensions := noDimensions_congr hspec fun e he => by rw [hlimits e he]
  rw [dimensionsDiffer, dimensionsDiffer, hno, anyDimensionDiffers_congr fun e he => ?_]
  rcases mem_hostFields_iff.1 he with hlimit | rfl
  · exact dimensionDiffers_congr hspec he (hlimits e hlimit)
  · rw [dimensionDiffers, dimensionDiffers, hspec]
    cases c.spec.dimensions.get? "ulimits" with
    | some v => exact hulimits v
    | none => rfl

theorem dimensionsDiffer_congr (hspec : c'.spec.dimensions = c.spec.dimensions)
    (h : ∀ e ∈ Dimension.hostFields, c'.liveDimension e.2 = c.liveDimension e.2) :
    c'.dimensionsDiffer = c.dimensionsDiffer := by
  refine dimensionsDiffer_congr_ulimits hspec (fun e he => h e (mem_hostFields_iff.2 (.inl he))) fun v => ?_
  simp only [ulimitsDiffer, h _ (mem_hostFields_iff.2 (.inr rfl))]

end Shipshape.Comparison
