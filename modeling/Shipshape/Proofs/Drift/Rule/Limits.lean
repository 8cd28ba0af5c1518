import Shipshape.Proofs.Dimension
import Shipshape.Proofs.Drift.Rule.Dimensions
import Shipshape.Proofs.Drift.Rule.Privilege
import Shipshape.Proofs.Drift.Rule.Ulimits

/-!
# Resource limits of a new container

Every limit that was declared is requested by its canonical text, as a number if that is one, and nothing else
is limited. A limit reads back unless it was written as a number in some other way than numbers are written; and
ulimits read back unless Docker is given a name that has a canonical form of its own.

Proof outline. The comparison is `false` if each of the limits is (`anyDimensionDiffers_eq_ok_false`), also
where nothing is looked at because nothing is set (`keepsLimits_of_allUnset`).
-/

namespace Shipshape

/-- Numbers among the limits are written like numbers: no plus sign, no zeros in front. -/
def Spec.KeepsLimits (s : Spec) : Prop :=
  ∀ e ∈ Create.limitFields, ∀ v t n, s.dimensions.get? e.1 = some v →
    Dimension.canonicalText e.1 v = .ok t → Decimal.readSigned? t.toList = some n → Decimal.intText n = t

/-- The names of ulimits that Docker is given are canonical still when they come back. -/
def Spec.KeepsUlimits (s : Spec) : Prop :=
  s.engine = .docker → ∀ v us, s.dimensions.get? "ulimits" = some v → Ulimits.ofDeclared v = .ok us →
    ∀ name ∈ us.keys, Ulimits.canonicalName name = name

theorem Spec.keepsUlimits_iff {s : Spec} {v : Json} {us : Ulimits} (hv : s.dimensions.get? "ulimits" = some v)
    (hus : Ulimits.ofDeclared v = .ok us) :
    s.KeepsUlimits ↔ (s.engine = .docker → ∀ name ∈ us.keys, Ulimits.canonicalName name = name) := by
  constructor
  · intro hsame hengine
    exact hsame hengine v us hv hus
  · rintro hsame hengine v' us' hv' hus'
    obtain rfl := Option.some.inj (hv.symm.trans hv')
    obtain rfl := Except.ok.inj (hus.symm.trans hus')
    exact hsame hengine

namespace Comparison

variable {s : Spec} {m : VolumeMatch} {r : ContainerRequest} {image : Option Image}

theorem canonicalText_resourceValue {key t : String} {v : Json} (ht : Dimension.canonicalText key v = .ok t) :
    Dimension.canonicalText key (Create.resourceValue t) =
      .ok (((Decimal.readSigned? t.toList).map Decimal.intText).getD t) := by
  rw [Create.resourceValue]
  cases Decimal.readSigned? t.toList with
  | none => exact Dimension.canonicalText_str ht
  | some n => rfl

theorem isNull_resourceValue (t : String) : (Create.resourceValue t).isNull = false := by
  rw [Create.resourceValue]
  split
  · rfl
  · rfl

/-- A limit that is reported as it was requested is the desired one, unless its canonical text is a number that is
written in another way than numbers are. -/
theorem dimensionDiffers_of_resourceValue {c : Comparison} {e : String × String} {v : Json} {t : String}
    (he : e ∈ Create.limitFields) (hv : c.spec.dimensions.get? e.1 = some v)
    (ht : Dimension.canonicalText e.1 v = .ok t) (hlive : c.liveDimension e.2 = Create.resourceValue t) :
    c.dimensionDiffers e.1 e.2 = .ok false ↔
      ∀ n, Decimal.readSigned? t.toList = some n → Decimal.intText n = t := by
  have hdiffer := Dimension.differ_of_canonicalText ht (canonicalText_resourceValue ht)
  rw [dimensionDiffers_limit he hv, hlive, hdiffer, Except.ok.injEq, bne_eq_false_iff_eq]
  cases Decimal.readSigned? t.toList with
  | none => exact iff_of_true rfl nofun
  | some n =>
    rw [Option.map_some, Option.getD_some]
    constructor
    · rintro hsame _ ⟨⟩
      exact hsame.symm
    · intro hsame
      exact (hsame n rfl).symm

section

variable (h : Create.request s = .ok r)

include h

/-! ### Limits of one number -/

theorem liveDimension_ofRequest {e : String × String} (he : e ∈ Create.limitFields) :
    (ofRequest s m r image).liveDimension e.2 = ((r.resources.get? e.2).filter (!·.isNull)).getD .null := by
  have hr := Create.request_requested h
  have hfield : (ofRequest s m r image).live.hostValue? e.2 = (r.resources.get? e.2).filter (!·.isNull) := by
    show ((Memory.view r image).hostConfig.get? e.2).filter _ = _
    rw [Memory.view_hostConfig, Memory.get?_hostSection_of_limit (List.mem_map_of_mem he)]
  have hnested : (ofRequest s m r image).live.hostValue? "Resources" = none :=
    Memory.view_hostValue hr.resources (by decide)
  rw [liveDimension, hfield, hnested, Option.bind_none, Option.filter_none, Option.or_none]

theorem dimensionDiffers_ofRequest_of_none {e : String × String} (he : e ∈ Create.limitFields)
    (hnone : s.dimensions.get? e.1 = none) :
    (ofRequest s m r image).dimensionDiffers e.1 e.2 = .ok false := by
  have hr := Create.request_requested h
  have hlive : (ofRequest s m r image).liveDimension e.2 = .null := by
    rw [liveDimension_ofRequest h he, Create.get?_resources_of_none hr.resources he hnone]
    rfl
  have hspec : (ofRequest s m r image).spec.dimensions.get? e.1 = none := hnone
  rw [dimensionDiffers_undeclared hspec, hlive, Json.isUnset, Bool.not_true, Bool.and_false]

theorem dimensionDiffers_ofRequest_of_some {e : String × String} (he : e ∈ Create.limitFields) {v : Json}
    (hv : s.dimensions.get? e.1 = some v) :
    (ofRequest s m r image).dimensionDiffers e.1 e.2 = .ok false ↔
      ∀ t n, Dimension.canonicalText e.1 v = .ok t → Decimal.readSigned? t.toList = some n →
        Decimal.intText n = t := by
  have hr := Create.request_requested h
  obtain ⟨t, ht, hresource⟩ := Create.get?_resources_of_some hr.resources he hv
  have hlive : (ofRequest s m r image).liveDimension e.2 = Create.resourceValue t := by
    rw [liveDimension_ofRequest h he, hresource, Option.filter_some, isNull_resourceValue]
    rfl
  rw [dimensionDiffers_of_resourceValue he hv ht hlive]
  constructor
  · intro hsame t' n ht'
    obtain rfl := Except.ok.inj (ht.symm.trans ht')
    exact hsame n
  · intro hsame n
    exact hsame t n ht

theorem limits_ofRequest :
    (∀ e ∈ Create.limitFields, (ofRequest s m r image).dimensionDiffers e.1 e.2 = .ok false) ↔
    s.KeepsLimits := by
  refine forall₂_congr fun e he => ?_
  cases hv : s.dimensions.get? e.1 with
  | none => simp [dimensionDiffers_ofRequest_of_none h he hv]
  | some v =>
    rw [dimensionDiffers_ofRequest_of_some h he hv]
    constructor
    · rintro hsame v' t n ⟨⟩ ht hn
      exact hsame t n ht hn
    · intro hsame t n ht hn
      exact hsame v t n rfl ht hn

/-! ### Ulimits -/

theorem ulimits_ofRequest :
    (ofRequest s m r image).dimensionDiffers "ulimits" "Ulimits" = .ok false ↔ s.KeepsUlimits := by
  cases hv : s.dimensions.get? "ulimits" with
  | none =>
    rw [dimensionDiffers, ofRequest_spec]
    simp [Spec.KeepsUlimits, hv]
  | some v =>
    obtain ⟨us, hus, hrecords⟩ := Create.exists_ulimitRecords h hv
    have hlive : (ofRequest s m r image).liveDimension "Ulimits" =
        .arr ((Create.ulimitRecords s.engine us).map UlimitRecord.toJson) := by
      rw [← hrecords]
      exact liveDimension_of_hostValue (Memory.view_hostValue (Create.request_requested h).resources (by decide))
    rw [dimensionDiffers_ulimits (c := ofRequest s m r image) hv, ulimitsDiffer_of_reported hus hlive,
      Spec.keepsUlimits_iff hv hus]

end

/-! ### Where nothing is set -/

theorem text_of_isZero {x : Decimal.Binary64} (hx : x.isZero = true) :
    x.text = if x.negative then "-0.0" else "0.0" := by
  rw [Decimal.Binary64.text]
  simp only [hx, if_true]
  split
  · rfl
  · rfl

theorem intText_of_isUnset {key t : String} {v : Json} {n : Int} (hv : v.isUnset = true)
    (ht : Dimension.canonicalText key v = .ok t) (hn : Decimal.readSigned? t.toList = some n) :
    Decimal.intText n = t := by
  cases v with
  | null => cases ht
  | bool b => cases ht
  | arr items => cases ht
  | obj fields => cases ht
  | int k =>
    have hk : k = 0 := eq_of_beq hv
    subst hk
    injection ht with ht
    subst ht
    have hzero : Decimal.readSigned? (Decimal.intText 0).toList = some 0 := by decide +kernel
    rw [hzero, Option.some.injEq] at hn
    rw [← hn]
  | float x =>
    injection ht with ht
    rw [text_of_isZero hv] at ht
    subst ht
    have hnegative : Decimal.readSigned? "-0.0".toList = none := by decide +kernel
    have hpositive : Decimal.readSigned? "0.0".toList = none := by decide +kernel
    split at hn
    · rw [hnegative] at hn
      cases hn
    · rw [hpositive] at hn
      cases hn
  | str text =>
    have htext : text = "" := eq_of_beq hv
    subst htext
    rw [Dimension.canonicalText_empty] at ht
    injection ht with ht
    subst ht
    cases hn

theorem declaresNone_of_isUnset {v : Json} {us : Ulimits} (hv : v.isUnset = true)
    (h : Ulimits.ofDeclared v = .ok us) : v = .null ∨ v = .obj [] := by
  cases v with
  | null => exact .inl rfl
  | obj limits => exact .inr (congrArg Json.obj (List.isEmpty_iff.1 hv))
  | bool b => cases h
  | int n => cases h
  | float x => cases h
  | str t => cases h
  | arr items => cases h

theorem ofDeclared_of_isUnset {v : Json} {us : Ulimits} (hv : v.isUnset = true)
    (h : Ulimits.ofDeclared v = .ok us) : us = ∅ := by
  rcases declaresNone_of_isUnset hv h with rfl | rfl
  · exact (Except.ok.inj h).symm
  · exact (Except.ok.inj h).symm

theorem keepsLimits_of_allUnset (hunset : Dimension.allUnset s.dimensions.values = true) :
    s.KeepsLimits ∧ s.KeepsUlimits := by
  have hvalue : ∀ {k v}, s.dimensions.get? k = some v → v.isUnset = true := by
    intro k v hv
    exact List.all_eq_true.1 hunset v (List.mem_map_of_mem (f := Prod.snd) (Dict.get?_eq_some_iff.1 hv))
  refine ⟨fun e _ v t n hv ht hn => intText_of_isUnset (hvalue hv) ht hn, ?_⟩
  rintro - v us hv hus name hname
  rw [ofDeclared_of_isUnset (hvalue hv) hus] at hname
  cases hname

section

variable (h : Create.request s = .ok r)

include h

theorem dimensionsDiffer_ofRequest :
    (ofRequest s m r image).dimensionsDiffer = .ok false ↔ s.KeepsLimits ∧ s.KeepsUlimits := by
  have hany : (ofRequest s m r image).anyDimensionDiffers Dimension.hostFields = .ok false ↔
      s.KeepsLimits ∧ s.KeepsUlimits := by
    rw [anyDimensionDiffers_eq_ok_false, hostFields_eq, List.forall_mem_append, limits_ofRequest h,
      List.forall_mem_singleton, ulimits_ofRequest h]
  rw [dimensionsDiffer]
  split
  · next hnone =>
    rw [noDimensions, Bool.and_eq_true] at hnone
    exact ⟨fun _ => keepsLimits_of_allUnset hnone.1, fun _ => rfl⟩
  · exact hany

end

end Comparison

end Shipshape
