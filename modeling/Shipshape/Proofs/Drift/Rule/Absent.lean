import Shipshape.Proofs.Dimension
import Shipshape.Proofs.Drift.Rule.Dimensions
import Shipshape.Proofs.Json

/-!
# Limits that an engine leaves out

An engine may leave out a limit that is not set, or report `null` for it. Then the limit is looked up in `Resources`;
and if it is not there either, a limit that was zero makes no difference, unless it is declared and the comparison gets
to it: an engine that does not report a declared limit does not support it (`unset_field_left_out`).

Proof outline. Another document is seen through its live limits alone (`dimensionsDiffer_congr`), and one that leaves
out a field has all other limits (`LeavesOut.hostValue?`). So all limits before and behind the one that is left out are
found as they were (`anyDimensionDiffers_of_leavesOut`), and that one decides, if the comparison gets to it.
-/

namespace Shipshape

/-- A document with another section on the host's side. -/
def Inspection.withHostConfig (i : Inspection) (fields : Dict Json) : Inspection :=
  ⟨i.document.setField "HostConfig" (.ofDict fields)⟩

/-- The document without a field of `HostConfig`: the field is `null` there, or not there at all. -/
inductive Inspection.LeavesOut (field : String) (i : Inspection) : Inspection → Prop
  | null : LeavesOut field i (i.withHostConfig (i.hostConfig.insert field .null))
  | removed : LeavesOut field i (i.withHostConfig (i.hostConfig.erase field))

namespace Inspection

variable {i i' : Inspection} {field k : String}

@[simp]
theorem hostConfig_withHostConfig (i : Inspection) (fields : Dict Json) :
    (i.withHostConfig fields).hostConfig = fields := by
  rw [hostConfig, sectionOf, withHostConfig, Json.getD, Json.get?, Json.fields_setField, Dict.get?_insert_self]
  exact Json.fields_ofDict fields

theorem hostValue?_insert (i : Inspection) (field : String) (w : Json) (k : String) :
    (i.withHostConfig (i.hostConfig.insert field w)).hostValue? k =
      if k = field then (some w).filter (!·.isNull) else i.hostValue? k := by
  rw [hostValue?, hostValue?, hostConfig_withHostConfig, Dict.get?_insert]
  exact apply_ite (Option.filter _) ..

theorem LeavesOut.hostValue? (h : LeavesOut field i i') (k : String) :
    i'.hostValue? k = if k = field then none else i.hostValue? k := by
  cases h with
  | null => exact hostValue?_insert ..
  | removed =>
    rw [Inspection.hostValue?, Inspection.hostValue?, hostConfig_withHostConfig, Dict.get?_erase]
    exact apply_ite (Option.filter _) ..

end Inspection

namespace Comparison

variable {c : Comparison} {e : String × String} {v w : Json} {field : String}

/-- What `Resources` has for a field that is not in `HostConfig` itself. -/
def resource? (c : Comparison) (field : String) : Option Json :=
  ((c.live.hostValue? "Resources").bind (·.get? field)).filter (!·.isNull)

def seeing (c : Comparison) (live : Inspection) : Comparison := { c with live }

/-- The comparison with another value of a field of `HostConfig`. -/
def reporting (c : Comparison) (field : String) (w : Json) : Comparison :=
  c.seeing (c.live.withHostConfig (c.live.hostConfig.insert field w))

/-- The comparison gets to a limit that is declared: something is set, and all limits before it are as desired. -/
def Reaches (c : Comparison) (e : String × String) : Prop :=
  c.noDimensions = false ∧ (c.spec.dimensions.get? e.1).isSome ∧
    ∃ before after, Dimension.hostFields = before ++ e :: after ∧ ∀ b ∈ before, c.dimensionDiffers b.1 b.2 = .ok false

theorem liveDimension_seeing {live : Inspection} {x : Option Json} (hfield : field ≠ "Resources")
    (h : ∀ k, live.hostValue? k = if k = field then x else c.live.hostValue? k) (k : String) :
    (c.seeing live).liveDimension k =
      if k = field then (x.or (c.resource? field)).getD .null else c.liveDimension k := by
  have hresources : live.hostValue? "Resources" = c.live.hostValue? "Resources" := by
    rw [h, if_neg (Ne.symm hfield)]
  show ((live.hostValue? k).or (((live.hostValue? "Resources").bind (·.get? k)).filter _)).getD .null = _
  rw [hresources, h]
  split
  · next hk => rw [hk]; rfl
  · rfl

/-! ### A limit that is left out -/

section

variable {live : Inspection} (he : e ∈ Dimension.hostFields) (hleft : c.live.LeavesOut e.2 live)

include he

theorem ne_resources_of_mem : e.2 ≠ "Resources" := by
  have hall : ∀ e ∈ Dimension.hostFields, e.2 ≠ "Resources" := by decide
  exact hall e he

include hleft

theorem liveDimension_of_leavesOut (k : String) :
    (c.seeing live).liveDimension k = if k = e.2 then (c.resource? e.2).getD .null else c.liveDimension k :=
  liveDimension_seeing (ne_resources_of_mem he) hleft.hostValue? k

theorem liveDimension_field_of_leavesOut :
    (c.seeing live).liveDimension e.2 = (c.resource? e.2).getD .null := by
  rw [liveDimension_of_leavesOut he hleft, if_pos rfl]

theorem dimensionsDiffer_of_resource (hw : c.resource? e.2 = some w) :
    (c.seeing live).dimensionsDiffer = (c.reporting e.2 w).dimensionsDiffer := by
  have hnull : (some w).filter (!·.isNull) = some w := Option.filter_eq_some_iff.2
    ⟨rfl, (Option.filter_eq_some_iff.1 hw).2⟩
  refine dimensionsDiffer_congr rfl fun e' _ => ?_
  rw [liveDimension_of_leavesOut he hleft, reporting,
    liveDimension_seeing (ne_resources_of_mem he) (c.live.hostValue?_insert e.2 w), hnull, hw]
  rfl

theorem dimensionDiffers_of_leavesOut {b : String × String} (hb : b ∈ Dimension.hostFields) (hne : b ≠ e) :
    (c.seeing live).dimensionDiffers b.1 b.2 = c.dimensionDiffers b.1 b.2 := by
  refine dimensionDiffers_congr rfl hb ?_
  rw [liveDimension_of_leavesOut he hleft, if_neg fun hfield => hne ?_]
  exact List.inj_on_of_nodup_map (f := Prod.snd) (by decide) hb he hfield

theorem noDimensions_of_leavesOut (hnone : c.resource? e.2 = none) (hset : (c.liveDimension e.2).isUnset = true) :
    (c.seeing live).noDimensions = c.noDimensions := by
  refine noDimensions_congr rfl fun e' _ => ?_
  rw [liveDimension_of_leavesOut he hleft, hnone]
  split
  · next hfield => rw [hfield, hset]; rfl
  · rfl

/-- Looking at the limits in order, all that can change is what is found of the one that is left out. -/
theorem anyDimensionDiffers_of_leavesOut {before after : List (String × String)}
    (hsplit : Dimension.hostFields = before ++ e :: after) :
    (c.seeing live).anyDimensionDiffers Dimension.hostFields = c.anyDimensionDiffers before >>= fun differs =>
      if differs then .ok true else (c.seeing live).dimensionDiffers e.1 e.2 >>= fun differs =>
        if differs then .ok true else c.anyDimensionDiffers after := by
  have hnodup : (before ++ e :: after).Nodup := hsplit ▸ List.Nodup.of_map _ nodup_hostFields
  have hnot : e ∉ before ++ after := (List.nodup_cons.1 (List.nodup_middle.1 hnodup)).1
  have hsame : ∀ b ∈ before ++ after, (c.seeing live).dimensionDiffers b.1 b.2 = c.dimensionDiffers b.1 b.2 := by
    intro b hb
    refine dimensionDiffers_of_leavesOut he hleft ?_ (ne_of_mem_of_not_mem hb hnot)
    rw [hsplit, List.perm_middle.mem_iff]
    exact List.mem_cons_of_mem _ hb
  rw [List.forall_mem_append] at hsame
  rw [hsplit, anyDimensionDiffers_append, anyDimensionDiffers_congr hsame.1, anyDimensionDiffers,
    anyDimensionDiffers_congr hsame.2]
  rfl

theorem dimensionsDiffer_of_not_reaches (hnone : c.resource? e.2 = none)
    (hset : (c.liveDimension e.2).isUnset = true) (hreaches : ¬ c.Reaches e) :
    (c.seeing live).dimensionsDiffer = c.dimensionsDiffer := by
  rw [dimensionsDiffer, dimensionsDiffer, noDimensions_of_leavesOut he hleft hnone hset]
  by_cases hno : c.noDimensions = true
  · rw [if_pos hno, if_pos hno]
  · obtain ⟨before, after, hsplit⟩ := List.append_of_mem he
    rw [if_neg hno, if_neg hno, anyDimensionDiffers_of_leavesOut he hleft hsplit, hsplit, anyDimensionDiffers_append]
    cases hfirst : c.anyDimensionDiffers before with
    | error error => rfl
    | ok differs =>
      cases differs with
      | true => rfl
      | false =>
        have hdeclared : c.spec.dimensions.get? e.1 = none := by
          by_contra hsome
          exact hreaches ⟨Bool.eq_false_iff.2 hno, Option.isSome_iff_ne_none.2 hsome, before, after, hsplit,
            anyDimensionDiffers_eq_ok_false.1 hfirst⟩
        have hsame : (c.seeing live).dimensionDiffers e.1 e.2 = c.dimensionDiffers e.1 e.2 := by
          rw [dimensionDiffers_undeclared hdeclared, dimensionDiffers_undeclared (c := c.seeing live) hdeclared,
            liveDimension_field_of_leavesOut he hleft, hnone, hset]
          rfl
        rw [hsame]
        rfl

theorem dimensionsDiffer_of_reaches (hnone : c.resource? e.2 = none)
    (hset : (c.liveDimension e.2).isUnset = true) (hreaches : c.Reaches e) (hlimit : e ∈ Create.limitFields) :
    (c.seeing live).dimensionsDiffer = .error (.removedDimension e.1) := by
  obtain ⟨hno, hdeclared, before, after, hsplit, hbefore⟩ := hreaches
  obtain ⟨desired, hdesired⟩ := Option.isSome_iff_exists.1 hdeclared
  have hremoved : (c.seeing live).dimensionDiffers e.1 e.2 = .error (.removedDimension e.1) := by
    rw [dimensionDiffers_limit (c := c.seeing live) hlimit hdesired, liveDimension_field_of_leavesOut he hleft, hnone]
    exact Dimension.differ_null ..
  rw [dimensionsDiffer, noDimensions_of_leavesOut he hleft hnone hset, hno,
    anyDimensionDiffers_of_leavesOut he hleft hsplit, anyDimensionDiffers_eq_ok_false.2 hbefore, hremoved]
  rfl

end

theorem mem_hostFields_ulimits : (("ulimits", "Ulimits") : String × String) ∈ Dimension.hostFields :=
  mem_hostFields_iff.2 (.inr rfl)

theorem field_ne_ulimits_of_mem (he : e ∈ Create.limitFields) : e.2 ≠ "Ulimits" := by
  have hall : ∀ e ∈ Create.limitFields, e.2 ≠ "Ulimits" := by decide
  exact hall e he

theorem liveDimension_reporting_ulimits (c : Comparison) (items : List Json) (k : String) :
    (c.reporting "Ulimits" (.arr items)).liveDimension k = if k = "Ulimits" then .arr items else c.liveDimension k :=
  liveDimension_seeing (ne_resources_of_mem mem_hostFields_ulimits) (c.live.hostValue?_insert "Ulimits" (.arr items)) k

theorem dimensionsDiffer_of_no_ulimits {live : Inspection} (hleft : c.live.LeavesOut "Ulimits" live)
    (hnone : c.resource? "Ulimits" = none) :
    (c.seeing live).dimensionsDiffer = (c.reporting "Ulimits" (.arr [])).dimensionsDiffer := by
  have hleft_live : ∀ k, (c.seeing live).liveDimension k = if k = "Ulimits" then .null else c.liveDimension k := by
    intro k
    rw [liveDimension_of_leavesOut mem_hostFields_ulimits hleft, hnone]
    rfl
  refine dimensionsDiffer_congr_ulimits rfl (fun b hb => ?_) fun v => ?_
  · rw [hleft_live, liveDimension_reporting_ulimits, if_neg (field_ne_ulimits_of_mem hb),
      if_neg (field_ne_ulimits_of_mem hb)]
  · rw [ulimitsDiffer, ulimitsDiffer, hleft_live, liveDimension_reporting_ulimits, if_pos rfl, if_pos rfl]
    rfl

/-- A field that is left out reads as the value that `Resources` has for it. If there is none, leaving out a field that
is not set changes nothing, unless the comparison gets to that limit and it is declared: then ulimits read as an empty
list, and any other limit is refused, as one that the engine no longer supports. -/
theorem unset_field_left_out {live : Inspection} (he : e ∈ Dimension.hostFields) (hv : c.live.hostValue? e.2 = some v)
    (hset : v.isUnset = true) (hleft : c.live.LeavesOut e.2 live) :
    (∀ w, c.resource? e.2 = some w → (c.seeing live).dimensionsDiffer = (c.reporting e.2 w).dimensionsDiffer) ∧
    (c.resource? e.2 = none →
      (¬ c.Reaches e → (c.seeing live).dimensionsDiffer = c.dimensionsDiffer) ∧
      (c.Reaches e → (c.seeing live).dimensionsDiffer =
        if e.1 = "ulimits" then (c.reporting "Ulimits" (.arr [])).dimensionsDiffer
        else .error (.removedDimension e.1))) := by
  have hunset : (c.liveDimension e.2).isUnset = true := by
    rwa [liveDimension_of_hostValue hv]
  refine ⟨fun w hw => dimensionsDiffer_of_resource he hleft hw, fun hnone => ⟨?_, fun hreaches => ?_⟩⟩
  · exact dimensionsDiffer_of_not_reaches he hleft hnone hunset
  · rcases mem_hostFields_iff.1 he with hlimit | rfl
    · rw [if_neg (ne_ulimits_of_mem hlimit)]
      exact dimensionsDiffer_of_reaches he hleft hnone hunset hreaches hlimit
    · rw [if_pos rfl]
      exact dimensionsDiffer_of_no_ulimits hleft hnone

/-- Shares that are zero may be left out where nothing is said about them; memory may not where it is limited. -/
theorem unset_field_left_out_shares :
    let c : Comparison := ⟨{ dimensions := .ofList [("mem_limit", .int 1024)] },
      ⟨.ofFields [("HostConfig", .ofFields [("CpuShares", .int 0), ("Memory", .int 0)])]⟩, none, .docker, .path⟩
    (c.seeing (c.live.withHostConfig (c.live.hostConfig.erase "CpuShares"))).dimensionsDiffer = .ok true ∧
    (c.seeing (c.live.withHostConfig (c.live.hostConfig.insert "Memory" .null))).dimensionsDiffer =
      .error (.removedDimension "mem_limit") := by
  intro c
  have hdiffers : c.dimensionsDiffer = .ok true := by decide +kernel
  have hundeclared : ¬ c.Reaches ("cpu_shares", "CpuShares") := by
    rintro ⟨-, hdeclared, -⟩
    cases hdeclared
  have hreaches : c.Reaches ("mem_limit", "Memory") := ⟨by decide +kernel, rfl, [], _, rfl, nofun⟩
  have hzero : c.live.hostValue? "CpuShares" = some (.int 0) ∧ c.live.hostValue? "Memory" = some (.int 0) :=
    ⟨rfl, rfl⟩
  have hnone : c.resource? "CpuShares" = none ∧ c.resource? "Memory" = none := ⟨rfl, rfl⟩
  obtain ⟨-, hshares⟩ :=
    unset_field_left_out (c := c) (e := ("cpu_shares", "CpuShares")) (by decide) hzero.1 rfl .removed
  obtain ⟨-, hmemory⟩ := unset_field_left_out (c := c) (e := ("mem_limit", "Memory")) (by decide) hzero.2 rfl .null
  exact ⟨((hshares hnone.1).1 hundeclared).trans hdiffers, (hmemory hnone.2).2 hreaches⟩

/-- A declared limit that is zero differs, and is refused when it is left out; and a limit in `Resources` is seen when
the zero in `HostConfig` is left out. -/
theorem zero_is_not_absent :
    let beside (dimensions hostConfig : List (String × Json)) : Comparison :=
      ⟨{ dimensions := .ofList dimensions }, ⟨.ofFields [("HostConfig", .ofFields hostConfig)]⟩, none, .docker, .path⟩
    let declared := beside [("mem_limit", .str "1g")] [("Memory", .int 0)]
    let nested := beside [] [("CpuShares", .int 0), ("Resources", .ofFields [("CpuShares", .int 512)])]
    Dimension.validate declared.spec.dimensions = .ok () ∧ declared.dimensionsDiffer = .ok true ∧
    (∀ live, declared.live.LeavesOut "Memory" live →
      (declared.seeing live).dimensionsDiffer = .error (.removedDimension "mem_limit")) ∧
    nested.dimensionsDiffer = .ok false ∧
    ∀ live, nested.live.LeavesOut "CpuShares" live → (nested.seeing live).dimensionsDiffer = .ok true := by
  intro beside declared nested
  refine ⟨by decide +kernel, by decide +kernel, ?_, by decide +kernel, ?_⟩
  · rintro live (_ | _)
    · decide +kernel
    · decide +kernel
  · rintro live (_ | _)
    · decide +kernel
    · decide +kernel

end Comparison

end Shipshape
