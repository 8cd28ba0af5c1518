import Mathlib.Data.List.ReduceOption
import Shipshape.Create.Basic
import Shipshape.Proofs.Dict
import Shipshape.Proofs.Result

/-!
# Limits in a request

Which limits a request has: for each one that is declared, the value of its canonical text, and no others.
-/

namespace Shipshape.Create

/-- The limits that engines take as fields of their own. -/
def limitFields : List (String × String) := Dimension.hostFields.filter (·.1 != "ulimits")

theorem nodup_limitFields : (limitFields.map Prod.snd).Nodup := by decide

variable {s : Spec} {res : Dict Json}

theorem resource?_eq_ok {key field : String} {x : Option (String × Json)}
    (h : resource? s key field = .ok x) :
    (s.dimensions.get? key = none ∧ x = none) ∨
      ∃ v t, s.dimensions.get? key = some v ∧ Dimension.canonicalText key v = .ok t ∧
        x = some (field, resourceValue t) := by
  unfold resource? at h
  split at h
  · next hv =>
    injection h with h
    exact .inl ⟨hv, h.symm⟩
  · next v hv =>
    obtain ⟨t, ht, h⟩ := Result.bind_eq_ok.1 h
    injection h with h
    exact .inr ⟨v, t, hv, ht, h.symm⟩

theorem keys_reduceOption_sublist {l : List (String × String)} {xs : List (Option (String × Json))}
    (h : List.Forall₂ (fun e x => resource? s e.1 e.2 = .ok x) l xs) :
    (xs.reduceOption.map Prod.fst).Sublist (l.map Prod.snd) := by
  induction h with
  | nil => exact .slnil
  | cons hx _ ih =>
    rcases resource?_eq_ok hx with ⟨-, rfl⟩ | ⟨v, t, -, -, rfl⟩
    · rw [List.reduceOption_cons_of_none]
      exact ih.cons _
    · rw [List.reduceOption_cons_of_some]
      exact ih.cons_cons _

theorem resources_eq_ok (h : resources s = .ok res) : ∃ xs,
    limitFields.mapM (fun e => resource? s e.1 e.2) = .ok xs ∧
      (xs.reduceOption.map Prod.fst).Sublist (limitFields.map Prod.snd) ∧
      ∀ k, res.get? k = xs.reduceOption.lookup k := by
  obtain ⟨xs, hxs, h⟩ := Result.bind_eq_ok.1 h
  injection h with h
  have hsub := keys_reduceOption_sublist (Result.mapM_eq_ok.1 hxs)
  refine ⟨xs, hxs, hsub, fun k => ?_⟩
  rw [← h, Dict.get?_ofList_of_nodup (hsub.nodup nodup_limitFields)]

theorem mem_limitFields_of_resources (h : resources s = .ok res) {k : String} (hk : k ∈ res.keys) :
    k ∈ limitFields.map Prod.snd := by
  obtain ⟨xs, -, hsub, hget⟩ := resources_eq_ok h
  by_contra hnot
  have hnone : res.get? k = none := by
    rw [hget]
    exact Dict.lookup_eq_none_iff.2 fun hmem => hnot (hsub.subset hmem)
  exact Dict.get?_eq_none_iff.1 hnone hk

theorem get?_resources_of_none (h : resources s = .ok res) {key field : String}
    (hmem : (key, field) ∈ limitFields) (hnone : s.dimensions.get? key = none) :
    res.get? field = none := by
  obtain ⟨xs, hxs, -, hget⟩ := resources_eq_ok h
  rw [hget, Dict.lookup_eq_none_iff, List.mem_map]
  rintro ⟨⟨f, w⟩, hfw, rfl⟩
  obtain ⟨⟨k, f⟩, hkf, hx⟩ := Result.exists_of_mem_mapM hxs (List.reduceOption_mem_iff.1 hfw)
  rcases resource?_eq_ok hx with ⟨-, ⟨⟩⟩ | ⟨v, t, hv, -, heq⟩
  injection heq with heq
  injection heq with hfield
  have hsame : (k, f) = (key, _) := List.inj_on_of_nodup_map nodup_limitFields hkf hmem hfield.symm
  injection hsame with hkey
  rw [hkey, hnone] at hv
  cases hv

theorem get?_resources_of_some (h : resources s = .ok res) {key field : String}
    (hmem : (key, field) ∈ limitFields) {v : Json} (hv : s.dimensions.get? key = some v) :
    ∃ t, Dimension.canonicalText key v = .ok t ∧ res.get? field = some (resourceValue t) := by
  obtain ⟨xs, hxs, hsub, hget⟩ := resources_eq_ok h
  obtain ⟨x, hx, hresource⟩ := Result.exists_of_mapM hxs hmem
  rcases resource?_eq_ok hresource with ⟨hnone, -⟩ | ⟨v', t, hv', ht, rfl⟩
  · rw [hv] at hnone
    cases hnone
  · rw [hv] at hv'
    injection hv' with hv'
    subst hv'
    refine ⟨t, ht, ?_⟩
    rw [hget]
    exact Dict.lookup_of_mem (hsub.nodup nodup_limitFields) (List.reduceOption_mem_iff.2 hx)

end Shipshape.Create
