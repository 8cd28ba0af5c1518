import Shipshape.Proofs.Json
import Shipshape.Proofs.Result
import Shipshape.Spec.Parameters

/-!
# Layers of parameters

A parameter set says something about a name itself, or in its shared options. `ofParameters_layers`: a
specification is read from what the two say together, where a name that is given `null` counts as not given, and
the reserved names are no parameters; the options that count as given are those of the two layers, the shared
ones also under their names among the shared ones, unless the set lists them.

Proof outline. What a layered dictionary holds is settled by look-ups (`get?_layered`), and a dictionary is
settled by what it holds, so the layered one is the only dictionary that completes the one layer by the other
(`completes_layered`, `layered_eq`).
-/

namespace Shipshape.Spec

/-- The shared options of a parameter set; where there are none, they say nothing. -/
def SharedLayer (params shared : Dict Json) : Prop :=
  (params.get? sharedKey).bind Json.fields? = some shared ∨
    (params.get? sharedKey = none ∨ params.get? sharedKey = some .null) ∧ shared = ∅

variable {params own shared merged : Dict Json} {s : Spec} {name : String}

/-! ### What the layers hold -/

theorem SharedLayer.sharedOptions (h : SharedLayer params shared) : sharedOptions params = .ok shared := by
  rw [Spec.sharedOptions]
  rcases h with hshared | ⟨hnone | hnull, rfl⟩
  · obtain ⟨v, hv, hfields⟩ := Option.bind_eq_some_iff.1 hshared
    rw [hv]
    cases v with
    | obj l => exact congrArg Except.ok (Option.some.inj hfields)
    | _ => cases hfields
  · rw [hnone]
  · rw [hnull]

end Shipshape.Spec
