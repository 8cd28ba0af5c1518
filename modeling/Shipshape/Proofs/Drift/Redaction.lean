import Shipshape.Proofs.Drift.Secrecy

/-!
# What redaction shows of a secret

Of a desired secret redaction shows whether it is the live one and nothing else. Of a live secret that is an object it
shows the fields whose names are not those of secrets, so a live secret can be replaced unnoticed exactly by values
that agree with it there (`redact_eq_iff_alike`). Values that are no objects hide each other.
-/

namespace Shipshape

namespace Secret

/-! ### Masked values -/

/-- Values that are masked as a whole. -/
def isCovered : Json → Bool
  | .null | .obj _ => false
  | _ => true

mutual

/-- Two values that look the same when they are masked: behind the names of secrets they may differ. -/
inductive Alike : Json → Json → Prop
  | null : Alike .null .null
  | covered {v w : Json} (hv : isCovered v = true) (hw : isCovered w = true) : Alike v w
  | fields {l l' : List (String × Json)} (h : AlikeFields l l') : Alike (.obj l) (.obj l')

/-- Two lists of fields that look the same when they are masked. -/
inductive AlikeFields : List (String × Json) → List (String × Json) → Prop
  | nil : AlikeFields [] []
  | secret {k : String} {v w : Json} {l l' : List (String × Json)} (hk : isSecretName k = true)
      (h : Alike v w) (hrest : AlikeFields l l') : AlikeFields ((k, v) :: l) ((k, w) :: l')
  | shown {k : String} {v : Json} {l l' : List (String × Json)} (hk : isSecretName k = false)
      (hrest : AlikeFields l l') : AlikeFields ((k, v) :: l) ((k, v) :: l')

end

theorem mask_of_isCovered {v : Json} (h : isCovered v = true) : mask v = hidden := by
  cases v with
  | null => cases h
  | obj fields => cases h
  | _ => rfl

mutual

theorem mask_eq_of_alike {v w : Json} : Alike v w → mask v = mask w
  | .null => rfl
  | .covered hv hw => by rw [mask_of_isCovered hv, mask_of_isCovered hw]
  | .fields h => by rw [mask, mask, maskFields_eq_of_alike h]

theorem maskFields_eq_of_alike {l l' : List (String × Json)} : AlikeFields l l' → maskFields l = maskFields l'
  | .nil => rfl
  | .secret hk h hrest => by
    rw [maskFields, maskFields, if_pos hk, if_pos hk, mask_eq_of_alike h, maskFields_eq_of_alike hrest]
  | .shown hk hrest => by rw [maskFields, maskFields, maskFields_eq_of_alike hrest]

end

theorem isCovered_of_mask_eq_hidden {v : Json} (h : mask v = hidden) : isCovered v = true := by
  cases v with
  | null => simp [mask, hidden] at h
  | obj fields => simp [mask, hidden] at h
  | _ => rfl

mutual

theorem alike_of_mask_eq : (v : Json) → {w : Json} → mask v = mask w → Alike v w
  | .null, w, h => by
    cases w with
    | null => exact .null
    | obj fields => simp [mask] at h
    | _ => simp [mask, hidden] at h
  | .obj l, w, h => by
    cases w with
    | obj l' => exact .fields (alikeFields_of_maskFields_eq l (Json.obj.inj h))
    | null => simp [mask] at h
    | _ => simp [mask, hidden] at h
  | .bool _, _, h | .int _, _, h | .float _, _, h | .str _, _, h | .arr _, _, h =>
    .covered rfl (isCovered_of_mask_eq_hidden h.symm)

theorem alikeFields_of_maskFields_eq : (l : List (String × Json)) → {l' : List (String × Json)} →
    maskFields l = maskFields l' → AlikeFields l l'
  | [], l', h => by
    cases l' with
    | nil => exact .nil
    | cons e l' => simp [maskFields] at h
  | (k, v) :: l, l', h => by
    cases l' with
    | nil => simp [maskFields] at h
    | cons e l' =>
      obtain ⟨k', w⟩ := e
      rw [maskFields, maskFields, List.cons.injEq, Prod.mk.injEq] at h
      obtain ⟨⟨rfl, hvalue⟩, hrest⟩ := h
      have hrest := alikeFields_of_maskFields_eq l hrest
      by_cases hk : isSecretName k = true
      · rw [if_pos hk, if_pos hk] at hvalue
        exact .secret hk (alike_of_mask_eq v hvalue) hrest
      · rw [if_neg hk, if_neg hk] at hvalue
        rw [hvalue]
        exact .shown (Bool.eq_false_iff.2 hk) hrest

end

theorem mask_eq_iff_alike {v w : Json} : mask v = mask w ↔ Alike v w :=
  ⟨alike_of_mask_eq v, mask_eq_of_alike⟩

/-! ### A value is replaced -/

/-- Two objects that differ in the value under one name at most, which is `null` in both of them or in none. -/
structure ReplacedAt (k : String) (d d' : Dict Json) : Prop where
  keys : d.keys = d'.keys
  others : ∀ name, name ≠ k → d.get? name = d'.get? name
  null : (d.get? k).map Json.isNull = (d'.get? k).map Json.isNull

/-- Whether both sides have the same value under a name. -/
def sidesAgree (live desired : Dict Json) (k : String) : Bool :=
  match live.get? k, desired.get? k with
  | some v, some w => v.same w
  | _, _ => false

section replaced

variable {k : String} {live live' desired desired' : Dict Json}

theorem replacedAt_insert {v w : Json} (h : v.isNull = w.isNull) (d : Dict Json) :
    ReplacedAt k (d.insert k v) (d.insert k w) := by
  refine ⟨?_, fun name hname => ?_, ?_⟩
  · rw [Dict.keys_insert, Dict.keys_insert]
  · rw [Dict.get?_insert_of_ne _ _ hname, Dict.get?_insert_of_ne _ _ hname]
  · rw [Dict.get?_insert_self, Dict.get?_insert_self, Option.map_some, Option.map_some, h]

theorem ReplacedAt.mapEntries_eq_iff {β : Type} {f g : String → Json → β} (h : ReplacedAt k live live')
    (hothers : ∀ name v, name ≠ k → f name v = g name v) :
    live.mapEntries f = live'.mapEntries g ↔ (live.get? k).map (f k) = (live'.get? k).map (g k) := by
  constructor
  · intro heq
    have hget := congrArg (Dict.get? · k) heq
    simpa only [Dict.get?_mapEntries] using hget
  · intro heq
    ext name : 1
    rw [Dict.get?_mapEntries, Dict.get?_mapEntries]
    by_cases hname : name = k
    · rw [hname, heq]
    · rw [h.others name hname, funext fun v => hothers name v hname]

theorem ReplacedAt.maskEntries_eq_iff (h : ReplacedAt k live live') (hk : isSecretName k = true) :
    maskEntries live = maskEntries live' ↔ ∀ v w, live.get? k = some v → live'.get? k = some w → Alike v w := by
  rw [maskEntries, maskEntries, h.mapEntries_eq_iff fun _ _ _ => rfl]
  have hnull := h.null
  simp only [hk, if_true]
  cases hv : live.get? k with
  | none =>
    cases hw : live'.get? k with
    | none => simp
    | some w => simp [hv, hw] at hnull
  | some v =>
    cases hw : live'.get? k with
    | none => simp [hv, hw] at hnull
    | some w => simp [mask_eq_iff_alike]

theorem eq_null_of_isNull {v : Json} (h : v.isNull = true) : v = .null := by
  cases v with
  | null => rfl
  | _ => cases h

theorem ReplacedAt.hideDesired_eq (hlive : ReplacedAt k live live') (hdesired : ReplacedAt k desired desired')
    (hk : isSecretName k = true) (hsides : sidesAgree live desired k = sidesAgree live' desired' k) :
    desired.mapEntries (hideDesired live) = desired'.mapEntries (hideDesired live') := by
  rw [hdesired.mapEntries_eq_iff fun name v hname => by simp only [hideDesired, hlive.others name hname]]
  have hnull := hdesired.null
  have hnull' := hlive.null
  unfold sidesAgree at hsides
  cases hw : desired.get? k with
  | none =>
    cases hw' : desired'.get? k with
    | none => rfl
    | some w' => simp [hw, hw'] at hnull
  | some w =>
    cases hw' : desired'.get? k with
    | none => simp [hw, hw'] at hnull
    | some w' =>
      simp only [hw, hw', Option.map_some, Option.some.injEq] at hnull hsides ⊢
      -- A value that is null is shown as it is, and stays null; of others only the mark is seen.
      by_cases hopen : w.isNull = true
      · rw [eq_null_of_isNull hopen, eq_null_of_isNull (hnull.symm.trans hopen)]
        simp [hideDesired, Json.isNull]
      · have hopen' : ¬ w'.isNull = true := fun h => hopen (hnull.trans h)
        simp only [hideDesired, hk, Bool.not_true, Bool.false_or, if_neg hopen, if_neg hopen']
        cases hv : live.get? k with
        | none =>
          cases hv' : live'.get? k with
          | none => rfl
          | some v' => simp [hv, hv'] at hnull'
        | some v =>
          cases hv' : live'.get? k with
          | none => simp [hv, hv'] at hnull'
          | some v' =>
            simp only [hv, hv', Option.map_some, Option.some.injEq] at hnull' hsides
            simp only [desiredMark, hnull', hsides]

/-- Replacing the values of a secret goes unnoticed exactly if the live ones look alike, whatever the desired ones
are, as long as they are the live ones before and after or neither before nor after. -/
theorem redact_eq_iff_alike (hk : isSecretName k = true) (hlive : ReplacedAt k live live')
    (hdesired : ReplacedAt k desired desired') (hsides : sidesAgree live desired k = sidesAgree live' desired' k) :
    redact .environment ⟨.ofDict live, .ofDict desired⟩ = redact .environment ⟨.ofDict live', .ofDict desired'⟩ ↔
      ∀ v w, live.get? k = some v → live'.get? k = some w → Alike v w := by
  rw [redact_ofDict, redact_ofDict, hlive.hideDesired_eq hdesired hk hsides, Snapshot.mk.injEq,
    Json.ofDict_injective.eq_iff, ← hlive.maskEntries_eq_iff hk]
  exact and_iff_left rfl

end replaced

/-- Of an object with a password behind the name of a secret, the password is replaced, and the desired value is. -/
theorem redact_eq_iff_alike_database :
    let live (password : String) : Dict Json := (Dict.ofList [("MODE", .str "rw")]).insert "DB_PASSWORD"
      (.ofFields [("host", .str "db"), ("password", .str password)])
    let desired (value : Json) : Dict Json := Dict.insert "DB_PASSWORD" value ∅
    sidesAgree (live "old") (desired (.str "new")) "DB_PASSWORD" = false ∧
      sidesAgree (live "older") (desired (.int 7)) "DB_PASSWORD" = false ∧
      redact .environment ⟨.ofDict (live "old"), .ofDict (desired (.str "new"))⟩ =
        redact .environment ⟨.ofDict (live "older"), .ofDict (desired (.int 7))⟩ := by
  intro live desired
  have hlive : ReplacedAt "DB_PASSWORD" (live "old") (live "older") := replacedAt_insert (by rfl) _
  have hdesired : ReplacedAt "DB_PASSWORD" (desired (.str "new")) (desired (.int 7)) := replacedAt_insert (by rfl) ∅
  have halike : Alike (.ofFields [("host", .str "db"), ("password", .str "old")])
      (.ofFields [("host", .str "db"), ("password", .str "older")]) :=
    .fields (.shown (by decide) (.secret (by decide) (.covered rfl rfl) .nil))
  refine ⟨by decide +kernel, by decide +kernel,
    (redact_eq_iff_alike (by decide) hlive hdesired (by decide +kernel)).2 fun v w hv hw => ?_⟩
  rw [Dict.get?_insert_self] at hv hw
  rw [← Option.some.inj hv, ← Option.some.inj hw]
  exact halike

/-- The fields of an object behind the name of a secret are shown. -/
theorem fields_behind_secret_shown :
    let live (value : Json) : Dict Json := Dict.insert "DB_PASSWORD" value ∅
    let fields : Json := .ofFields [("port", .int 5432)]
    isSecretName "DB_PASSWORD" = true ∧ ReplacedAt "DB_PASSWORD" (live fields) (live (.str "x")) ∧
      sidesAgree (live fields) ∅ "DB_PASSWORD" = sidesAgree (live (.str "x")) ∅ "DB_PASSWORD" ∧
      (redact .environment ⟨.ofDict (live fields), .ofDict ∅⟩).current = .ofDict (live fields) ∧
      redact .environment ⟨.ofDict (live fields), .ofDict ∅⟩ ≠
        redact .environment ⟨.ofDict (live (.str "x")), .ofDict ∅⟩ := by
  intro live fields
  have hsecret : isSecretName "DB_PASSWORD" = true := by decide
  refine ⟨hsecret, replacedAt_insert (by rfl) ∅, by decide +kernel, rfl, fun h => ?_⟩
  have hshown := congrArg (fun s : Snapshot => s.current.get? "DB_PASSWORD") h
  simp only [redact_ofDict, Json.get?_ofDict, maskEntries, Dict.get?_mapEntries, live, Dict.get?_insert_self,
    Option.map_some, if_pos hsecret] at hshown
  cases hshown

end Secret

end Shipshape
