import Mathlib.Algebra.Order.Ring.Nat
import Shipshape.Dimension
import Shipshape.Proofs.Decimal
import Shipshape.Proofs.Result

/-!
# The canonical text of a limit

A canonical text is its own canonical text (`canonicalText_str`): it is empty, or it ends with a digit and
has no blanks at its ends. Numbers are written that way, floating point numbers too. A number with a unit becomes the
exact number of bytes, which has to fit into 64 bits (`canonicalText_unit_eq_ok_iff`).
-/

namespace Shipshape

namespace Dimension

open Decimal (Numeric)

variable {key : String}

theorem canonicalText_empty : canonicalText key (.str "") = .ok "" := rfl

theorem canonicalText_of_last {cs : List Char} {d : Char} (htrim : Text.trimChars cs = cs)
    (hlast : cs.getLast? = some d) (hd : d.isDigit = true) :
    canonicalText key (.str (.ofList cs)) = .ok (.ofList cs) := by
  have hraw : Text.trimChars (String.ofList cs).toList = cs := by
    rw [String.toList_ofList, htrim]
  simp only [canonicalText, hraw, hlast, hd, if_true]

theorem canonicalText_of_numeric {t : String} (h : Numeric t.toList) : canonicalText key (.str t) = .ok t := by
  obtain ⟨d, hlast, hd⟩ := h.last
  have ht : canonicalText key (.str (.ofList t.toList)) = .ok (.ofList t.toList) :=
    canonicalText_of_last h.trimChars hlast hd
  rwa [String.ofList_toList] at ht

theorem bytesOf_eq_ok_iff {raw number : List Char} {unit : Char} {t : String} :
    bytesOf key raw number unit = .ok t ↔ ∃ bytes n, unitBytes? unit = some bytes ∧
      Decimal.readUnsigned? (Text.trimChars number) = some n ∧ n * bytes < Decimal.unsignedLimit ∧
        t = Decimal.natText (n * bytes) := by
  unfold bytesOf
  constructor
  · intro h
    split at h
    · cases h
    · next bytes hunit =>
      split at h
      · cases h
      · next n hn =>
        split at h
        · next hfits => exact ⟨bytes, n, hunit, hn, hfits, (Except.ok.inj h).symm⟩
        · cases h
  · rintro ⟨bytes, n, hunit, hn, hfits, rfl⟩
    simp only [hunit, hn, hfits, if_true]

theorem numeric_of_bytesOf {raw number : List Char} {unit : Char} {t : String}
    (h : bytesOf key raw number unit = .ok t) : Numeric t.toList := by
  obtain ⟨bytes, n, -, -, -, rfl⟩ := bytesOf_eq_ok_iff.1 h
  exact Decimal.numeric_natText _

/-- A canonical text is its own canonical text. -/
theorem canonicalText_str {v : Json} {t : String} (h : canonicalText key v = .ok t) :
    canonicalText key (.str t) = .ok t := by
  cases v with
  | null => cases h
  | bool b => cases h
  | arr items => cases h
  | obj fields => cases h
  | int n =>
    injection h with h
    rw [← h]
    exact canonicalText_of_numeric (Decimal.numeric_intText n)
  | float x =>
    injection h with h
    rw [← h]
    exact canonicalText_of_numeric (Decimal.Binary64.numeric_text x)
  | str text =>
    simp only [canonicalText] at h
    split at h
    · injection h with h
      rw [← h]
      exact canonicalText_empty
    · next last hlast =>
      split at h
      · next hd =>
        injection h with h
        rw [← h]
        exact canonicalText_of_last (Text.trimChars_trimChars _) hlast hd
      · exact canonicalText_of_numeric (numeric_of_bytesOf h)

/-! ### Units -/

variable {s : String} {number : List Char} {unit : Char} {bytes p : Nat}

/-- The units in either case, each with the power of 1024 that it stands for. -/
def unitPowers : List (Char × Nat) :=
  [('b', 0), ('B', 0), ('k', 1), ('K', 1), ('m', 2), ('M', 2), ('g', 3), ('G', 3)]

theorem unitBytes?_of_mem (h : (unit, p) ∈ unitPowers) : unitBytes? unit.toLower = some (1024 ^ p) := by
  have hall : ∀ e ∈ unitPowers, unitBytes? e.1.toLower = some (1024 ^ e.2) := by decide
  exact hall _ h

theorem letter_of_unitBytes? {unit : Char} {bytes : Nat} (h : unitBytes? unit = some bytes) :
    97 ≤ unit.toNat ∧ unit.toNat ≤ 122 ∧ 1 ≤ bytes := by
  unfold unitBytes? at h
  split at h
  case h_5 => cases h
  all_goals
    rw [← Option.some.inj h]
    decide

theorem unit_notDigit {unit : Char} {bytes : Nat} (h : unitBytes? unit.toLower = some bytes) :
    unit.isDigit = false := by
  obtain ⟨hlow, hhigh, -⟩ := letter_of_unitBytes? h
  have htoNat := Text.toNat_toLower unit
  have hletter : ¬ unit.toNat ≤ 57 := by
    split at htoNat
    · omega
    · omega
  rw [Char.isDigit, Bool.and_eq_false_iff, decide_eq_false_iff_not, decide_eq_false_iff_not]
  exact .inr hletter

theorem canonicalText_unit (key : String) (htrim : Text.trimChars s.toList = number ++ [unit])
    (hunit : unitBytes? unit.toLower = some bytes) :
    canonicalText key (.str s) = bytesOf key (number ++ [unit]) number unit.toLower := by
  simp only [canonicalText, htrim, List.getLast?_concat, List.dropLast_concat, unit_notDigit hunit]
  rfl

/-- The canonical text of a number with a unit is the exact product, and there is none if that does not fit. -/
theorem canonicalText_unit_eq_ok_iff {t : String} (htrim : Text.trimChars s.toList = number ++ [unit])
    (hunit : unitBytes? unit.toLower = some bytes) : canonicalText key (.str s) = .ok t ↔
      ∃ n, Decimal.Whole (Text.trimChars number) n ∧ n * bytes < Decimal.unsignedLimit ∧
        t = Decimal.natText (n * bytes) := by
  obtain ⟨-, -, hbytes⟩ := letter_of_unitBytes? hunit
  rw [canonicalText_unit key htrim hunit, bytesOf_eq_ok_iff]
  constructor
  · rintro ⟨bytes', n, hunit', hn, hfits, rfl⟩
    obtain rfl := Option.some.inj (hunit.symm.trans hunit')
    exact ⟨n, (Decimal.readUnsigned?_eq_some_iff.1 hn).1, hfits, rfl⟩
  · rintro ⟨n, hn, hfits, rfl⟩
    have hn' := Decimal.readUnsigned?_eq_some_iff.2 ⟨hn, (Nat.le_mul_of_pos_right n hbytes).trans_lt hfits⟩
    exact ⟨bytes, n, hunit, hn', hfits, rfl⟩

theorem canonicalText_unit_of_le {n : Nat} (htrim : Text.trimChars s.toList = number ++ [unit])
    (hunit : unitBytes? unit.toLower = some bytes) (hn : Decimal.Whole (Text.trimChars number) n)
    (hlarge : Decimal.unsignedLimit ≤ n * bytes) :
    canonicalText key (.str s) = .error (.dimensionValue key (Text.trim s)) := by
  have hraw : Text.trim s = .ofList (number ++ [unit]) := congrArg String.ofList htrim
  rw [canonicalText_unit key htrim hunit, bytesOf, hunit, hraw]
  dsimp only
  split
  · rfl
  · next m hm =>
    obtain rfl := (Decimal.readUnsigned?_eq_some_iff.1 hm).1.unique hn
    exact if_neg (Nat.not_lt.2 hlarge)

/-- A number with a unit has the exact product of the two as its canonical text, and is refused if that is no unsigned
64-bit number. Whatever has a canonical text, that text is its own canonical text. -/
theorem canonicalText_exact (key : String) :
    (∀ s number unit p, Text.trimChars s.toList = number ++ [unit] → (unit, p) ∈ unitPowers →
      (∀ t, canonicalText key (.str s) = .ok t ↔ ∃ n, Decimal.Whole (Text.trimChars number) n ∧
        n * 1024 ^ p < 2 ^ 64 ∧ t = Decimal.natText (n * 1024 ^ p)) ∧
      ∀ n, Decimal.Whole (Text.trimChars number) n → 2 ^ 64 ≤ n * 1024 ^ p →
        canonicalText key (.str s) = .error (.dimensionValue key (Text.trim s))) ∧
    ∀ v t, canonicalText key v = .ok t → canonicalText key (.str t) = .ok t := by
  have hlimit : Decimal.unsignedLimit = 2 ^ 64 := by decide
  rw [← hlimit]
  refine ⟨fun s number unit p htrim hunit => ⟨fun t => ?_, fun n hn hlarge => ?_⟩, fun _ _ => canonicalText_str⟩
  · exact canonicalText_unit_eq_ok_iff htrim (unitBytes?_of_mem hunit)
  · exact canonicalText_unit_of_le htrim (unitBytes?_of_mem hunit) hn hlarge

/-- The largest number of gigabytes that fits, spelled with zeros and blanks, and the next one. -/
theorem canonicalText_exact_gigabytes :
    canonicalText "mem_limit" (.str " +017179869183 G\n") = .ok "18446744072635809792" ∧
    canonicalText "mem_limit" (.str "18446744072635809792") = .ok "18446744072635809792" ∧
    canonicalText "mem_limit" (.str "17179869184g") = .error (.dimensionValue "mem_limit" "17179869184g") := by
  obtain ⟨hunit, hagain⟩ := canonicalText_exact "mem_limit"
  have hlargest : Decimal.readDigits? "017179869183".toList = some 17179869183 := by decide +kernel
  have hnext : Decimal.readDigits? "17179869184".toList = some 17179869184 := by decide +kernel
  have hfits : canonicalText "mem_limit" (.str " +017179869183 G\n") = .ok "18446744072635809792" := by
    refine ((hunit _ "+017179869183 ".toList 'G' 3 (by decide) (by decide)).1 _).2 ⟨17179869183, ?_, by decide, ?_⟩
    · exact .plus hlargest
    · decide +kernel
  refine ⟨hfits, hagain _ _ hfits, ?_⟩
  have hrefused := (hunit "17179869184g" "17179869184".toList 'g' 3 (by decide) (by decide)).2
  exact hrefused 17179869184 (.plain hnext) (by decide)

/-! ### Comparing -/

theorem differ_of_canonicalText {v w : Json} {s t : String} (hv : canonicalText key v = .ok s)
    (hw : canonicalText key w = .ok t) : differ key v w = .ok (s != t) := by
  have hnull : ∀ {x : Json} {u : String}, canonicalText key x = .ok u → x.isNull = false := by
    intro x u hx
    cases x with
    | null => cases hx
    | _ => rfl
  rw [differ, hnull hv, hnull hw, hv, hw]
  rfl

theorem differ_null (key : String) (desired : Json) : differ key desired .null = .error (.removedDimension key) := by
  rw [differ, Json.isNull, Bool.or_true]
  rfl

theorem differ_eq_ok_iff {v w : Json} {differs : Bool} : differ key v w = .ok differs ↔
    ∃ s t, canonicalText key v = .ok s ∧ canonicalText key w = .ok t ∧ differs = (s != t) := by
  constructor
  · intro h
    unfold differ at h
    split at h
    · cases h
    · obtain ⟨s, hs, h⟩ := Result.bind_eq_ok.1 h
      obtain ⟨t, ht, h⟩ := Result.bind_eq_ok.1 h
      exact ⟨s, t, hs, ht, (Except.ok.inj h).symm⟩
  · rintro ⟨s, t, hs, ht, rfl⟩
    exact differ_of_canonicalText hs ht

end Dimension

end Shipshape
