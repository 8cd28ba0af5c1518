import Shipshape.Name
import Shipshape.Proofs.Permutation
import Shipshape.Proofs.Text

/-!
# Names without a beginning

Names are compared in lower case, without blanks around them and without a beginning that some of them have
(`canonical`). Only one beginning is taken off, and blanks are before it is; so the canonical form of a name may have
another one itself (`canonical_canonical_iff`). It is shorter then (`length_canonical_le`), and in a list of canonical
forms that are all reached from each other this happens to none (`canonical_eq_of_onto`).
-/

namespace Shipshape.Name

/-- The letters of a name that its canonical form is cut from. -/
def letters (name : String) : List Char := (Text.trimChars name.toList).map Char.toLower

def withoutStart (start cs : List Char) : List Char := (Text.dropStart? start cs).getD cs

/-- A name that has a second beginning behind the first one, or blanks. -/
def Doubled (start : List Char) (name : String) : Prop :=
  ∃ rest, letters name = start ++ rest ∧ (start <+: rest ∨ ∃ c, rest.head? = some c ∧ Text.isBlank c = true)

def IsLower (name : String) : Prop := ∀ c ∈ name.toList, c.toLower = c

variable {start cs : List Char} {name : String} {names : List String}

/-! ### Beginnings -/

theorem withoutStart_append (start cs : List Char) : withoutStart start (start ++ cs) = cs := by
  rw [withoutStart, Text.dropStart?_eq_some_iff.2 rfl]
  rfl

theorem withoutStart_cases (start cs : List Char) :
    (∃ rest, cs = start ++ rest ∧ withoutStart start cs = rest) ∨ ¬ start <+: cs ∧ withoutStart start cs = cs := by
  rw [withoutStart]
  cases h : Text.dropStart? start cs with
  | some rest => exact .inl ⟨rest, Text.dropStart?_eq_some_iff.1 h, rfl⟩
  | none =>
    refine .inr ⟨?_, rfl⟩
    rintro ⟨rest, rfl⟩
    rw [Text.dropStart?_eq_some_iff.2 rfl] at h
    cases h

theorem suffix_withoutStart (start cs : List Char) : withoutStart start cs <:+ cs := by
  obtain ⟨rest, hcs, hrest⟩ | ⟨-, hsame⟩ := withoutStart_cases start cs
  · rw [hrest, hcs]
    exact List.suffix_append ..
  · exact ⟨[], hsame⟩

theorem withoutStart_eq_self_iff (hstart : start ≠ []) : withoutStart start cs = cs ↔ ¬ start <+: cs := by
  obtain ⟨rest, rfl, hrest⟩ | ⟨hnot, hsame⟩ := withoutStart_cases start cs
  · rw [hrest]
    exact iff_of_false (fun h => hstart (List.self_eq_append_left.1 h)) (not_not_intro (List.prefix_append ..))
  · exact iff_of_true hsame hnot

theorem withoutStart_trimChars_iff :
    withoutStart start (Text.trimChars cs) = cs ↔ Text.trimChars cs = cs ∧ withoutStart start cs = cs := by
  constructor
  · intro h
    have hle := (suffix_withoutStart start (Text.trimChars cs)).length_le
    rw [h] at hle
    have htrim := Text.trimChars_of_length (Nat.le_antisymm (Text.length_trimChars_le cs) hle)
    rw [htrim] at h
    exact ⟨htrim, h⟩
  · rintro ⟨htrim, h⟩
    rw [htrim, h]

/-! ### Canonical forms -/

theorem toList_canonical (start : List Char) (name : String) :
    (canonical start name).toList = withoutStart start (letters name) := by
  have hlower : (Text.lower (Text.trim name)).toList = letters name := by
    rw [Text.lower, Text.trim, String.toList_ofList, String.toList_ofList]
    rfl
  rw [canonical, withoutStart, hlower]
  cases Text.dropStart? start (letters name) with
  | none => exact hlower
  | some rest => exact String.toList_ofList

theorem trimChars_letters (name : String) : Text.trimChars (letters name) = letters name := by
  obtain ⟨hhead, hlast⟩ := Text.trimChars_eq_self_iff.1 (Text.trimChars_trimChars name.toList)
  refine Text.trimChars_eq_self_iff.2 ⟨fun c hc => ?_, fun c hc => ?_⟩
  · rw [letters, List.head?_map, Option.map_eq_some_iff] at hc
    obtain ⟨c', hc', rfl⟩ := hc
    rw [Text.isBlank_toLower]
    exact hhead c' hc'
  · rw [letters, List.getLast?_map, Option.map_eq_some_iff] at hc
    obtain ⟨c', hc', rfl⟩ := hc
    rw [Text.isBlank_toLower]
    exact hlast c' hc'

theorem isLower_canonical (start : List Char) (name : String) : IsLower (canonical start name) := by
  intro c hc
  rw [toList_canonical] at hc
  obtain ⟨c', -, rfl⟩ := List.mem_map.1 ((suffix_withoutStart start (letters name)).subset hc)
  exact Text.toLower_toLower c'

theorem isBlank_of_getLast?_canonical {c : Char} (h : (canonical start name).toList.getLast? = some c) :
    Text.isBlank c = false := by
  refine (Text.trimChars_eq_self_iff.1 (trimChars_letters name)).2 c ?_
  rw [toList_canonical] at h
  obtain ⟨front, hfront⟩ := suffix_withoutStart start (letters name)
  rw [← hfront, List.getLast?_append, h]
  rfl

theorem letters_of_isLower (h : IsLower name) : letters name = Text.trimChars name.toList := by
  rw [letters, List.map_congr_left fun c hc => h c (Text.mem_of_mem_trimChars hc), List.map_id']

/-- Of a name in lower case the canonical form is the name itself, or shorter. -/
theorem length_canonical_le (start : List Char) (h : IsLower name) :
    (canonical start name).length ≤ name.length ∧
      ((canonical start name).length = name.length → canonical start name = name) := by
  have hsuffix := suffix_withoutStart start (letters name)
  rw [← toList_canonical, letters_of_isLower h] at hsuffix
  have htrim := Text.length_trimChars_le name.toList
  have hle := hsuffix.length_le
  rw [← String.length_toList, ← String.length_toList]
  refine ⟨hle.trans htrim, fun heq => String.toList_inj.1 ?_⟩
  rw [hsuffix.eq_of_length (by omega), Text.trimChars_of_length (by omega)]

theorem doubled_iff : Doubled start name ↔ start <+: (canonical start name).toList ∨
    ∃ c, (canonical start name).toList.head? = some c ∧ Text.isBlank c = true := by
  rw [toList_canonical]
  constructor
  · rintro ⟨rest, hrest, hdoubled⟩
    rwa [hrest, withoutStart_append]
  · intro h
    obtain ⟨rest, hletters, hrest⟩ | ⟨hnot, hsame⟩ := withoutStart_cases start (letters name)
    · rw [hrest] at h
      exact ⟨rest, hletters, h⟩
    · -- nothing is taken off, and the letters of a name neither have the beginning then nor begin with a blank
      rw [hsame] at h
      rcases h with hprefix | ⟨c, hc, hblank⟩
      · exact absurd hprefix hnot
      · rw [(Text.trimChars_eq_self_iff.1 (trimChars_letters name)).1 c hc] at hblank
        cases hblank

/-- Canonical forms are canonical, but for those of doubled names. -/
theorem canonical_canonical_iff (hstart : start ≠ []) :
    canonical start (canonical start name) = canonical start name ↔ ¬ Doubled start name := by
  rw [← String.toList_inj, toList_canonical start (canonical start name),
    letters_of_isLower (isLower_canonical start name), withoutStart_trimChars_iff, withoutStart_eq_self_iff hstart,
    Text.trimChars_eq_self_iff, doubled_iff, not_or, not_exists, and_comm]
  refine and_congr_right fun _ => ?_
  rw [and_iff_left fun c hc => isBlank_of_getLast?_canonical hc]
  exact forall_congr' fun c => by rw [not_and, Bool.not_eq_true]

/-- Names whose canonical forms include them all are canonical: taking canonical forms shortens what it changes. -/
theorem canonical_eq_of_onto (hlower : ∀ name ∈ names, IsLower name) (honto : names ⊆ names.map (canonical start)) :
    ∀ name ∈ names, canonical start name = name := by
  have hfixed := @eq_of_onto String String.length (fun a b => IsLower a ∧ canonical start a = b) names
    (fun _ _ _ h h' => h.2.symm.trans h'.2) ?_ ?_
  · exact fun name hname => (hfixed name hname).2
  · rintro a _ ⟨ha, rfl⟩
    obtain ⟨hle, heq⟩ := length_canonical_le start ha
    exact (Nat.lt_or_eq_of_le hle).imp_right heq
  · intro name hname
    obtain ⟨a, ha, hcanonical⟩ := List.mem_map.1 (honto hname)
    exact ⟨a, ha, hlower a ha, hcanonical⟩

end Shipshape.Name
