import Shipshape.Proofs.Drift.Rule.Limits

/-!
# Sizes and their numbers of bytes

A size is a whole number, or a text of one with an optional unit behind it (`IsSize`). Sizes with different numbers
of bytes always differ, and sizes with the same number of bytes do not, unless one of them is a number without a unit
that has a plus sign or zeros in front (`Respelled`). Such a text is compared as it is written, while an engine is
given the number and reports it in digits alone (`sizes_compared_iff`).

Proof outline. Every size has a canonical text that is read as its number of bytes (`IsSize.exists_canonicalText`);
so equal texts have equal numbers of bytes, and the number of bytes itself is the text of all that is not respelled.
-/

namespace Shipshape

namespace Dimension

/-- The sizes, and their numbers of bytes: whole numbers, also in texts with blanks around them and with a unit. -/
inductive IsSize : Json → Nat → Prop
  | number (n : Nat) : IsSize (.int n) n
  | text {lead number trail : List Char} {n : Nat} (hlead : ∀ c ∈ lead, Text.isBlank c = true)
      (htrail : ∀ c ∈ trail, Text.isBlank c = true) (hnumber : Decimal.Whole number n) :
      IsSize (.str (.ofList (lead ++ number ++ trail))) n
  | unit {lead number gap trail : List Char} {unit : Char} {n bytes : Nat}
      (hlead : ∀ c ∈ lead, Text.isBlank c = true) (hgap : ∀ c ∈ gap, Text.isBlank c = true)
      (htrail : ∀ c ∈ trail, Text.isBlank c = true) (hnumber : Decimal.Whole number n)
      (hunit : unitBytes? unit.toLower = some bytes) :
      IsSize (.str (.ofList (lead ++ (number ++ gap ++ [unit]) ++ trail))) (n * bytes)

/-- A size without a unit that is written in another way than numbers are: with a plus sign or with zeros in front. -/
def Respelled : Json → Prop
  | .str s => ∃ n, Decimal.Whole (Text.trimChars s.toList) n ∧ Text.trim s ≠ Decimal.natText n
  | _ => False

/-- Texts that are the same but for blanks around them. -/
inductive SameText : Json → Json → Prop
  | intro {s t : String} (h : Text.trim s = Text.trim t) : SameText (.str s) (.str t)

variable {key : String} {v w : Json} {n m : Nat}

theorem unit_notBlank {unit : Char} {bytes : Nat} (h : unitBytes? unit.toLower = some bytes) :
    Text.isBlank unit = false := by
  obtain ⟨hlow, hhigh, -⟩ := letter_of_unitBytes? h
  rw [← Text.isBlank_toLower]
  exact Text.isBlank_letter ⟨by omega, hhigh⟩

theorem canonicalText_of_whole {s : String} (h : Decimal.Whole (Text.trimChars s.toList) n) :
    canonicalText key (.str s) = .ok (Text.trim s) := by
  obtain ⟨d, hlast, hd⟩ := h.numeric.last
  simp only [canonicalText, hlast, hd, if_true]
  rfl

theorem canonicalText_of_unit {s : String} {number gap : List Char} {unit : Char} {bytes : Nat}
    (htrim : Text.trimChars s.toList = number ++ gap ++ [unit]) (hgap : ∀ c ∈ gap, Text.isBlank c = true)
    (hnumber : Decimal.Whole number n) (hunit : unitBytes? unit.toLower = some bytes)
    (hfits : n * bytes < Decimal.unsignedLimit) :
    canonicalText key (.str s) = .ok (Decimal.natText (n * bytes)) := by
  have hnone : ∀ c ∈ ([] : List Char), Text.isBlank c = true := nofun
  have hwhole : Text.trimChars (number ++ gap) = number :=
    Text.trimChars_surrounded hnone hgap hnumber.numeric.ne_nil hnumber.numeric.trimChars
  refine (canonicalText_unit_eq_ok_iff htrim hunit).2 ⟨n, ?_, hfits, rfl⟩
  rwa [hwhole]

theorem IsSize.trimmed (h : IsSize v n) : v = .int n ∨ ∃ s, v = .str s ∧
    (Decimal.Whole (Text.trimChars s.toList) n ∨ ∃ number gap unit k bytes,
      Text.trimChars s.toList = number ++ gap ++ [unit] ∧ (∀ c ∈ gap, Text.isBlank c = true) ∧
        Decimal.Whole number k ∧ unitBytes? unit.toLower = some bytes ∧ n = k * bytes) := by
  cases h with
  | number n => exact .inl rfl
  | @text lead number trail _ hlead htrail hnumber =>
    refine .inr ⟨_, rfl, .inl ?_⟩
    rw [String.toList_ofList,
      Text.trimChars_surrounded hlead htrail hnumber.numeric.ne_nil hnumber.numeric.trimChars]
    exact hnumber
  | @unit lead number gap trail unit k bytes hlead hgap htrail hnumber hunit =>
    have hinner : Text.trimChars (number ++ gap ++ [unit]) = number ++ gap ++ [unit] := by
      refine Text.trimChars_eq_self_iff.2 ⟨fun c hc => ?_, fun c hc => ?_⟩
      · rw [List.append_assoc, List.head?_append_of_ne_nil _ hnumber.numeric.ne_nil] at hc
        exact (Text.trimChars_eq_self_iff.1 hnumber.numeric.trimChars).1 c hc
      · rw [List.getLast?_concat, Option.some.injEq] at hc
        exact hc ▸ unit_notBlank hunit
    refine .inr ⟨_, rfl, .inr ⟨number, gap, unit, k, bytes, ?_, hgap, hnumber, hunit, rfl⟩⟩
    rw [String.toList_ofList]
    exact Text.trimChars_surrounded hlead htrail (by simp) hinner

theorem not_whole_of_unit {cs : List Char} {unit : Char} {bytes : Nat} (hunit : unitBytes? unit.toLower = some bytes) :
    ¬ Decimal.Whole (cs ++ [unit]) n := by
  intro h
  obtain ⟨d, hd, hdigit⟩ := h.numeric.last
  rw [List.getLast?_concat, Option.some.injEq] at hd
  rw [← hd, unit_notDigit hunit] at hdigit
  cases hdigit

/-- The text by which a size is compared is the number of bytes, unless it is respelled. -/
theorem IsSize.exists_canonicalText (h : IsSize v n) (key : String) (hn : n < Decimal.unsignedLimit) :
    ∃ t, canonicalText key v = .ok t ∧ Decimal.Whole t.toList n ∧ (¬ Respelled v → t = Decimal.natText n) ∧
      (Respelled v → t ≠ Decimal.natText n ∧ ∃ s, v = .str s ∧ t = Text.trim s) := by
  rcases h.trimmed with rfl | ⟨s, rfl, hwhole | ⟨number, gap, unit, k, bytes, htrim, hgap, hnumber, hunit, rfl⟩⟩
  · exact ⟨_, rfl, Decimal.whole_natText n, fun _ => rfl, nofun⟩
  · refine ⟨_, canonicalText_of_whole hwhole, ?_, fun hplain => ?_, ?_⟩
    · rwa [Text.trim, String.toList_ofList]
    · by_contra hne
      exact hplain ⟨n, hwhole, hne⟩
    · rintro ⟨m, hm, hne⟩
      obtain rfl := hwhole.unique hm
      exact ⟨hne, _, rfl, rfl⟩
  · refine ⟨_, canonicalText_of_unit htrim hgap hnumber hunit hn, Decimal.whole_natText _, fun _ => rfl, ?_⟩
    rintro ⟨m, hm, -⟩
    exact absurd (htrim ▸ hm) (not_whole_of_unit hunit)

theorem canonicalText_congr {s t : String} (h : Text.trim s = Text.trim t) :
    canonicalText key (.str s) = canonicalText key (.str t) := by
  have hchars : Text.trimChars s.toList = Text.trimChars t.toList := String.ofList_injective h
  simp only [canonicalText, hchars]

theorem sizes_differ_iff (key : String) (hv : IsSize v n) (hw : IsSize w m) (hn : n < Decimal.unsignedLimit)
    (hm : m < Decimal.unsignedLimit) : (∃ differs, differ key v w = .ok differs) ∧
      (differ key v w = .ok false ↔ n = m ∧ (¬ Respelled v ∧ ¬ Respelled w ∨ SameText v w)) := by
  obtain ⟨s, hs, hswhole, hsplain, hsrespelled⟩ := hv.exists_canonicalText key hn
  obtain ⟨t, ht, htwhole, htplain, htrespelled⟩ := hw.exists_canonicalText key hm
  rw [differ_of_canonicalText hs ht, Except.ok.injEq, bne_eq_false_iff_eq]
  refine ⟨⟨_, rfl⟩, ?_⟩
  constructor
  · rintro rfl
    obtain rfl := hswhole.unique htwhole
    refine ⟨rfl, ?_⟩
    by_cases hrespelled : Respelled v
    · obtain ⟨hne, text, rfl, htext⟩ := hsrespelled hrespelled
      have hrespelled' : Respelled w := by
        by_contra hplain
        exact hne (htplain hplain)
      obtain ⟨-, text', rfl, htext'⟩ := htrespelled hrespelled'
      exact .inr ⟨htext.symm.trans htext'⟩
    · refine .inl ⟨hrespelled, fun hrespelled' => ?_⟩
      exact (htrespelled hrespelled').1 (hsplain hrespelled)
  · rintro ⟨rfl, ⟨hplain, hplain'⟩ | hsame⟩
    · rw [hsplain hplain, htplain hplain']
    · obtain ⟨htext⟩ := hsame
      exact Except.ok.inj (hs.symm.trans ((canonicalText_congr htext).trans ht))

/-! ### Limits that come back from an engine -/

/-- A text that is read as a number, and is written in another way than that number is. -/
def Renumbered (v : Json) : Prop :=
  ∃ s i, v = .str s ∧ Decimal.readSigned? (Text.trimChars s.toList) = some i ∧ Decimal.intText i ≠ Text.trim s

theorem cases_of_canonicalText_str {s t : String} (h : canonicalText key (.str s) = .ok t) :
    t = Text.trim s ∨ ∃ unit bytes k, (Text.trimChars s.toList).getLast? = some unit ∧
      unitBytes? unit.toLower = some bytes ∧ t = Decimal.natText k := by
  simp only [canonicalText] at h
  split at h
  · next hlast =>
    rw [Text.trim, List.getLast?_eq_none_iff.1 hlast]
    exact .inl (Except.ok.inj h).symm
  · next unit hlast =>
    split at h
    · exact .inl (Except.ok.inj h).symm
    · obtain ⟨bytes, n, hunit, -, -, rfl⟩ := bytesOf_eq_ok_iff.1 h
      exact .inr ⟨unit, bytes, _, hlast, hunit, rfl⟩

theorem readSigned?_of_unit {cs : List Char} {unit : Char} {bytes : Nat} (hlast : cs.getLast? = some unit)
    (hunit : unitBytes? unit.toLower = some bytes) : Decimal.readSigned? cs = none := by
  rw [Option.eq_none_iff_forall_ne_some]
  intro i hread
  obtain ⟨hlow, -, -⟩ := letter_of_unitBytes? hunit
  rcases Decimal.mem_of_readSigned? hread unit (List.mem_of_mem_getLast? hlast) with hdigit | rfl | rfl
  · rw [unit_notDigit hunit] at hdigit
    cases hdigit
  · exact absurd hlow (by decide)
  · exact absurd hlow (by decide)

theorem renumbered_str_iff {s : String} : Renumbered (.str s) ↔
    ∃ i, Decimal.readSigned? (Text.trimChars s.toList) = some i ∧ Decimal.intText i ≠ Text.trim s := by
  constructor
  · rintro ⟨_, i, ⟨⟩, hi⟩
    exact ⟨i, hi⟩
  · rintro ⟨i, hi⟩
    exact ⟨s, i, rfl, hi⟩

theorem keepsWriting_iff {t : String} (ht : canonicalText key v = .ok t) :
    (∀ i, Decimal.readSigned? t.toList = some i → Decimal.intText i = t) ↔ ¬ Renumbered v := by
  have hnumber : ∀ {i : Int}, t = Decimal.intText i →
      ∀ j, Decimal.readSigned? t.toList = some j → Decimal.intText j = t := by
    rintro i rfl j hj
    rw [Decimal.eq_of_readSigned?_intText hj]
  cases v with
  | null => cases ht
  | bool b => cases ht
  | arr items => cases ht
  | obj fields => cases ht
  | int i => exact iff_of_true (hnumber (Except.ok.inj ht).symm) nofun
  | float x =>
    refine iff_of_true (fun j hj => ?_) nofun
    rw [← Except.ok.inj ht, Decimal.readSigned?_text] at hj
    cases hj
  | str s =>
    rw [renumbered_str_iff, not_exists]
    rcases cases_of_canonicalText_str ht with rfl | ⟨unit, bytes, k, hlast, hunit, hk⟩
    · rw [Text.trim, String.toList_ofList]
      exact forall_congr' fun i => by rw [not_and, not_ne_iff]
    · refine iff_of_true (hnumber (i := Int.ofNat k) hk) ?_
      rintro i ⟨hread, -⟩
      rw [readSigned?_of_unit hlast hunit] at hread
      cases hread

theorem IsSize.renumbered_iff (h : IsSize v n) : Renumbered v ↔ Respelled v ∧ n < Decimal.signedLimit := by
  rcases h.trimmed with rfl | ⟨s, rfl, hwhole | ⟨number, gap, unit, k, bytes, htrim, -, -, hunit, -⟩⟩
  · exact iff_of_false nofun fun hboth => hboth.1
  · have hsigned : Decimal.isSigned n = true ↔ n < Decimal.signedLimit := by
      rw [Decimal.isSigned, Bool.and_eq_true, decide_eq_true_eq, decide_eq_true_eq]
      omega
    have hrespelled : Respelled (.str s) ↔ Text.trim s ≠ Decimal.natText n := by
      constructor
      · rintro ⟨m, hm, hne⟩
        obtain rfl := hwhole.unique hm
        exact hne
      · exact fun hne => ⟨n, hwhole, hne⟩
    rw [renumbered_str_iff, Decimal.readSigned?_of_whole hwhole, hrespelled, ← hsigned]
    split
    · next hfits =>
      simp only [Option.some.injEq, exists_eq_left', hfits, and_true]
      exact ne_comm
    · next hlarge => simp [hlarge]
  · refine iff_of_false ?_ ?_
    · rw [renumbered_str_iff]
      rintro ⟨i, hread, -⟩
      rw [htrim, readSigned?_of_unit List.getLast?_concat hunit] at hread
      cases hread
    · rintro ⟨⟨m, hm, -⟩, -⟩
      exact not_whole_of_unit hunit (htrim ▸ hm)

end Dimension

theorem Comparison.reported_limit_kept_iff {c : Comparison} {res : Dict Json} {e : String × String} {v : Json}
    (hres : Create.resources c.spec = .ok res) (he : e ∈ Create.limitFields)
    (hv : c.spec.dimensions.get? e.1 = some v) (hlive : c.live.hostValue? e.2 = res.get? e.2) :
    c.dimensionDiffers e.1 e.2 = .ok false ↔ ¬ Dimension.Renumbered v := by
  obtain ⟨t, ht, hresource⟩ := Create.get?_resources_of_some hres he hv
  rw [dimensionDiffers_of_resourceValue he hv ht (liveDimension_of_hostValue (hlive.trans hresource)),
    Dimension.keepsWriting_iff ht]

open Dimension in
/-- Sizes are compared by their numbers of bytes, but for those that are respelled. A limit that was requested and
reported is the desired one, but for a text that is read as a number and written in another way; among the sizes these
are the respelled ones that fit into a signed number. -/
theorem Comparison.sizes_compared_iff (key : String) {v w : Json} {n m : Nat} (hv : IsSize v n) (hw : IsSize w m)
    (hn : n < Decimal.unsignedLimit) (hm : m < Decimal.unsignedLimit) :
    (∃ differs, differ key v w = .ok differs) ∧
    (differ key v w = .ok false ↔ n = m ∧ (¬ Respelled v ∧ ¬ Respelled w ∨ SameText v w)) ∧
    (Renumbered v ↔ Respelled v ∧ n < Decimal.signedLimit) ∧
    ∀ (c : Comparison) res, Create.resources c.spec = .ok res → ∀ e ∈ Create.limitFields, ∀ limit,
      c.spec.dimensions.get? e.1 = some limit → c.live.hostValue? e.2 = res.get? e.2 →
        (c.dimensionDiffers e.1 e.2 = .ok false ↔ ¬ Renumbered limit) := by
  obtain ⟨hcompared, hsame⟩ := sizes_differ_iff key hv hw hn hm
  refine ⟨hcompared, hsame, hv.renumbered_iff, ?_⟩
  intro c res hres e he limit hlimit hlive
  exact reported_limit_kept_iff hres he hlimit hlive

open Dimension in
/-- A gigabyte is its number of bytes, when it is compared and when it is requested. -/
theorem Comparison.sizes_compared_iff_gigabyte :
    let v : Json := .str " 1 G"
    let c : Comparison := ⟨{ dimensions := .ofList [("mem_limit", v)] },
      ⟨.ofFields [("HostConfig", .ofFields [("Memory", .int 1073741824)])]⟩, none, .docker, .path⟩
    IsSize v 1073741824 ∧ differ "mem_limit" v (.int 1073741824) = .ok false ∧
      Create.resources c.spec = .ok (.ofList [("Memory", .int 1073741824)]) ∧
      c.dimensionDiffers "mem_limit" "Memory" = .ok false := by
  intro v c
  have hunit : unitBytes? 'G'.toLower = some 1073741824 := by decide
  have hsize : IsSize v 1073741824 := by
    have htext : " 1 G" = String.ofList ([' '] ++ (['1'] ++ [' '] ++ ['G']) ++ []) := by decide
    have hblank : ∀ c ∈ [' '], Text.isBlank c = true := List.forall_mem_singleton.2 (by decide)
    have hone : Decimal.readDigits? ['1'] = some 1 := by decide +kernel
    show IsSize (.str " 1 G") (1 * 1073741824)
    rw [htext]
    exact .unit hblank hblank nofun (.plain hone) hunit
  have hspelled : ¬ Respelled v := by
    rintro ⟨n, hn, -⟩
    have htrim : Text.trimChars " 1 G".toList = ['1', ' '] ++ ['G'] := by decide
    rw [htrim] at hn
    exact not_whole_of_unit hunit hn
  have hresources : Create.resources c.spec = .ok (.ofList [("Memory", .int 1073741824)]) := rfl
  have hplain : ¬ Renumbered v := fun hrenumbered => hspelled (hsize.renumbered_iff.1 hrenumbered).1
  obtain ⟨-, hsame, -, hreported⟩ :=
    sizes_compared_iff "mem_limit" hsize (.number 1073741824) (by decide) (by decide)
  refine ⟨hsize, hsame.2 ⟨rfl, .inl ⟨hspelled, id⟩⟩, hresources, ?_⟩
  exact (hreported c _ hresources ("mem_limit", "Memory") (by decide) v rfl rfl).2 hplain

open Dimension in
/-- Five with a plus sign is not five; and what was declared with zeros in front of it differs when it comes back. -/
theorem Comparison.respelled_size_differs :
    let c : Comparison := ⟨{ dimensions := .ofList [("mem_limit", .str "007")] },
      ⟨.ofFields [("HostConfig", .ofFields [("Memory", .int 7)])]⟩, none, .docker, .path⟩
    IsSize (.str "+5") 5 ∧ IsSize (.int 5) 5 ∧ differ "mem_limit" (.str "+5") (.int 5) = .ok true ∧
      Create.resources c.spec = .ok (.ofList [("Memory", .int 7)]) ∧
      c.dimensionDiffers "mem_limit" "Memory" = .ok true := by
  intro c
  have hfive : Decimal.readDigits? ['5'] = some 5 := by decide +kernel
  have htext : "+5" = String.ofList ([] ++ ['+', '5'] ++ []) := by decide
  refine ⟨?_, .number 5, by decide +kernel, rfl, by decide +kernel⟩
  rw [htext]
  exact .text nofun nofun (.plus hfive)

end Shipshape
