import Mathlib.Data.Bool.AllAny
import Mathlib.Data.List.DropRight
import Shipshape.Text.Blank
import Shipshape.Text.Pieces

/-!
# Trimming and splitting

Trimming twice is trimming once, a text without blanks at its ends is not changed by it, and a text that was put
together at a character splits there again. Words that were put together with blanks are the words of the text.
-/

namespace Shipshape.Text

/-! ### Splitting -/

theorem splitFirst?_append {c : Char} {a : List Char} (ha : c ∉ a) (b : List Char) :
    splitFirst? c (a ++ c :: b) = some (a, b) := by
  induction a with
  | nil => simp [splitFirst?]
  | cons x a ih =>
    obtain ⟨hx, ha⟩ := List.ne_and_not_mem_of_not_mem_cons ha
    rw [List.cons_append, splitFirst?, if_neg hx.symm, ih ha]
    rfl

theorem splitFirst?_eq_none_iff {c : Char} {cs : List Char} : splitFirst? c cs = none ↔ c ∉ cs := by
  induction cs with
  | nil => simp [splitFirst?]
  | cons x cs ih =>
    rw [splitFirst?, List.mem_cons, not_or, ← ih]
    split
    · next hx => simp [hx]
    · next hx => simp [Ne.symm hx]

theorem splitLast?_eq_some {c : Char} {cs a b : List Char} (h : splitLast? c cs = some (a, b)) :
    cs = a ++ c :: b ∧ c ∉ b := by
  obtain ⟨⟨b', a'⟩, hsplit, hpair⟩ := Option.map_eq_some_iff.1 h
  injection hpair with ha hb
  subst ha hb
  obtain ⟨hcs, hc⟩ := splitFirst?_eq_some hsplit
  refine ⟨?_, fun h => hc (List.mem_reverse.1 h)⟩
  rw [← List.reverse_reverse cs, hcs, List.reverse_append, List.reverse_cons, List.append_assoc]
  rfl

theorem splitLast?_eq_none_iff {c : Char} {cs : List Char} : splitLast? c cs = none ↔ c ∉ cs := by
  rw [splitLast?, Option.map_eq_none_iff, splitFirst?_eq_none_iff, List.mem_reverse]

theorem dropStart?_eq_some_iff {start cs rest : List Char} :
    dropStart? start cs = some rest ↔ cs = start ++ rest := by
  rw [dropStart?]
  induction start generalizing cs with
  | nil => simp [List.isPrefixOf?, eq_comm]
  | cons x start ih =>
    cases cs with
    | nil => simp [List.isPrefixOf?]
    | cons c cs =>
      rw [List.isPrefixOf?, List.cons_append, List.cons.injEq]
      by_cases hx : x = c
      · simp [hx, ih]
      · simp [hx, Ne.symm hx]

theorem dropEnd?_eq_some_iff {ending cs rest : List Char} :
    dropEnd? ending cs = some rest ↔ cs = rest ++ ending := by
  have hsuffix : dropEnd? ending cs = (dropStart? ending.reverse cs.reverse).map List.reverse := rfl
  rw [hsuffix, Option.map_eq_some_iff]
  constructor
  · rintro ⟨rest', h, rfl⟩
    rw [← List.reverse_inj, dropStart?_eq_some_iff.1 h, List.reverse_append, List.reverse_reverse]
  · rintro rfl
    exact ⟨rest.reverse, dropStart?_eq_some_iff.2 List.reverse_append, List.reverse_reverse rest⟩

theorem infix_of_mem_splitOnP {c : Char} {cs piece : List Char} (h : piece ∈ cs.splitOnP (· == c)) :
    piece <:+: cs ∧ c ∉ piece := by
  cases hsplit : splitFirst? c cs with
  | none =>
    have hnone := splitFirst?_eq_none_iff.1 hsplit
    rw [List.splitOnP_eq_singleton fun x hx => by simpa using ne_of_mem_of_not_mem hx hnone,
      List.mem_singleton] at h
    rw [h]
    exact ⟨List.infix_rfl, hnone⟩
  | some p =>
    obtain ⟨first, rest⟩ := p
    obtain ⟨hcs, hfirst⟩ := splitFirst?_eq_some hsplit
    rw [hcs, List.splitOnP_append_cons (p := (· == c)) _ _ (beq_self_eq_true c),
      List.splitOnP_eq_singleton fun x hx => by simpa using ne_of_mem_of_not_mem hx hfirst] at h
    rcases List.mem_cons.1 h with rfl | h
    · rw [hcs]
      exact ⟨(List.prefix_append ..).isInfix, hfirst⟩
    · have hlength : rest.length < cs.length := by
        rw [hcs, List.length_append, List.length_cons]
        omega
      obtain ⟨hpart, hpiece⟩ := infix_of_mem_splitOnP h
      rw [hcs]
      exact ⟨hpart.trans ((List.suffix_cons ..).trans (List.suffix_append ..)).isInfix, hpiece⟩
termination_by cs.length

theorem infix_append_cons {c : Char} {part a b : List Char} (h : part <:+: a ++ c :: b) (hc : c ∉ part) :
    part <:+: a ∨ part <:+: b := by
  obtain ⟨before, behind, h⟩ := h
  rw [List.append_assoc] at h
  rcases List.append_eq_append_iff.1 h with ⟨a', ha, hrest⟩ | ⟨before', hbefore, hrest⟩
  · rcases List.append_eq_append_iff.1 hrest with ⟨a'', ha', -⟩ | ⟨part', hpart, hcons⟩
    · rw [ha, ha', ← List.append_assoc]
      exact .inl ⟨before, a'', rfl⟩
    · cases part' with
      | nil =>
        rw [hpart, ha, List.append_nil]
        exact .inl (List.suffix_append ..).isInfix
      | cons x part' =>
        injection hcons with hx
        subst hx
        exact absurd (hpart ▸ List.mem_append_right _ (List.mem_cons_self ..)) hc
  · cases before' with
    | nil =>
      cases part with
      | nil => exact .inl (List.nil_infix ..)
      | cons x part =>
        injection hrest with hx
        subst hx
        exact absurd (List.mem_cons_self ..) hc
    | cons x before' =>
      injection hrest with _ hb
      exact .inr ⟨before', behind, (List.append_assoc ..).trans hb.symm⟩

theorem mem_of_mem_intercalate {c : Char} {sep : List Char} {pieces : List (List Char)}
    (h : c ∈ sep.intercalate pieces) : c ∈ sep ∨ ∃ piece ∈ pieces, c ∈ piece := by
  induction pieces with
  | nil => simp at h
  | cons piece pieces ih =>
    cases pieces with
    | nil =>
      rw [List.intercalate_singleton] at h
      exact .inr ⟨piece, List.mem_cons_self .., h⟩
    | cons next rest =>
      rw [List.intercalate_cons_cons, List.mem_append, List.mem_append] at h
      rcases h with (h | h) | h
      · exact .inr ⟨piece, List.mem_cons_self .., h⟩
      · exact .inl h
      · refine (ih h).imp_right ?_
        rintro ⟨piece', hmem, hc⟩
        exact ⟨piece', List.mem_cons_of_mem _ hmem, hc⟩

/-! ### Trimming -/

theorem dropEndWhile_eq_rdropWhile (p : Char → Bool) (cs : List Char) :
    dropEndWhile p cs = cs.rdropWhile p := rfl

theorem dropWhile_eq_self_iff {p : Char → Bool} {cs : List Char} :
    cs.dropWhile p = cs ↔ ∀ c, cs.head? = some c → p c = false := by
  rw [List.dropWhile_eq_self_iff]
  cases cs with
  | nil => simp
  | cons c cs => simp

theorem rdropWhile_eq_self_iff {p : Char → Bool} {cs : List Char} :
    cs.rdropWhile p = cs ↔ ∀ c, cs.getLast? = some c → p c = false := by
  have h : cs.reverse.dropWhile p = cs.reverse ↔ ∀ c, cs.reverse.head? = some c → p c = false :=
    dropWhile_eq_self_iff
  rw [List.head?_reverse] at h
  rw [← h, List.rdropWhile, List.reverse_eq_iff]

theorem trimChars_eq_self_iff {cs : List Char} : trimChars cs = cs ↔
    (∀ c, cs.head? = some c → isBlank c = false) ∧ ∀ c, cs.getLast? = some c → isBlank c = false := by
  rw [trimChars, dropEndWhile_eq_rdropWhile, ← dropWhile_eq_self_iff, ← rdropWhile_eq_self_iff]
  constructor
  · intro h
    have hprefix : cs <+: cs.dropWhile isBlank := by
      have := List.rdropWhile_prefix isBlank (l := cs.dropWhile isBlank)
      rwa [h] at this
    have hdrop : cs.dropWhile isBlank = cs :=
      ((List.dropWhile_suffix isBlank).eq_of_length_le hprefix.length_le)
    rw [hdrop] at h
    exact ⟨hdrop, h⟩
  · rintro ⟨h₁, h₂⟩
    rw [h₁, h₂]

theorem dropWhile_append_cons {p : Char → Bool} {c : Char} (hc : p c = false) (a b : List Char) :
    (a ++ c :: b).dropWhile p = a.dropWhile p ++ c :: b := by
  rw [List.dropWhile_append]
  split
  · next h => rw [List.isEmpty_iff.1 h, List.nil_append, List.dropWhile_cons_of_neg (by simp [hc])]
  · rfl

theorem dropEndWhile_append_cons {p : Char → Bool} {c : Char} (hc : p c = false) (a b : List Char) :
    dropEndWhile p (a ++ c :: b) = a ++ c :: dropEndWhile p b := by
  have hreverse : (a ++ c :: b).reverse = b.reverse ++ c :: a.reverse := by simp
  rw [dropEndWhile, hreverse, dropWhile_append_cons hc, dropEndWhile]
  simp

theorem trimChars_append_cons {c : Char} (hc : isBlank c = false) (a b : List Char) :
    trimChars (a ++ c :: b) = a.dropWhile isBlank ++ c :: dropEndWhile isBlank b := by
  rw [trimChars, dropWhile_append_cons hc, dropEndWhile_append_cons hc]

theorem exists_blanks_trimChars (cs : List Char) : ∃ lead trail, cs = lead ++ (trimChars cs ++ trail) ∧
    (∀ c ∈ lead, isBlank c = true) ∧ ∀ c ∈ trail, isBlank c = true := by
  refine ⟨cs.takeWhile isBlank, (cs.dropWhile isBlank).rtakeWhile isBlank, ?_, ?_, ?_⟩
  · rw [trimChars, dropEndWhile_eq_rdropWhile, List.rdropWhile_append_rtakeWhile, List.takeWhile_append_dropWhile]
  · exact fun c hc => List.mem_takeWhile_imp hc
  · exact fun c hc => List.mem_rtakeWhile_imp hc

theorem trimChars_trimChars (cs : List Char) : trimChars (trimChars cs) = trimChars cs := by
  rw [trimChars_eq_self_iff]
  refine ⟨fun c hc => ?_, rdropWhile_eq_self_iff.1 (List.rdropWhile_idempotent isBlank _)⟩
  have hhead : (cs.dropWhile isBlank).head? = some c := by
    obtain ⟨rest, hrest⟩ := List.rdropWhile_prefix isBlank (l := cs.dropWhile isBlank)
    rw [← hrest, List.head?_append]
    exact Option.or_eq_some_iff.2 (.inl hc)
  exact dropWhile_eq_self_iff.1 (List.dropWhile_idempotent isBlank _) c hhead

theorem trimChars_of_forall {cs : List Char} (h : ∀ c ∈ cs, isBlank c = false) : trimChars cs = cs :=
  trimChars_eq_self_iff.2 ⟨fun c hc => h c (List.mem_of_mem_head? hc), fun c hc =>
    h c (List.mem_of_mem_getLast? hc)⟩

theorem trimChars_surrounded {lead cs trail : List Char} (hlead : ∀ c ∈ lead, isBlank c = true)
    (htrail : ∀ c ∈ trail, isBlank c = true) (hne : cs ≠ []) (hcs : trimChars cs = cs) :
    trimChars (lead ++ cs ++ trail) = cs := by
  obtain ⟨hfirst, hlast⟩ := trimChars_eq_self_iff.1 hcs
  have hhead : ∀ c, (cs ++ trail).head? = some c → isBlank c = false := by
    intro c hc
    rw [List.head?_append_of_ne_nil cs hne] at hc
    exact hfirst c hc
  have hfront : (lead ++ (cs ++ trail)).dropWhile isBlank = cs ++ trail := by
    rw [List.dropWhile_append_of_pos hlead, dropWhile_eq_self_iff.2 hhead]
  have hback : trail.reverse.dropWhile isBlank = [] := by
    rw [List.dropWhile_eq_nil_iff]
    exact fun c hc => htrail c (List.mem_reverse.1 hc)
  rw [trimChars, List.append_assoc, hfront, dropEndWhile, List.reverse_append, List.dropWhile_append, hback]
  exact rdropWhile_eq_self_iff.2 hlast

theorem length_trimChars_le (cs : List Char) : (trimChars cs).length ≤ cs.length :=
  (List.rdropWhile_prefix isBlank _).length_le.trans (List.dropWhile_suffix isBlank).length_le

theorem trimChars_of_length {cs : List Char} (h : (trimChars cs).length = cs.length) : trimChars cs = cs := by
  have hdrop : cs.dropWhile isBlank = cs := by
    refine (List.dropWhile_suffix isBlank).eq_of_length_le ?_
    rw [← h]
    exact (List.rdropWhile_prefix isBlank _).length_le
  rw [trimChars, dropEndWhile_eq_rdropWhile, hdrop] at h ⊢
  exact (List.rdropWhile_prefix isBlank _).eq_of_length h

theorem mem_of_mem_trimChars {cs : List Char} {c : Char} (h : c ∈ trimChars cs) : c ∈ cs :=
  (List.dropWhile_suffix isBlank).subset ((List.rdropWhile_prefix isBlank _).subset h)

/-! ### Words -/

theorem wordsOf_append_cons {c : Char} (hc : isBlank c = true) (a b : List Char) :
    wordsOf (a ++ c :: b) = wordsOf a ++ wordsOf b := by
  rw [wordsOf, List.splitOnP_append_cons a b hc, List.filter_append]
  rfl

theorem wordsOf_of_forall {word : List Char} (hne : word ≠ []) (h : ∀ c ∈ word, isBlank c = false) :
    wordsOf word = [word] := by
  rw [wordsOf, List.splitOnP_eq_singleton h]
  simp [hne]

theorem notBlank_of_mem_wordsOf {cs word : List Char} (h : word ∈ wordsOf cs) : ∀ c ∈ word, isBlank c = false := by
  have hpiece : word ∈ cs.splitOnP isBlank := List.mem_of_mem_filter h
  clear h
  induction cs generalizing word with
  | nil =>
    rw [List.splitOnP_nil, List.mem_singleton] at hpiece
    subst hpiece
    exact nofun
  | cons x cs ih =>
    rw [List.splitOnP_cons_eq_if_modifyHead] at hpiece
    by_cases hx : isBlank x = true
    · rw [if_pos hx] at hpiece
      rcases List.mem_cons.1 hpiece with rfl | hpiece
      · exact nofun
      · exact ih hpiece
    · rw [if_neg hx] at hpiece
      cases hrest : cs.splitOnP isBlank with
      | nil => exact absurd hrest (List.splitOnP_ne_nil isBlank cs)
      | cons first rest =>
        rw [hrest] at hpiece ih
        rcases List.mem_cons.1 hpiece with rfl | hpiece
        · exact List.forall_mem_cons.2 ⟨Bool.eq_false_iff.2 hx, ih (List.mem_cons_self ..)⟩
        · exact ih (List.mem_cons_of_mem _ hpiece)

theorem wordsOf_intercalate {c : Char} (hc : isBlank c = true) (texts : List (List Char)) :
    wordsOf ([c].intercalate texts) = texts.flatMap wordsOf := by
  induction texts with
  | nil => rfl
  | cons text texts ih =>
    cases texts with
    | nil => rw [List.intercalate_singleton, List.flatMap_singleton]
    | cons next rest =>
      rw [List.intercalate_cons_cons, List.append_assoc, List.singleton_append, wordsOf_append_cons hc, ih]
      rfl

/-- A text that is a word of its own: it is not empty and has no blanks. -/
structure IsWord (w : String) : Prop where
  ne_empty : w ≠ ""
  not_blank : ∀ c ∈ w.toList, isBlank c = false

instance : DecidablePred IsWord := fun w =>
  decidable_of_iff (w ≠ "" ∧ w.toList.all (fun c => isBlank c = false)) (by
    rw [List.all_iff_forall_prop]
    exact ⟨fun h => ⟨h.1, h.2⟩, fun h => ⟨h.1, h.2⟩⟩)

theorem IsWord.words_eq {w : String} (h : IsWord w) : words w = [w] := by
  have hne : w.toList ≠ [] := fun hnil => h.ne_empty (String.toList_eq_nil_iff.1 hnil)
  rw [words, wordsOf_of_forall hne h.not_blank, List.map_singleton, String.ofList_toList]

theorem isWord_of_mem_words {text w : String} (h : w ∈ words text) : IsWord w := by
  obtain ⟨word, hword, rfl⟩ := List.mem_map.1 h
  have hne : word ≠ [] := by simpa using (List.mem_filter.1 hword).2
  refine ⟨fun hempty => hne ?_, ?_⟩
  · rw [← String.toList_ofList (l := word), hempty]
    rfl
  · rw [String.toList_ofList]
    exact notBlank_of_mem_wordsOf hword

theorem flatMap_words_of_forall {ws : List String} (h : ∀ w ∈ ws, IsWord w) : ws.flatMap words = ws := by
  rw [List.flatMap_congr fun w hw => (h w hw).words_eq, List.flatMap_singleton']

theorem words_intercalate (texts : List String) : words (" ".intercalate texts) = texts.flatMap words := by
  have hspace : " ".toList = [' '] := by decide
  rw [words, String.toList_intercalate, hspace, wordsOf_intercalate (by decide), List.map_flatMap, List.flatMap_map]
  rfl

/-! ### Letters -/

theorem toNat_toLower (c : Char) :
    c.toLower.toNat = if 65 ≤ c.toNat ∧ c.toNat ≤ 90 then c.toNat + 32 else c.toNat := by
  have hrange : (c.val ≥ 'A'.val ∧ c.val ≤ 'Z'.val) ↔ 65 ≤ c.toNat ∧ c.toNat ≤ 90 := Iff.rfl
  unfold Char.toLower
  split
  · next h =>
    rw [if_pos (hrange.1 h)]
    have hc := (hrange.1 h).2
    show (c.toNat + 32) % 4294967296 = c.toNat + 32
    omega
  · next h => rw [if_neg fun h' => h (hrange.2 h')]

theorem toNat_toUpper (c : Char) :
    c.toUpper.toNat = if 97 ≤ c.toNat ∧ c.toNat ≤ 122 then c.toNat - 32 else c.toNat := by
  have hrange : ('a'.val ≤ c.val ∧ c.val ≤ 'z'.val) ↔ 97 ≤ c.toNat ∧ c.toNat ≤ 122 := Iff.rfl
  unfold Char.toUpper
  split
  · next h =>
    rw [if_pos (hrange.1 h)]
    have hc := hrange.1 h
    have hshift : ('A'.val - 'a'.val).toNat = 4294967264 := by decide
    show (c.val + ('A'.val - 'a'.val)).toNat = c.val.toNat - 32
    rw [UInt32.toNat_add, hshift]
    have hval : c.val.toNat = c.toNat := rfl
    omega
  · next h => rw [if_neg fun h' => h (hrange.2 h')]

theorem toLower_toLower (c : Char) : c.toLower.toLower = c.toLower := by
  refine Char.toNat_inj.1 ?_
  rw [toNat_toLower, toNat_toLower]
  split
  · rw [if_neg (by omega)]
  · rfl

theorem toLower_toUpper (c : Char) : c.toUpper.toLower = c.toLower := by
  refine Char.toNat_inj.1 ?_
  rw [toNat_toLower, toNat_toLower, toNat_toUpper]
  split
  · split
    · split
      · omega
      · omega
    · omega
  · rfl

theorem isBlank_letter {c : Char} (h : 65 ≤ c.toNat ∧ c.toNat ≤ 122) : isBlank c = false := by
  simp only [isBlank, Bool.or_eq_false_iff, Bool.and_eq_false_iff, decide_eq_false_iff_not,
    beq_eq_false_iff_ne]
  omega

theorem isBlank_toUpper (c : Char) : isBlank c.toUpper = isBlank c := by
  have htoNat := toNat_toUpper c
  split at htoNat
  · rw [isBlank_letter (by omega), isBlank_letter (by omega)]
  · rw [Char.toNat_inj.1 htoNat]

theorem isBlank_toLower (c : Char) : isBlank c.toLower = isBlank c := by
  have htoNat := toNat_toLower c
  split at htoNat
  · rw [isBlank_letter (by omega), isBlank_letter (by omega)]
  · rw [Char.toNat_inj.1 htoNat]

end Shipshape.Text
