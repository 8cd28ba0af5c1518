import Shipshape.Decimal.Integer
import Shipshape.Decimal.Shortest
import Shipshape.Proofs.Text

/-!
# Numbers in texts

What numbers are written with, and which texts are read as which whole numbers. A whole number may be read from other
texts than the one that it is written as: a plus sign and zeros in front of it are passed over (`Whole`). A floating
point number is never read as a whole one.
-/

namespace Shipshape

namespace Decimal

/-- The characters that numbers are written with. -/
def isNumeric (c : Char) : Bool :=
  c.isDigit || c == '.' || c == 'e' || c == '-' || c == '+'

theorem isNumeric_of_isDigit {c : Char} (h : c.isDigit = true) : isNumeric c = true := by
  rw [isNumeric, h]
  rfl

theorem isBlank_eq_false_of_isNumeric {c : Char} (h : isNumeric c = true) : Text.isBlank c = false := by
  simp only [isNumeric, Char.isDigit, Bool.or_eq_true, Bool.and_eq_true, beq_iff_eq, decide_eq_true_eq] at h
  rcases h with (((⟨hlow, hhigh⟩ | rfl) | rfl) | rfl) | rfl
  · have h₁ : 48 ≤ c.toNat := hlow
    have h₂ : c.toNat ≤ 57 := hhigh
    simp only [Text.isBlank, Bool.or_eq_false_iff, Bool.and_eq_false_iff, decide_eq_false_iff_not,
      beq_eq_false_iff_ne]
    omega
  all_goals decide

/-- A text like those that numbers are written as: nothing but such characters, and a digit at the end. -/
structure Numeric (cs : List Char) : Prop where
  numeric : ∀ c ∈ cs, isNumeric c = true
  last : ∃ d, cs.getLast? = some d ∧ d.isDigit = true

theorem numeric_of_digits {cs : List Char} (hne : cs ≠ []) (h : ∀ c ∈ cs, c.isDigit = true) : Numeric cs := by
  refine ⟨fun c hc => isNumeric_of_isDigit (h c hc), ?_⟩
  obtain ⟨d, hd⟩ := Option.ne_none_iff_exists'.1 (mt List.getLast?_eq_none_iff.1 hne)
  exact ⟨d, hd, h d (List.mem_of_mem_getLast? hd)⟩

theorem Numeric.ne_nil {cs : List Char} (h : Numeric cs) : cs ≠ [] := by
  rintro rfl
  obtain ⟨d, hd, -⟩ := h.last
  cases hd

theorem Numeric.trimChars {cs : List Char} (h : Numeric cs) : Text.trimChars cs = cs :=
  Text.trimChars_of_forall fun c hc => isBlank_eq_false_of_isNumeric (h.numeric c hc)

theorem Numeric.append {front cs : List Char} (hfront : ∀ c ∈ front, isNumeric c = true) (h : Numeric cs) :
    Numeric (front ++ cs) := by
  refine ⟨fun c hc => (List.mem_append.1 hc).elim (hfront c) (h.numeric c), ?_⟩
  obtain ⟨d, hd, hdigit⟩ := h.last
  exact ⟨d, by rw [List.getLast?_append, hd]; rfl, hdigit⟩

theorem Numeric.cons {c : Char} {cs : List Char} (hc : isNumeric c = true) (h : Numeric cs) :
    Numeric (c :: cs) := by
  have hfront : ∀ x ∈ [c], isNumeric x = true := by
    intro x hx
    rwa [List.mem_singleton.1 hx]
  exact h.append hfront

theorem digits_toDigits (n : Nat) : ∀ c ∈ Nat.toDigits 10 n, c.isDigit = true := fun _ =>
  Nat.isDigit_of_mem_toDigits (by decide) (by decide)

theorem numeric_toDigits (n : Nat) : Numeric (Nat.toDigits 10 n) :=
  numeric_of_digits Nat.toDigits_ne_nil (digits_toDigits n)

theorem numeric_natText (n : Nat) : Numeric (natText n).toList := by
  rw [natText, String.toList_ofList]
  exact numeric_toDigits n

theorem numeric_intText (n : Int) : Numeric (intText n).toList := by
  cases n with
  | ofNat n => exact numeric_natText n
  | negSucc n =>
    rw [intText, String.toList_append]
    exact (numeric_natText (n + 1)).cons (by decide)

theorem Binary64.numeric_text (x : Binary64) : Numeric x.text.toList := by
  have hdigits := digits_toDigits x.shortest.digits
  have hnumeric : ∀ c ∈ Nat.toDigits 10 x.shortest.digits, isNumeric c = true := fun c hc =>
    isNumeric_of_isDigit (hdigits c hc)
  have hzeros : ∀ n, ∀ c ∈ List.replicate n '0', isNumeric c = true := by
    intro n c hc
    rw [List.eq_of_mem_replicate hc]
    decide
  have htail : Numeric ['.', '0'] := ⟨List.all_eq_true.1 rfl, ⟨'0', rfl, rfl⟩⟩
  rw [text, String.toList_ofList]
  generalize hd : Nat.toDigits 10 x.shortest.digits = digits at hdigits hnumeric
  have hne : digits ≠ [] := by
    rw [← hd]
    exact Nat.toDigits_ne_nil
  have hwhole := numeric_of_digits hne hdigits
  dsimp only
  generalize hbody : (if x.isZero = true then ['0', '.', '0'] else _) = body
  have hnumber : Numeric body := by
    rw [← hbody]
    split
    · exact htail.cons (by decide)
    · split
      · split
        · refine htail.append fun c hc => ?_
          exact (List.mem_append.1 hc).elim (hnumeric c) (hzeros _ c)
        · next hexponent =>
          split
          · -- the point stands before the last digit
            next hpower =>
            have hrest : digits.drop ((x.shortest.exponent + digits.length - 1).toNat + 1) ≠ [] := by
              rw [Ne, List.drop_eq_nil_iff]
              omega
            have hdropped := numeric_of_digits hrest fun c hc => hdigits c (List.mem_of_mem_drop hc)
            exact (hdropped.cons (by decide)).append fun c hc => hnumeric c (List.mem_of_mem_take hc)
          · exact ((hwhole.append (hzeros _)).cons (by decide)).cons (by decide)
      · have hexponent : Numeric (exponentText (x.shortest.exponent + digits.length - 1)) := by
          refine (numeric_toDigits _).cons ?_
          split
          · decide
          · decide
        refine (hexponent.cons (by decide)).append ?_
        split
        · next d e rest =>
          rw [List.forall_mem_cons, List.forall_mem_cons]
          rw [List.forall_mem_cons] at hnumeric
          exact ⟨hnumeric.1, by decide, hnumeric.2⟩
        · exact hnumeric
  split
  · exact hnumber.cons (by decide)
  · exact hnumber

/-! ### Reading whole numbers -/

/-- The digits of a number, or these after a plus sign. -/
inductive Whole : List Char → Nat → Prop
  | plain {digits : List Char} {n : Nat} (h : readDigits? digits = some n) : Whole digits n
  | plus {digits : List Char} {n : Nat} (h : readDigits? digits = some n) : Whole ('+' :: digits) n

variable {cs : List Char} {n m : Nat}

theorem digits_of_readDigits? (h : readDigits? cs = some n) : cs ≠ [] ∧ ∀ c ∈ cs, c.isDigit = true := by
  unfold readDigits? at h
  split at h
  · next hdigits =>
    rw [Bool.and_eq_true, List.all_eq_true] at hdigits
    refine ⟨?_, hdigits.2⟩
    rintro rfl
    cases hdigits.1
  · cases h

theorem readDigits?_plus : readDigits? ('+' :: cs) = none := by
  cases h : readDigits? ('+' :: cs) with
  | none => rfl
  | some n =>
    have hplus := (digits_of_readDigits? h).2 '+' (List.mem_cons_self ..)
    exact absurd hplus (by decide)

theorem Whole.numeric (h : Whole cs n) : Numeric cs := by
  cases h with
  | plain h =>
    obtain ⟨hne, hdigits⟩ := digits_of_readDigits? h
    exact numeric_of_digits hne hdigits
  | plus h =>
    obtain ⟨hne, hdigits⟩ := digits_of_readDigits? h
    exact (numeric_of_digits hne hdigits).cons (by decide)

theorem Whole.unique (h : Whole cs n) (h' : Whole cs m) : n = m := by
  cases h with
  | plain h =>
    cases h' with
    | plain h' => exact Option.some.inj (h.symm.trans h')
    | plus h' =>
      rw [readDigits?_plus] at h
      cases h
  | plus h =>
    cases h' with
    | plain h' =>
      rw [readDigits?_plus] at h'
      cases h'
    | plus h' => exact Option.some.inj (h.symm.trans h')

theorem whole_natText (n : Nat) : Whole (natText n).toList n := by
  rw [natText, String.toList_ofList]
  exact .plain (readDigits?_toDigits n)

theorem readUnsigned?_eq_some_iff : readUnsigned? cs = some n ↔ Whole cs n ∧ n < unsignedLimit := by
  unfold readUnsigned?
  rw [Option.filter_eq_some_iff, decide_eq_true_iff]
  refine and_congr_left fun _ => ⟨fun hread => ?_, fun h => ?_⟩
  · split at hread
    · exact .plus hread
    · exact .plain hread
  · cases h with
    | plus h => exact h
    | plain h =>
      split
      · rw [readDigits?_plus] at h
        cases h
      · exact h

theorem readSigned?_of_whole (h : Whole cs n) :
    readSigned? cs = if isSigned n then some (n : Int) else none := by
  have hfilter : (some (Int.ofNat n)).filter isSigned = if isSigned n then some (n : Int) else none :=
    Option.filter_some ..
  cases h with
  | plus h =>
    rw [readSigned?]
    simp only [h, Option.map_some]
    exact hfilter
  | plain h =>
    rw [readSigned?.eq_def]
    split
    · rw [readDigits?_plus] at h
      cases h
    · have hminus := (digits_of_readDigits? h).2 '-' (List.mem_cons_self ..)
      exact absurd hminus (by decide)
    · simp only [h, Option.map_some]
      exact hfilter

theorem eq_of_readSigned?_intText {i j : Int} (h : readSigned? (intText i).toList = some j) : j = i := by
  cases i with
  | ofNat n =>
    have hread := readSigned?_of_whole (whole_natText n)
    rw [show (intText (Int.ofNat n)).toList = (natText n).toList from rfl, hread] at h
    split at h
    · exact (Option.some.inj h).symm
    · cases h
  | negSucc n =>
    have hdigits : readDigits? (natText (n + 1)).toList = some (n + 1) := by
      rw [natText, String.toList_ofList]
      exact readDigits?_toDigits (n + 1)
    have htext : (intText (Int.negSucc n)).toList = '-' :: (natText (n + 1)).toList := by
      rw [intText, String.toList_append]
      rfl
    rw [htext] at h
    have hread := (Option.filter_eq_some_iff.1 h).1
    simp only [hdigits, Option.map_some, Option.some.injEq] at hread
    exact hread.symm

theorem Binary64.exists_notDigit_text (x : Binary64) : ∃ c ∈ x.text.toList, c = '.' ∨ c = 'e' := by
  rw [text, String.toList_ofList]
  dsimp only
  generalize hbody : (if x.isZero = true then ['0', '.', '0'] else _) = body
  have hpoint : ∃ c ∈ body, c = '.' ∨ c = 'e' := by
    rw [← hbody]
    split
    · exact ⟨'.', by simp, .inl rfl⟩
    · split
      · split
        · exact ⟨'.', by simp, .inl rfl⟩
        · split
          · exact ⟨'.', by simp, .inl rfl⟩
          · exact ⟨'.', by simp, .inl rfl⟩
      · exact ⟨'e', by simp, .inr rfl⟩
  obtain ⟨c, hc, h⟩ := hpoint
  refine ⟨c, ?_, h⟩
  split
  · exact List.mem_cons_of_mem _ hc
  · exact hc

theorem mem_of_readSigned? {i : Int} (h : readSigned? cs = some i) :
    ∀ c ∈ cs, c.isDigit = true ∨ c = '+' ∨ c = '-' := by
  have hread := (Option.filter_eq_some_iff.1 h).1
  have hdigits : ∀ {ds : List Char} {f : Nat → Int}, (readDigits? ds).map f = some i → ∀ c ∈ ds, c.isDigit = true := by
    intro ds f hds
    obtain ⟨n, hn, -⟩ := Option.map_eq_some_iff.1 hds
    exact (digits_of_readDigits? hn).2
  intro c hc
  split at hread
  · rcases List.mem_cons.1 hc with rfl | hc
    · exact .inr (.inl rfl)
    · exact .inl (hdigits hread c hc)
  · rcases List.mem_cons.1 hc with rfl | hc
    · exact .inr (.inr rfl)
    · exact .inl (hdigits hread c hc)
  · exact .inl (hdigits hread c hc)

theorem readSigned?_text (x : Binary64) : readSigned? x.text.toList = none := by
  rw [Option.eq_none_iff_forall_ne_some]
  intro i hi
  obtain ⟨c, hc, h⟩ := x.exists_notDigit_text
  have hc := mem_of_readSigned? hi c hc
  rcases h with rfl | rfl
  · exact absurd hc (by decide)
  · exact absurd hc (by decide)

end Decimal

end Shipshape
