import Mathlib.Data.List.Forall2

/-!
# Results of computations that may fail

Inversion of sequences: where a sequence returned, every part of it did.
-/

namespace Shipshape.Result

variable {ε α β : Type}

theorem bind_eq_ok {x : Except ε α} {f : α → Except ε β} {b : β} :
    (x >>= f) = .ok b ↔ ∃ a, x = .ok a ∧ f a = .ok b := by
  cases x with
  | error e =>
    constructor
    · rintro ⟨⟩
    · rintro ⟨a, ⟨⟩, _⟩
  | ok a =>
    constructor
    · intro h
      exact ⟨a, rfl, h⟩
    · rintro ⟨_, ⟨⟩, h⟩
      exact h

theorem bind_eq_error {x : Except ε α} {f : α → Except ε β} {e : ε} :
    (x >>= f) = .error e ↔ x = .error e ∨ ∃ a, x = .ok a ∧ f a = .error e := by
  cases x with
  | error e' =>
    constructor
    · rintro ⟨⟩
      exact .inl rfl
    · rintro (⟨⟨⟩⟩ | ⟨a, ⟨⟩, _⟩)
      rfl
  | ok a =>
    constructor
    · intro h
      exact .inr ⟨a, rfl, h⟩
    · rintro (⟨⟨⟩⟩ | ⟨_, ⟨⟩, h⟩)
      exact h

theorem exists_bind_pure_iff {x : Except ε α} {f : α → β} :
    (∃ b, (x >>= fun a => pure (f a)) = .ok b) ↔ ∃ a, x = .ok a := by
  cases x with
  | error e => exact iff_of_false nofun nofun
  | ok a => exact iff_of_true ⟨f a, rfl⟩ ⟨a, rfl⟩

theorem exists_of_discard {x : Except ε α} {u : Unit} (h : discard x = .ok u) : ∃ a, x = .ok a := by
  cases x with
  | error e => cases h
  | ok a => exact ⟨a, rfl⟩

theorem map_eq_ok {x : Except ε α} {f : α → β} {b : β} : x.map f = .ok b ↔ ∃ a, x = .ok a ∧ f a = b := by
  cases x with
  | error e => exact iff_of_false nofun nofun
  | ok a =>
    constructor
    · intro h
      exact ⟨a, rfl, Except.ok.inj h⟩
    · rintro ⟨a', ha, rfl⟩
      rw [Except.ok.inj ha]
      rfl

theorem toOption_eq_some_iff {x : Except ε α} {a : α} : x.toOption = some a ↔ x = .ok a := by
  rcases x with e | a'
  · exact iff_of_false nofun nofun
  · exact Option.some_inj.trans (Except.ok.injEq a' a).symm.to_iff

theorem toOption_bind (x : Except ε α) (f : α → Except ε β) :
    (x >>= f).toOption = x.toOption.bind fun a => (f a).toOption := by
  rcases x with e | a
  · rfl
  · rfl

theorem cases_of_map_eq {γ : Type} {x : Except ε α} {y : Except ε β} {f : α → γ} {g : β → γ}
    (h : x.map f = y.map g) :
    (∃ e, x = .error e ∧ y = .error e) ∨ ∃ a b, x = .ok a ∧ y = .ok b ∧ f a = g b := by
  rcases x with e | a
  · rcases y with e' | b
    · exact .inl ⟨e, rfl, congrArg Except.error (Except.error.inj h).symm⟩
    · cases h
  · rcases y with e' | b
    · cases h
    · exact .inr ⟨a, b, rfl, rfl, Except.ok.inj h⟩

/-! ### Options -/

theorem mapM_some_eq_ok {f : α → Except ε β} {a : α} {y : Option β} :
    (some a).mapM f = .ok y ↔ ∃ b, f a = .ok b ∧ some b = y := by
  have hmap : (some a).mapM f = (f a).map some := rfl
  rw [hmap, map_eq_ok]

theorem exists_mapM_option_iff {f : α → Except ε β} {x : Option α} :
    (∃ y, x.mapM f = .ok y) ↔ ∀ a ∈ x, ∃ b, f a = .ok b := by
  cases x with
  | none => exact iff_of_true ⟨none, rfl⟩ nofun
  | some a =>
    simp only [mapM_some_eq_ok, Option.mem_def, Option.some.injEq, forall_eq']
    constructor
    · rintro ⟨y, b, hb, -⟩
      exact ⟨b, hb⟩
    · rintro ⟨b, hb⟩
      exact ⟨some b, b, hb, rfl⟩

theorem isSome_of_mapM_option {f : α → Except ε β} {x : Option α} {y : Option β} (h : x.mapM f = .ok y) :
    y.isSome = x.isSome := by
  cases x with
  | none =>
    rw [← Except.ok.inj h]
    rfl
  | some a =>
    obtain ⟨b, -, rfl⟩ := mapM_some_eq_ok.1 h
    rfl

theorem mapM_option_eq (f : α → Option β) (l : List α) :
    l.mapM f = if l.all fun a => (f a).isSome then some (l.filterMap f) else none := by
  induction l with
  | nil => rfl
  | cons a l ih =>
    rw [List.mapM_cons, ih, List.all_cons]
    cases ha : f a with
    | none => rfl
    | some b =>
      rw [Option.isSome_some, Bool.true_and, List.filterMap_cons_some ha]
      split
      · rfl
      · rfl

/-! ### Lists -/

variable {f : α → Except ε β} {l : List α}

theorem mapM_eq_ok {bs : List β} : l.mapM f = .ok bs ↔ List.Forall₂ (fun a b => f a = .ok b) l bs := by
  induction l generalizing bs with
  | nil =>
    rw [List.mapM_nil, List.forall₂_nil_left_iff]
    constructor
    · rintro ⟨⟩
      rfl
    · rintro rfl
      rfl
  | cons a l ih =>
    rw [List.mapM_cons, bind_eq_ok, List.forall₂_cons_left_iff]
    constructor
    · rintro ⟨b, hb, h⟩
      obtain ⟨bs', hbs', h⟩ := bind_eq_ok.1 h
      injection h with h
      exact ⟨b, bs', hb, ih.1 hbs', h.symm⟩
    · rintro ⟨b, bs', hb, hbs', rfl⟩
      exact ⟨b, hb, bind_eq_ok.2 ⟨bs', ih.2 hbs', rfl⟩⟩

theorem exists_of_mapM {bs : List β} (h : l.mapM f = .ok bs) {a : α} (ha : a ∈ l) :
    ∃ b ∈ bs, f a = .ok b := by
  have hforall := mapM_eq_ok.1 h
  induction hforall with
  | nil => cases ha
  | cons hb hforall ih =>
    rcases List.mem_cons.1 ha with rfl | ha
    · exact ⟨_, List.mem_cons_self .., hb⟩
    · obtain ⟨b, hmem, hb⟩ := ih (mapM_eq_ok.2 hforall) ha
      exact ⟨b, List.mem_cons_of_mem _ hmem, hb⟩

theorem exists_of_mem_mapM {bs : List β} (h : l.mapM f = .ok bs) {b : β} (hb : b ∈ bs) :
    ∃ a ∈ l, f a = .ok b := by
  have hforall := mapM_eq_ok.1 h
  induction hforall with
  | nil => cases hb
  | cons ha hforall ih =>
    rcases List.mem_cons.1 hb with rfl | hb
    · exact ⟨_, List.mem_cons_self .., ha⟩
    · obtain ⟨a, hmem, ha⟩ := ih (mapM_eq_ok.2 hforall) hb
      exact ⟨a, List.mem_cons_of_mem _ hmem, ha⟩

theorem mapM_eq_error {e : ε} (h : l.mapM f = .error e) : ∃ a ∈ l, f a = .error e := by
  induction l with
  | nil => cases h
  | cons a l ih =>
    rw [List.mapM_cons, bind_eq_error] at h
    rcases h with h | ⟨b, -, h⟩
    · exact ⟨a, List.mem_cons_self .., h⟩
    · rcases bind_eq_error.1 h with h | ⟨bs, -, ⟨⟩⟩
      obtain ⟨a', ha', h'⟩ := ih h
      exact ⟨a', List.mem_cons_of_mem _ ha', h'⟩

theorem exists_mapM_iff : (∃ bs, l.mapM f = .ok bs) ↔ ∀ a ∈ l, ∃ b, f a = .ok b := by
  constructor
  · rintro ⟨bs, h⟩ a ha
    obtain ⟨b, -, hb⟩ := exists_of_mapM h ha
    exact ⟨b, hb⟩
  · intro h
    rcases hmap : l.mapM f with e | bs
    · obtain ⟨a, ha, he⟩ := mapM_eq_error hmap
      obtain ⟨b, hb⟩ := h a ha
      rw [hb] at he
      cases he
    · exact ⟨bs, rfl⟩

theorem map_mapM {γ : Type} (f : α → Except ε β) (g : β → γ) (l : List α) :
    (l.mapM f).map (List.map g) = (l.map fun a => (f a).map g).mapM id := by
  induction l with
  | nil => rfl
  | cons a l ih =>
    rw [List.mapM_cons, List.map_cons, List.mapM_cons, ← ih]
    rcases f a with e | b
    · rfl
    · rcases l.mapM f with e | bs
      · rfl
      · rfl

end Shipshape.Result
