import Shipshape.Drift.Comparator
import Shipshape.Proofs.Drift.Rule.Dimensions
import Shipshape.Proofs.Json
import Shipshape.Proofs.Result

/-!
# Comparisons as a whole

A comparison succeeds if every attribute can be looked at, and its drift has the attributes that differ
(`exists_compare_iff`, `mem_keys_of_compare`).

Proof outline. Looking at one attribute adds it to the keys of the drift or leaves them
(`lookAt_eq_ok`); the rest is an induction on the list of attributes.
-/

namespace Shipshape

namespace Drift

theorem entries_push (d : Drift) (e : DriftEntry) : (d.push e).entries = d.entries ++ [e] := by
  unfold push
  split
  · rfl
  · rfl

theorem keys_push (d : Drift) (e : DriftEntry) : (d.push e).keys = d.keys ++ [e.key] := by
  rw [keys, entries_push, List.map_append]
  rfl

theorem changed_iff {d : Drift} : d.changed = true ↔ ∃ a, a ∈ d.keys := by
  rw [changed, keys]
  cases d.entries with
  | nil => simp
  | cons e es => simp

end Drift

/-- What a specification needs in order to be compared at all. -/
structure Spec.Valid (s : Spec) : Prop where
  dimensions : Dimension.validate s.dimensions = .ok ()
  healthcheck : ∃ h, Healthcheck.ofDeclared s.healthcheck = .ok h
  environment : ∀ env, s.environment = some env → ∃ d, Environment.ofDeclared env = .ok d
  volumes : ∃ vs, Volume.setOfDeclared s.volumes = .ok vs

theorem Spec.valid_of_validate {s : Spec} (h : s.validate = .ok ()) : s.Valid := by
  obtain ⟨_, hd, h⟩ := Result.bind_eq_ok.1 h
  obtain ⟨_, hh, h⟩ := Result.bind_eq_ok.1 h
  have hhealth : ∃ x, Healthcheck.ofDeclared s.healthcheck = .ok x := Result.exists_of_discard hh
  cases henv : s.environment with
  | none =>
    rw [henv] at h
    have hvolumes : ∃ vs, Volume.setOfDeclared s.volumes = .ok vs := Result.exists_of_discard h
    exact ⟨hd, hhealth, fun env he => by simp [henv] at he, hvolumes⟩
  | some env =>
    rw [henv] at h
    obtain ⟨_, he, h⟩ := Result.bind_eq_ok.1 h
    have hdeclared : ∃ d, Environment.ofDeclared env = .ok d := Result.exists_of_discard he
    have hvolumes : ∃ vs, Volume.setOfDeclared s.volumes = .ok vs := Result.exists_of_discard h
    refine ⟨hd, hhealth, fun env' he' => ?_, hvolumes⟩
    rw [henv] at he'
    injection he' with he'
    rwa [← he']

namespace Comparator

variable {c : Comparison} {d d' : Drift × List Note}

/-! ### One attribute after the other -/

theorem lookAt_eq_ok {a : Attribute} (h : lookAt c d a = .ok d') :
    (∃ b, c.differs a = .ok b) ∧
      ∀ x, x ∈ d'.1.keys ↔ x ∈ d.1.keys ∨ x = a ∧ c.differs a = .ok true := by
  obtain ⟨b, hb, h⟩ := Result.bind_eq_ok.1 h
  refine ⟨⟨b, hb⟩, fun x => ?_⟩
  cases b with
  | true =>
    injection h with h
    rw [← h, Drift.keys_push, hb]
    simp
  | false =>
    injection h with h
    rw [← h, hb]
    simp

theorem lookAt_needsRecreate {a : Attribute} (h : lookAt c d a = .ok d')
    (hd : d.1.needsRecreate = true → .user ∈ d.1.keys) :
    d'.1.needsRecreate = true → .user ∈ d'.1.keys := by
  obtain ⟨b, -, h⟩ := Result.bind_eq_ok.1 h
  cases b with
  | false =>
    injection h with h
    rwa [← h]
  | true =>
    injection h with h
    rw [← h, Drift.keys_push]
    by_cases ha : a = .user
    · simp [ha]
    · intro hneeds
      rw [Drift.push, if_neg ha] at hneeds
      exact List.mem_append_left _ (hd hneeds)

theorem foldlM_lookAt_needsRecreate {l : List Attribute} (h : l.foldlM (lookAt c) d = .ok d')
    (hd : d.1.needsRecreate = true → .user ∈ d.1.keys) :
    d'.1.needsRecreate = true → .user ∈ d'.1.keys := by
  induction l generalizing d with
  | nil =>
    injection h with h
    rwa [← h]
  | cons a l ih =>
    rw [List.foldlM_cons] at h
    obtain ⟨d₁, h₁, h⟩ := Result.bind_eq_ok.1 h
    exact ih h (lookAt_needsRecreate h₁ hd)

theorem lookAt_of_ok {a : Attribute} {b : Bool} (h : c.differs a = .ok b) :
    ∃ d', lookAt c d a = .ok d' := by
  rw [lookAt, h]
  cases b with
  | true => exact ⟨_, rfl⟩
  | false => exact ⟨_, rfl⟩

theorem foldlM_lookAt_eq_ok {l : List Attribute} (h : l.foldlM (lookAt c) d = .ok d') :
    (∀ a ∈ l, ∃ b, c.differs a = .ok b) ∧
      ∀ x, x ∈ d'.1.keys ↔ x ∈ d.1.keys ∨ x ∈ l ∧ c.differs x = .ok true := by
  induction l generalizing d with
  | nil =>
    injection h with h
    subst h
    simp
  | cons a l ih =>
    rw [List.foldlM_cons] at h
    obtain ⟨d₁, h₁, h⟩ := Result.bind_eq_ok.1 h
    obtain ⟨ha, hkeys₁⟩ := lookAt_eq_ok h₁
    obtain ⟨hl, hkeys⟩ := ih h
    refine ⟨?_, fun x => ?_⟩
    · intro x hx
      rcases List.mem_cons.1 hx with rfl | hx
      · exact ha
      · exact hl x hx
    · rw [hkeys, hkeys₁, List.mem_cons]
      constructor
      · rintro ((hx | ⟨rfl, hx⟩) | ⟨hx, hd⟩)
        · exact .inl hx
        · exact .inr ⟨.inl rfl, hx⟩
        · exact .inr ⟨.inr hx, hd⟩
      · rintro (hx | ⟨rfl | hx, hd⟩)
        · exact .inl (.inl hx)
        · exact .inl (.inr ⟨rfl, hd⟩)
        · exact .inr ⟨hx, hd⟩

theorem foldlM_lookAt_of_ok {l : List Attribute} (h : ∀ a ∈ l, ∃ b, c.differs a = .ok b) :
    ∃ d', l.foldlM (lookAt c) d = .ok d' := by
  induction l generalizing d with
  | nil => exact ⟨d, rfl⟩
  | cons a l ih =>
    obtain ⟨b, hb⟩ := h a (by simp)
    obtain ⟨d₁, h₁⟩ := lookAt_of_ok (d := d) hb
    obtain ⟨d', h'⟩ := ih (d := d₁) fun x hx => h x (List.mem_cons_of_mem _ hx)
    rw [List.foldlM_cons]
    exact ⟨d', Result.bind_eq_ok.2 ⟨d₁, h₁, h'⟩⟩

theorem foldlM_lookAt_error {l₁ l₂ : List Attribute} {a : Attribute} {e : Error}
    (h₁ : ∀ x ∈ l₁, ∃ b, c.differs x = .ok b) (ha : c.differs a = .error e) :
    (l₁ ++ a :: l₂).foldlM (lookAt c) d = .error e := by
  obtain ⟨d₁, hd₁⟩ := foldlM_lookAt_of_ok (d := d) h₁
  have hlook : lookAt c d₁ a = .error e := by
    rw [lookAt, ha]
    rfl
  rw [List.foldlM_append]
  refine Result.bind_eq_error.2 (.inr ⟨d₁, hd₁, ?_⟩)
  rw [List.foldlM_cons]
  exact Result.bind_eq_error.2 (.inl hlook)

theorem foldlM_lookAt_same {l : List Attribute} (h : ∀ a ∈ l, c.differs a = .ok false) :
    ∃ notes, l.foldlM (lookAt c) d = .ok (d.1, notes) := by
  induction l generalizing d with
  | nil => exact ⟨d.2, rfl⟩
  | cons a l ih =>
    have ha : lookAt c d a = .ok (d.1, d.2 ++ [.detail (a.name ++ " matches")]) := by
      rw [lookAt, h a (by simp)]
      rfl
    rw [List.foldlM_cons]
    obtain ⟨notes, hl⟩ := ih (d := (d.1, d.2 ++ [.detail (a.name ++ " matches")]))
      fun x hx => h x (List.mem_cons_of_mem _ hx)
    exact ⟨notes, Result.bind_eq_ok.2 ⟨_, ha, hl⟩⟩

theorem lookAt_congr {c' : Comparison} {a : Attribute} (hdiffers : c.differs a = c'.differs a)
    (hsnapshot : c.differs a = .ok true → c.snapshot a = c'.snapshot a) : lookAt c d a = lookAt c' d a := by
  unfold lookAt
  rw [← hdiffers]
  rcases hb : c.differs a with e | b
  · rfl
  · cases b with
    | false => rfl
    | true => rw [hsnapshot hb]

theorem foldlM_lookAt_congr {c' : Comparison} (hdiffers : ∀ a, c.differs a = c'.differs a)
    (hsnapshot : ∀ a, c.differs a = .ok true → c.snapshot a = c'.snapshot a) (l : List Attribute) :
    l.foldlM (lookAt c) d = l.foldlM (lookAt c') d := by
  have hstep : lookAt c = lookAt c' :=
    funext fun d => funext fun a => lookAt_congr (hdiffers a) (hsnapshot a)
  rw [hstep]

theorem toOption_lookAt_congr {c' : Comparison} {a : Attribute}
    (hdiffers : (c.differs a).toOption = (c'.differs a).toOption)
    (hsnapshot : c.differs a = .ok true → c.snapshot a = c'.snapshot a) :
    (lookAt c d a).toOption = (lookAt c' d a).toOption := by
  unfold lookAt
  rw [Result.toOption_bind, Result.toOption_bind, ← hdiffers]
  rcases hb : c.differs a with e | b
  · rfl
  · cases b with
    | false => rfl
    | true =>
      simp only [hsnapshot hb]

theorem toOption_foldlM_lookAt_congr {c' : Comparison}
    (hdiffers : ∀ a, (c.differs a).toOption = (c'.differs a).toOption)
    (hsnapshot : ∀ a, c.differs a = .ok true → c.snapshot a = c'.snapshot a) (l : List Attribute) :
    (l.foldlM (lookAt c) d).toOption = (l.foldlM (lookAt c') d).toOption := by
  induction l generalizing d with
  | nil => rfl
  | cons a l ih =>
    rw [List.foldlM_cons, List.foldlM_cons, Result.toOption_bind, Result.toOption_bind,
      toOption_lookAt_congr (hdiffers a) (hsnapshot a)]
    exact congrArg _ (funext fun d₁ => ih)

/-! ### The whole comparison -/

variable {c : Comparator} {s : Spec} {live : Inspection} {image : Option Image}

theorem exists_compare_iff :
    (∃ d, c.compare s live image = .ok d) ↔
      s.validate = .ok () ∧ ∀ a, ∃ b, (c.beside s live image).differs a = .ok b := by
  constructor
  · rintro ⟨d, h⟩
    obtain ⟨_, hv, h⟩ := Result.bind_eq_ok.1 h
    exact ⟨hv, fun a => (foldlM_lookAt_eq_ok h).1 a (Attribute.mem_all a)⟩
  · rintro ⟨hv, h⟩
    obtain ⟨d, hd⟩ := foldlM_lookAt_of_ok (d := ({}, [])) fun a (_ : a ∈ Attribute.all) => h a
    exact ⟨d, Result.bind_eq_ok.2 ⟨(), hv, hd⟩⟩

/-- The drift has exactly the attributes that differ. -/
theorem mem_keys_of_compare {d : Drift × List Note} (h : c.compare s live image = .ok d)
    (a : Attribute) : a ∈ d.1.keys ↔ (c.beside s live image).differs a = .ok true := by
  obtain ⟨_, -, h⟩ := Result.bind_eq_ok.1 h
  rw [(foldlM_lookAt_eq_ok h).2 a]
  simp [Drift.keys, Attribute.mem_all]

theorem user_of_needsRecreate {d : Drift × List Note} (h : c.compare s live image = .ok d)
    (hneeds : d.1.needsRecreate = true) : .user ∈ d.1.keys := by
  obtain ⟨_, -, h⟩ := Result.bind_eq_ok.1 h
  exact foldlM_lookAt_needsRecreate h nofun hneeds

theorem compare_of_same (hv : s.validate = .ok ())
    (h : ∀ a, (c.beside s live image).differs a = .ok false) :
    ∃ notes, c.compare s live image = .ok ({}, notes) := by
  obtain ⟨notes, hl⟩ := foldlM_lookAt_same (d := ({}, [])) fun a (_ : a ∈ Attribute.all) => h a
  exact ⟨notes, Result.bind_eq_ok.2 ⟨(), hv, hl⟩⟩

end Comparator

end Shipshape
