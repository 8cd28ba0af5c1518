import Shipshape.Proofs.Drift.Rule.Absent
import Shipshape.Proofs.Drift.Rule.Ulimits

/-!
# Limits that the host manages

Declared ulimits are compared with the live ones as a whole, after the live number of processes was carried over to
a declaration that leaves it open. So all ulimits count under every name but that one, which counts if it was declared
(`ulimits_agree_iff`), and the order in which an engine lists ulimits of different names does not count at all.

Proof outline. What is carried over is seen by looking names up (`get?_carryHostManaged`), and names on both sides are
canonical. A list whose names are all different makes the same dictionary in every order (`ofLive_of_perm`).
-/

namespace Shipshape

namespace Ulimits

variable {us live : Ulimits} {items items' : List Json}

/-- The live limits are the declared ones: every name, however it is spelled, has the same limits on both sides or
none on either, and the number of processes has the limits that were declared for it, if any were. -/
structure Agree (us live : Ulimits) : Prop where
  others : ∀ name, canonicalName name ≠ "nproc" →
    us.get? (canonicalName name) = live.get? (canonicalName name)
  processes : ∀ limits, us.get? "nproc" = some limits → live.get? "nproc" = some limits

def CanonicalNames (us : Ulimits) : Prop := ∀ k ∈ us.keys, ∃ name, k = canonicalName name

theorem Declared.canonicalNames (h : Declared us) : CanonicalNames us := by
  intro k hk
  obtain ⟨e, he, rfl⟩ := List.mem_map.1 hk
  exact h.names e he

def recordNames (records : List UlimitRecord) : List String := records.map fun r => canonicalName r.name

theorem map_fst_entries (records : List UlimitRecord) :
    (records.map fun r => (canonicalName r.name, (⟨r.soft, r.hard⟩ : LimitPair))).map Prod.fst =
      recordNames records := by
  simp only [recordNames, List.map_map, Function.comp_def]

theorem mem_keys_ofRecords {records : List UlimitRecord} {k : String} :
    k ∈ (ofRecords records).keys ↔ k ∈ recordNames records := by
  rw [ofRecords, Dict.mem_keys_ofList, map_fst_entries]

theorem canonicalNames_ofRecords (records : List UlimitRecord) : CanonicalNames (ofRecords records) := by
  intro k hk
  obtain ⟨r, -, hr⟩ := List.mem_map.1 (mem_keys_ofRecords.1 hk)
  exact ⟨r.name, hr.symm⟩

theorem ofLive_arr (items : List Json) : ofLive (some (.arr items)) =
    if items.all fun item => (UlimitRecord.ofJson? item).isSome then
      .ok (ofRecords (items.filterMap UlimitRecord.ofJson?))
    else .error .unreadableUlimits := by
  have hlist : Json.list? UlimitRecord.ofJson? (.arr items) = items.mapM UlimitRecord.ofJson? := rfl
  rw [ofLive]
  · rw [hlist, Result.mapM_option_eq]
    by_cases hall : (items.all fun item => (UlimitRecord.ofJson? item).isSome) = true
    · rw [if_pos hall, if_pos hall]
      rfl
    · rw [if_neg hall, if_neg hall]
  · intro h
    cases h

theorem canonicalNames_ofLive {w : Option Json} (h : ofLive w = .ok live) : CanonicalNames live := by
  unfold ofLive at h
  split at h
  · rw [← Except.ok.inj h]
    nofun
  · rw [← Except.ok.inj h]
    nofun
  · split at h
    · next records _ =>
      rw [← Except.ok.inj h]
      exact canonicalNames_ofRecords records
    · cases h

/-! ### What is compared -/

theorem get?_eq_none_of_canonicalNames (h : CanonicalNames us) {k : String} (hk : ¬ ∃ name, k = canonicalName name) :
    us.get? k = none :=
  Dict.get?_eq_none_iff.2 fun hmem => hk (h k hmem)

/-- Limits under canonical names agree exactly if nothing is left to tell them apart once the live number of processes
was carried over. -/
theorem carryHostManaged_eq_iff (hnames : CanonicalNames us)
    (hlive_names : CanonicalNames live) : us.carryHostManaged live = live ↔ us.Agree live := by
  constructor
  · intro hsame
    have hget : ∀ k, (us.get? k).or (if k = "nproc" then live.get? "nproc" else none) = live.get? k := by
      intro k
      rw [← get?_carryHostManaged, hsame]
    refine ⟨fun name hname => ?_, fun limits hlimits => ?_⟩
    · have hothers := hget (canonicalName name)
      rwa [if_neg hname, Option.or_none] at hothers
    · have hprocesses := hget "nproc"
      rw [hlimits, Option.some_or] at hprocesses
      exact hprocesses.symm
  · rintro ⟨hothers, hprocesses⟩
    ext k : 1
    rw [get?_carryHostManaged]
    by_cases hk : k = "nproc"
    · rw [if_pos hk, hk]
      cases hlimits : us.get? "nproc" with
      | none => rw [Option.none_or]
      | some limits => rw [hprocesses limits hlimits, Option.some_or]
    · rw [if_neg hk, Option.or_none]
      by_cases hcanonical : ∃ name, k = canonicalName name
      · obtain ⟨name, hname⟩ := hcanonical
        rw [hname] at hk ⊢
        exact hothers name hk
      · rw [get?_eq_none_of_canonicalNames hnames hcanonical, get?_eq_none_of_canonicalNames hlive_names hcanonical]

/-! ### The order of a list -/

def DistinctNames (items : List Json) : Prop := (recordNames (items.filterMap UlimitRecord.ofJson?)).Nodup

theorem ofRecords_of_perm {records records' : List UlimitRecord} (h : records.Perm records')
    (hdistinct : (recordNames records).Nodup) : ofRecords records' = ofRecords records := by
  refine Dict.ofList_eq_of_perm (h.map _).symm ?_
  rw [map_fst_entries]
  exact hdistinct

theorem ofLive_of_perm (h : items.Perm items') (hdistinct : DistinctNames items) :
    ofLive (some (.arr items')) = ofLive (some (.arr items)) := by
  have hall : (items'.all fun item => (UlimitRecord.ofJson? item).isSome) =
      items.all fun item => (UlimitRecord.ofJson? item).isSome := by
    rw [Bool.eq_iff_iff, List.all_eq_true, List.all_eq_true]
    exact forall_congr' fun item => by rw [h.mem_iff]
  rw [ofLive_arr, ofLive_arr, hall, ofRecords_of_perm (h.filterMap _) hdistinct]

end Ulimits

namespace Comparison

open Ulimits (DistinctNames)

variable {c c' : Comparison} {v : Json} {w : Option Json} {us live : Ulimits}

theorem ulimitsDiffer_eq (hus : Ulimits.ofDeclared v = .ok us)
    (hlive : Ulimits.ofLive (some (c.liveDimension "Ulimits")) = .ok live) :
    c.ulimitsDiffer v = .ok (us.carryHostManaged live != live) := by
  rw [ulimitsDiffer, hus, hlive]
  rfl

/-- Ulimits stand behind all other limits: they decide, if the comparison gets to them. -/
theorem dimensionsDiffer_of_reaches_ulimits (h : c.Reaches ("ulimits", "Ulimits")) :
    c.dimensionsDiffer = c.dimensionDiffers "ulimits" "Ulimits" := by
  obtain ⟨hno, -, before, after, hsplit, hbefore⟩ := h
  have hnot : (("ulimits", "Ulimits") : String × String) ∉ Create.limitFields := by decide
  obtain ⟨rfl, -, rfl⟩ := (List.append_cons_inj_of_notMem hnot List.not_mem_nil).1 (hostFields_eq.symm.trans hsplit)
  rw [dimensionsDiffer, hno, hostFields_eq, anyDimensionDiffers_append, anyDimensionDiffers_eq_ok_false.2 hbefore]
  show c.anyDimensionDiffers [("ulimits", "Ulimits")] = _
  rw [anyDimensionDiffers]
  rcases c.dimensionDiffers "ulimits" "Ulimits" with error | differs
  · rfl
  · cases differs with
    | true => rfl
    | false => rfl

/-- The same limits are declared and live, but the engine lists ulimits of different names in another order. -/
structure ListsReordered (c c' : Comparison) : Prop where
  dimensions : c'.spec.dimensions = c.spec.dimensions
  limits : ∀ e ∈ Create.limitFields, c'.liveDimension e.2 = c.liveDimension e.2
  ulimits : ∃ items items', c.liveDimension "Ulimits" = .arr items ∧ c'.liveDimension "Ulimits" = .arr items' ∧
    items.Perm items' ∧ DistinctNames items

theorem ulimitsDiffer_of_reordered (h : c.ListsReordered c') (v : Json) : c'.ulimitsDiffer v = c.ulimitsDiffer v := by
  obtain ⟨items, items', hitems, hitems', hperm, hdistinct⟩ := h.ulimits
  rw [ulimitsDiffer, ulimitsDiffer, hitems, hitems', Ulimits.ofLive_of_perm hperm hdistinct]

theorem dimensionsDiffer_of_reordered (h : c.ListsReordered c') : c'.dimensionsDiffer = c.dimensionsDiffer :=
  dimensionsDiffer_congr_ulimits h.dimensions h.limits (ulimitsDiffer_of_reordered h)

theorem listsReordered_reporting {items items' : List Json} (hlive : c.liveDimension "Ulimits" = .arr items)
    (hperm : items.Perm items') (hdistinct : DistinctNames items) :
    c.ListsReordered (c.reporting "Ulimits" (.arr items')) where
  dimensions := rfl
  limits e he := by rw [liveDimension_reporting_ulimits, if_neg (field_ne_ulimits_of_mem he)]
  ulimits := ⟨items, items', hlive, by rw [liveDimension_reporting_ulimits, if_pos rfl], hperm, hdistinct⟩

/-- Declared and live ulimits are the same, once the live number of processes was carried over, exactly if they agree.
Where the comparison gets to the ulimits, this is what it says; and it says the same of a list in another order, if
its names are all different. -/
theorem ulimits_agree_iff (hus : Ulimits.ofDeclared v = .ok us) (hlive : Ulimits.ofLive w = .ok live) :
    (us.carryHostManaged live = live ↔ us.Agree live) ∧
    (∀ c : Comparison, c.spec.dimensions.get? "ulimits" = some v → w = some (c.liveDimension "Ulimits") →
      c.Reaches ("ulimits", "Ulimits") →
        ∃ differs, c.dimensionsDiffer = .ok differs ∧ (differs = false ↔ us.Agree live)) ∧
    (∀ items items', w = some (.arr items) → items.Perm items' → DistinctNames items →
      Ulimits.ofLive (some (.arr items')) = .ok live) ∧
    ∀ c c' : Comparison, c.ListsReordered c' → c'.dimensionsDiffer = c.dimensionsDiffer := by
  have hdeclared := Ulimits.declared_of_ofDeclared hus
  have hagree : us.carryHostManaged live = live ↔ us.Agree live :=
    Ulimits.carryHostManaged_eq_iff hdeclared.canonicalNames (Ulimits.canonicalNames_ofLive hlive)
  refine ⟨hagree, ?_, ?_, fun c c' => dimensionsDiffer_of_reordered⟩
  · rintro c hv rfl hreaches
    refine ⟨us.carryHostManaged live != live, ?_, ?_⟩
    · rw [dimensionsDiffer_of_reaches_ulimits hreaches, dimensionDiffers_ulimits hv, ulimitsDiffer_eq hus hlive]
    · rw [bne_eq_false_iff_eq]
      exact hagree
  · rintro items items' rfl hperm hdistinct
    rw [Ulimits.ofLive_of_perm hperm hdistinct, hlive]

/-- Files are limited as declared, in the kernel's spelling; the number of processes is the host's, and the engine
lists it before them or behind them. -/
theorem ulimits_agree_iff_processes :
    let v : Json := .ofFields [("nofile", .ofFields [("soft", .int 1024), ("hard", .str "4096")])]
    let files : Json := UlimitRecord.toJson ⟨"RLIMIT_NOFILE", 1024, 4096⟩
    let processes : Json := UlimitRecord.toJson ⟨"RLIMIT_NPROC", 4194304, 4194304⟩
    let us : Ulimits := .ofList [("nofile", ⟨1024, 4096⟩)]
    let live : Ulimits := .ofList [("nofile", ⟨1024, 4096⟩), ("nproc", ⟨4194304, 4194304⟩)]
    let c : Comparison := ⟨{ dimensions := .ofList [("ulimits", v)] },
      ⟨.ofFields [("HostConfig", .ofFields [("Ulimits", .arr [processes, files])])]⟩, none, .docker, .path⟩
    Ulimits.ofDeclared v = .ok us ∧ Ulimits.ofLive (some (.arr [processes, files])) = .ok live ∧
    us.Agree live ∧ c.dimensionsDiffer = .ok false ∧
    (c.reporting "Ulimits" (.arr [files, processes])).dimensionsDiffer = .ok false := by
  intro v files processes us live c
  have hus : Ulimits.ofDeclared v = .ok us := by decide +kernel
  have hlive : Ulimits.ofLive (some (.arr [processes, files])) = .ok live := by decide +kernel
  have hreaches : c.Reaches ("ulimits", "Ulimits") :=
    ⟨by decide +kernel, rfl, Create.limitFields, [], hostFields_eq, by decide +kernel⟩
  have hdistinct : (Ulimits.recordNames ([processes, files].filterMap UlimitRecord.ofJson?)).Nodup := by
    decide +kernel
  obtain ⟨hagree, hverdict, -, horder⟩ := ulimits_agree_iff hus hlive
  have hsame : us.Agree live := hagree.1 (by decide +kernel)
  obtain ⟨differs, hdiffers, hfalse⟩ := hverdict c rfl rfl hreaches
  rw [hfalse.2 hsame] at hdiffers
  exact ⟨hus, hlive, hsame, hdiffers,
    (horder _ _ (listsReordered_reporting rfl (.swap ..) hdistinct)).trans hdiffers⟩

end Comparison

end Shipshape
