import Shipshape.Create.Request
import Shipshape.Proofs.Create.Request
import Shipshape.Proofs.Drift.Rule.Dimensions
import Shipshape.Proofs.Ulimit

/-!
# Ulimits of a new container

Docker is asked for ulimits by their canonical names, and Podman by the kernel's. What Podman reports is read back as
it was declared. So is what Docker reports, unless a declared name is doubled: the canonical form is taken again when
the report is read, and it is another one then (`ulimits_read_back_iff`).

Proof outline. Live names are the canonical forms of the names that were asked for. If all names are among them, then
each of them is its own canonical form (`Declared.canonicalName_eq_of_subset`).
-/

namespace Shipshape

/-- The records by which an engine is asked for declared limits. -/
def Create.ulimitRecords (engine : EngineKind) (us : Ulimits) : List UlimitRecord :=
  match engine with
  | .docker => us.toRecords
  | .podman => us.toRecords.map Create.Podman.kernelUlimit

theorem Create.ulimitRecords_docker (us : Ulimits) : ulimitRecords .docker us = us.toRecords := rfl

theorem Create.exists_ulimitRecords {s : Spec} {r : ContainerRequest} {v : Json} (h : Create.request s = .ok r)
    (hv : s.dimensions.get? "ulimits" = some v) :
    ∃ us, Ulimits.ofDeclared v = .ok us ∧ r.ulimits = ulimitRecords s.engine us := by
  have hdeclared : ∀ {records}, Create.ulimits s = .ok records →
      ∃ us, Ulimits.ofDeclared v = .ok us ∧ us.toRecords = records := by
    intro records hrecords
    rw [Create.ulimits, hv] at hrecords
    obtain ⟨us, hus, hrecords⟩ := Result.bind_eq_ok.1 hrecords
    exact ⟨us, hus, Except.ok.inj hrecords⟩
  cases hengine : s.engine with
  | docker =>
    obtain ⟨us, hus, hrecords⟩ := hdeclared (Create.request_docker hengine h).ulimits
    exact ⟨us, hus, hrecords.symm⟩
  | podman =>
    obtain ⟨records, hrecords, hkernel⟩ := (Create.request_podman hengine h).ulimits
    obtain ⟨us, hus, rfl⟩ := hdeclared hrecords
    exact ⟨us, hus, hkernel⟩

namespace Ulimits

open Create (ulimitRecords)

variable {us : Ulimits}

/-- The limits of some records, under the canonical forms of their names. -/
def ofRecords (records : List UlimitRecord) : Ulimits :=
  .ofList (records.map fun r => (canonicalName r.name, ⟨r.soft, r.hard⟩))

theorem mem_keys_ofRecords_toRecords {k : String} :
    k ∈ (ofRecords us.toRecords).keys ↔ k ∈ us.keys.map canonicalName := by
  rw [ofRecords, Dict.mem_keys_ofList]
  simp only [Dict.keys, toRecords, List.map_map, Function.comp_def]

theorem canonicalName_eq_of_reported (hus : Declared us)
    (h : us.keys ⊆ (ofRecords us.toRecords).keys) : ∀ name ∈ us.keys, canonicalName name = name :=
  hus.canonicalName_eq_of_subset fun _ hname => mem_keys_ofRecords_toRecords.1 (h hname)

theorem ofRecords_toRecords (h : ∀ name ∈ us.keys, canonicalName name = name) :
    ofRecords us.toRecords = us := by
  have hmap : us.toRecords.map (fun r => (canonicalName r.name, (⟨r.soft, r.hard⟩ : LimitPair))) = us.entries := by
    rw [toRecords, List.map_map]
    refine (List.map_congr_left fun e he => ?_).trans (List.map_id us.entries)
    show (canonicalName e.1, e.2) = e
    rw [h e.1 (List.mem_map_of_mem he)]
  rw [ofRecords, hmap, Dict.ofList_entries]

theorem ofRecords_kernelUlimit (hus : Declared us) :
    ofRecords (us.toRecords.map Create.Podman.kernelUlimit) = us := by
  have hmap : (us.toRecords.map Create.Podman.kernelUlimit).map
      (fun r => (canonicalName r.name, (⟨r.soft, r.hard⟩ : LimitPair))) = us.entries := by
    rw [toRecords, List.map_map, List.map_map]
    refine (List.map_congr_left fun e he => ?_).trans (List.map_id us.entries)
    obtain ⟨name, hname⟩ := hus.names e he
    show (canonicalName (Create.Podman.kernelUlimit ⟨e.1, e.2.soft, e.2.hard⟩).name, e.2) = e
    rw [canonicalName_kernelUlimit hname]
  rw [ofRecords, hmap, Dict.ofList_entries]

theorem isSigned_ulimitRecords (hus : Declared us) (engine : EngineKind) :
    ∀ r ∈ ulimitRecords engine us, IsSigned ⟨r.soft, r.hard⟩ := by
  have hrecords : ∀ r ∈ us.toRecords, IsSigned ⟨r.soft, r.hard⟩ := by
    intro r hr
    obtain ⟨e, he, rfl⟩ := List.mem_map.1 hr
    exact hus.signed e he
  cases engine with
  | docker => exact hrecords
  | podman =>
    intro r hr
    obtain ⟨r', hr', rfl⟩ := List.mem_map.1 hr
    exact hrecords r' hr'

theorem ofLive_ulimitRecords (hus : Declared us) (engine : EngineKind) :
    ofLive (some (.arr ((ulimitRecords engine us).map UlimitRecord.toJson))) =
      .ok (ofRecords (ulimitRecords engine us)) := ofLive_records (isSigned_ulimitRecords hus engine)

theorem ofLive_ulimitRecords_iff (hus : Declared us) {engine : EngineKind} :
    ofLive (some (.arr ((ulimitRecords engine us).map UlimitRecord.toJson))) = .ok us ↔
      (engine = .docker → ∀ name ∈ us.keys, canonicalName name = name) := by
  rw [ofLive_ulimitRecords hus, Except.ok.injEq]
  cases engine with
  | docker =>
    constructor
    · rintro hsame -
      have hkeys : us.keys ⊆ (ofRecords us.toRecords).keys := by
        rw [← Create.ulimitRecords_docker, hsame]
        exact List.Subset.refl _
      exact canonicalName_eq_of_reported hus hkeys
    · intro hnames
      exact ofRecords_toRecords (hnames rfl)
  | podman => exact iff_of_true (ofRecords_kernelUlimit hus) nofun

theorem canonicalNames_iff {v : Json} (h : ofDeclared v = .ok us) :
    (∀ name ∈ us.keys, canonicalName name = name) ↔ ∀ name ∈ v.fields.keys, ¬ Doubled name := by
  constructor
  · intro hnames name hname
    exact canonicalName_canonicalName_iff.1 (hnames _ ((mem_keys_of_ofDeclared h).2 ⟨name, hname, rfl⟩))
  · intro hdoubled k hk
    obtain ⟨name, hname, rfl⟩ := (mem_keys_of_ofDeclared h).1 hk
    exact canonicalName_canonicalName_iff.2 (hdoubled name hname)

end Ulimits

namespace Comparison

open Create (ulimitRecords)

variable {c : Comparison} {v : Json} {us : Ulimits} {engine : EngineKind}

theorem ulimitsDiffer_of_reported (hus : Ulimits.ofDeclared v = .ok us)
    (hlive : c.liveDimension "Ulimits" = .arr ((ulimitRecords engine us).map UlimitRecord.toJson)) :
    c.ulimitsDiffer v = .ok false ↔ (engine = .docker → ∀ name ∈ us.keys, Ulimits.canonicalName name = name) := by
  have hdeclared := Ulimits.declared_of_ofDeclared hus
  have hdiffer : c.ulimitsDiffer v = .ok (us.carryHostManaged (Ulimits.ofRecords (ulimitRecords engine us)) !=
      Ulimits.ofRecords (ulimitRecords engine us)) := by
    rw [ulimitsDiffer, hus, hlive, Ulimits.ofLive_ulimitRecords hdeclared]
    rfl
  rw [hdiffer, Except.ok.injEq, bne_eq_false_iff_eq]
  constructor
  · rintro hsame rfl
    -- carrying limits over adds names but drops none, so all names are reported
    refine Ulimits.canonicalName_eq_of_reported hdeclared fun name hname => ?_
    rw [← Create.ulimitRecords_docker, ← hsame]
    exact Ulimits.mem_keys_carryHostManaged _ hname
  · intro hnames
    have hback := (Ulimits.ofLive_ulimitRecords_iff hdeclared).2 hnames
    rw [Ulimits.ofLive_ulimitRecords hdeclared, Except.ok.injEq] at hback
    rw [hback]
    exact Ulimits.carryHostManaged_self us

/-- What an engine reports of the ulimits it was asked for is read, and it is read as it was declared, and a container
that has these ulimits does not differ in them: with Podman always, and with Docker exactly if no declared name is
doubled. -/
theorem ulimits_read_back_iff (hus : Ulimits.ofDeclared v = .ok us) :
    (∀ engine, let reported := Ulimits.ofLive (some (.arr ((ulimitRecords engine us).map UlimitRecord.toJson)))
      (∃ live, reported = .ok live) ∧
        (reported = .ok us ↔ (engine = .docker → ∀ name ∈ v.fields.keys, ¬ Ulimits.Doubled name))) ∧
    ∀ s r, Create.request s = .ok r → s.dimensions.get? "ulimits" = some v →
      r.ulimits = ulimitRecords s.engine us ∧
      ∀ c : Comparison, c.spec = s →
        c.live.hostValue? "Ulimits" = some (.arr (r.ulimits.map UlimitRecord.toJson)) →
          (c.dimensionDiffers "ulimits" "Ulimits" = .ok false ↔
            (s.engine = .docker → ∀ name ∈ v.fields.keys, ¬ Ulimits.Doubled name)) := by
  have hdeclared := Ulimits.declared_of_ofDeclared hus
  refine ⟨fun engine => ⟨⟨_, Ulimits.ofLive_ulimitRecords hdeclared engine⟩, ?_⟩, fun s r h hv => ?_⟩
  · rw [← Ulimits.canonicalNames_iff hus]
    exact Ulimits.ofLive_ulimitRecords_iff hdeclared
  · obtain ⟨us', hus', hrecords⟩ := Create.exists_ulimitRecords h hv
    obtain rfl := Except.ok.inj (hus.symm.trans hus')
    refine ⟨hrecords, ?_⟩
    rintro c rfl hlive
    rw [hrecords] at hlive
    rw [dimensionDiffers_ulimits hv, ulimitsDiffer_of_reported hus (liveDimension_of_hostValue hlive),
      Ulimits.canonicalNames_iff hus]

/-- Names in capitals, with blanks around them, and in two spellings of which one counts. -/
theorem ulimits_read_back_iff_spellings :
    let v : Json := .ofFields [(" NProc ", .ofFields [("soft", .int 64)]),
      ("RLIMIT_NOFILE", .ofFields [("soft", .int 1024), ("hard", .str "unlimited")]),
      ("nofile", .ofFields [("hard", .str "4096")])]
    let us : Ulimits := .ofList [("nofile", ⟨4096, 4096⟩), ("nproc", ⟨64, 64⟩)]
    let s : Spec := { name := some "web", image := some "nginx", dimensions := .ofList [("ulimits", v)] }
    let c : Comparison := ⟨s, ⟨.ofFields [("HostConfig", .ofFields
      [("Ulimits", .arr (us.toRecords.map UlimitRecord.toJson))])]⟩, none, .docker, .path⟩
    Ulimits.ofDeclared v = .ok us ∧
    (∀ engine, Ulimits.ofLive (some (.arr ((ulimitRecords engine us).map UlimitRecord.toJson))) = .ok us) ∧
    (∃ r, Create.request s = .ok r ∧ r.ulimits = us.toRecords) ∧
    c.dimensionDiffers "ulimits" "Ulimits" = .ok false := by
  intro v us s c
  have hus : Ulimits.ofDeclared v = .ok us := by decide +kernel
  have hnames : ∀ name ∈ v.fields.keys, ¬ Ulimits.Doubled name := by
    have hcanonical : ∀ name ∈ v.fields.keys,
        Ulimits.canonicalName (Ulimits.canonicalName name) = Ulimits.canonicalName name := by decide +kernel
    exact fun name hname => Ulimits.canonicalName_canonicalName_iff.1 (hcanonical name hname)
  obtain ⟨hread, hcreated⟩ := ulimits_read_back_iff hus
  obtain ⟨r, hr⟩ : ∃ r, Create.request s = .ok r := ⟨_, rfl⟩
  obtain ⟨hrecords, hreported⟩ := hcreated s r hr rfl
  refine ⟨hus, fun engine => (hread engine).2.2 fun _ => hnames, ⟨r, hr, hrecords⟩, ?_⟩
  refine (hreported c rfl ?_).2 fun _ => hnames
  rw [hrecords]
  rfl

/-- Docker is asked for `rlimit_x`, and what it reports is read as `x`: a limit that nobody declared. -/
theorem doubled_ulimit_not_read_back :
    let v : Json := .ofFields [("rlimit_rlimit_x", .ofFields [("soft", .int 5), ("hard", .int 5)])]
    let records : List UlimitRecord := [⟨"rlimit_x", 5, 5⟩]
    let s : Spec := { name := some "web", image := some "nginx", dimensions := .ofList [("ulimits", v)] }
    let c : Comparison := ⟨s, ⟨.ofFields [("HostConfig", .ofFields
      [("Ulimits", .arr (records.map UlimitRecord.toJson))])]⟩, none, .docker, .path⟩
    Ulimits.ofDeclared v = .ok (.ofList [("rlimit_x", ⟨5, 5⟩)]) ∧ Create.ulimits s = .ok records ∧
    Ulimits.ofLive (some (.arr (records.map UlimitRecord.toJson))) = .ok (.ofList [("x", ⟨5, 5⟩)]) ∧
    c.dimensionDiffers "ulimits" "Ulimits" = .ok true := by
  decide +kernel

end Comparison

end Shipshape
