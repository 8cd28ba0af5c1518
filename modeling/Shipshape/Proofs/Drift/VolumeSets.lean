import Shipshape.Proofs.Drift.Rule.Volume
import Shipshape.Proofs.Volume.Entry

/-!
# Volumes compared by their keys

Volumes are compared by texts: source and destination, or the whole volume, joined with colons. Equal sets of
volumes have equal sets of keys. The converse holds unless the key of a desired volume is the key of another
volume, too (`Ambiguous`), of which a live container may have been made. That takes a colon within the parts of
a volume, which only records can have.

Proof outline. A key is known from what is seen of a volume (`volumeKey_congr`). Where a desired volume is
ambiguous, a container with the other volume in its place cannot be told from what is desired
(`insteadOf`).
-/

namespace Shipshape

namespace Volume

/-- What is seen of a volume: its ends, or all of it. -/
def seen (mode : VolumeMatch) (v : Volume) : String × String × Option (Access × String) :=
  match mode with
  | .path => (v.source, v.destination, none)
  | .strict => (v.source, v.destination, some (v.access, v.propagation))

def SameSeen (mode : VolumeMatch) (volumes volumes' : List Volume) : Prop :=
  ∀ ends, (∃ v ∈ volumes, v.seen mode = ends) ↔ ∃ v ∈ volumes', v.seen mode = ends

/-- Another volume has the same key. -/
def Ambiguous (mode : VolumeMatch) (v : Volume) : Prop :=
  ∃ w : Volume, w.Canonical ∧ w.seen mode ≠ v.seen mode ∧
    Comparison.volumeKey mode w = Comparison.volumeKey mode v

variable {mode : VolumeMatch} {v w : Volume}

theorem volumeKey_congr (h : v.seen mode = w.seen mode) :
    Comparison.volumeKey mode v = Comparison.volumeKey mode w := by
  cases mode with
  | path =>
    simp only [seen, Prod.mk.injEq] at h
    rw [Comparison.volumeKey, Comparison.volumeKey, h.1, h.2.1]
  | strict =>
    simp only [seen, Prod.mk.injEq, Option.some.injEq] at h
    obtain ⟨hsource, hdestination, haccess, hpropagation⟩ := h
    rw [Comparison.volumeKey, Comparison.volumeKey, toBind, toBind, hsource, hdestination, haccess, hpropagation]

/-! ### Keys of one volume only -/

theorem toList_volumeKey_path (v : Volume) :
    (Comparison.volumeKey .path v).toList = v.source.toList ++ ':' :: v.destination.toList := by
  simp [Comparison.volumeKey, String.toList_append]

theorem access_eq_of_name {a b : Access} (h : a.name = b.name) : a = b := by
  cases a with
  | readWrite =>
    cases b with
    | readWrite => rfl
    | readOnly => exact absurd h (by decide)
  | readOnly =>
    cases b with
    | readWrite => exact absurd h (by decide)
    | readOnly => rfl

theorem entryOptions_inj (h : w.entryOptions = v.entryOptions) :
    w.access = v.access ∧ w.propagation = v.propagation := by
  rw [entryOptions, entryOptions] at h
  obtain ⟨hname, hmode⟩ := List.append_inj h ((length_accessName _).trans (length_accessName _).symm)
  refine ⟨access_eq_of_name (String.toList_inj.1 hname), ?_⟩
  by_cases hw : w.propagation = ""
  · by_cases hv : v.propagation = ""
    · rw [hw, hv]
    · rw [if_pos hw, if_neg hv] at hmode
      cases hmode
  · by_cases hv : v.propagation = ""
    · rw [if_neg hw, if_pos hv] at hmode
      cases hmode
    · rw [if_neg hw, if_neg hv] at hmode
      exact String.toList_inj.1 (List.cons.inj hmode).2

theorem notMem_entryOptions (h : ':' ∉ v.propagation.toList) : ':' ∉ v.entryOptions := by
  have hname : ':' ∉ v.access.name.toList := by
    cases v.access with
    | readWrite => decide
    | readOnly => decide
  rw [entryOptions, List.mem_append, not_or]
  refine ⟨hname, ?_⟩
  by_cases hv : v.propagation = ""
  · rw [if_pos hv]
    exact List.not_mem_nil
  · rw [if_neg hv, List.mem_cons, not_or]
    exact ⟨by decide, h⟩

theorem not_ambiguous_of_notMem (hsource : ':' ∉ v.source.toList) (hdestination : ':' ∉ v.destination.toList)
    (hpropagation : ':' ∉ v.propagation.toList) (mode : VolumeMatch) : ¬ v.Ambiguous mode := by
  rintro ⟨w, -, hne, hkey⟩
  refine hne ?_
  have hkey := congrArg String.toList hkey
  cases mode with
  | path =>
    rw [toList_volumeKey_path, toList_volumeKey_path] at hkey
    obtain ⟨hs, -, hd⟩ := (List.append_cons_inj_of_notMem hsource hdestination).1 hkey.symm
    rw [seen, seen, String.toList_inj.1 hs, String.toList_inj.1 hd]
  | strict =>
    have hv := entryParts?_append hsource hdestination v.entryOptions
    rw [Comparison.volumeKey, Comparison.volumeKey, toList_toBind, toList_toBind] at hkey
    rw [← hkey] at hv
    by_cases hcolon : ':' ∈ w.source.toList ∨ ':' ∈ w.destination.toList
    · obtain ⟨_, _, extra, hw, -⟩ := entryParts?_extra hcolon w.entryOptions
      rw [hw, Option.some.injEq, EntryParts.mk.injEq] at hv
      have hmem : ':' ∈ extra ++ ':' :: w.entryOptions :=
        List.mem_append_right _ (List.mem_cons_self ..)
      rw [hv.2.2] at hmem
      exact absurd hmem (notMem_entryOptions hpropagation)
    · rw [not_or] at hcolon
      rw [entryParts?_append hcolon.1 hcolon.2, Option.some.injEq, EntryParts.mk.injEq] at hv
      obtain ⟨hs, hd, hopts⟩ := hv
      obtain ⟨haccess, hmode⟩ := entryOptions_inj hopts
      rw [seen, seen, String.toList_inj.1 hs, String.toList_inj.1 hd, haccess, hmode]

theorem not_ambiguous_of_bind {entry : String} (h : ofDeclared (.bind entry) = .ok (some v))
    (mode : VolumeMatch) : ¬ v.Ambiguous mode := by
  have hmodes : ∀ mode ∈ entryModes, ':' ∉ mode.toList := by decide
  have hread : ofBind entry = .ok (some v) := h
  obtain ⟨hsource, hdestination, -, hpropagation⟩ := notMem_of_ofBind hread
  exact not_ambiguous_of_notMem hsource hdestination (hmodes _ hpropagation) mode

/-! ### Reports -/

theorem canonical_of_ofLive {report : Json} (h : ofLive report = .ok (some v)) : v.Canonical := by
  cases report with
  | str entry => exact canonical_of_ofBind h
  | obj fields =>
    rw [ofLive] at h
    cases hread : Mount.ofJson? (.obj fields) with
    | none =>
      rw [hread] at h
      cases h
    | some m =>
      rw [hread] at h
      exact canonical_of_ofMount? (Except.ok.inj h)
  | _ => cases h

theorem Canonical.ofLive_toJson (h : v.Canonical) : ofLive v.toMount.toJson = .ok (some v) := by
  have hread : Mount.ofJson? v.toMount.toJson = some v.toMount := by
    rw [Mount.ofJson?, Mount.toJson, Json.record?_ofFields]
    rfl
  have hlive : ofLive v.toMount.toJson = .ok (ofMount? v.toMount) := ofLive_obj hread
  rw [hlive, h.ofMount?_toMount]

/-- What an engine reports about a container with these volumes. -/
def reportOf (volumes : List Volume) : Inspection :=
  ⟨.ofFields [("Mounts", .arr (volumes.map fun v => v.toMount.toJson))]⟩

end Volume

namespace Comparison

variable {c : Comparison} {volumes : List Volume}

theorem liveVolumes_eq (c : Comparison) : c.liveVolumes =
    Volume.setOfLive (c.live.mounts ++ ((c.live.hostValue? "Binds").getD .null).items) := rfl

theorem canonical_of_liveVolumes (h : c.liveVolumes = .ok volumes) : ∀ v ∈ volumes, v.Canonical := by
  intro v hv
  obtain ⟨report, -, hv⟩ := (Volume.mem_setOfLive h v).1 hv
  exact Volume.canonical_of_ofLive hv

theorem liveVolumes_reportOf (hlive : c.live = Volume.reportOf volumes) (h : ∀ v ∈ volumes, v.Canonical) :
    c.liveVolumes = .ok (SortedSet.ofList volumes) := by
  have hmounts : (Volume.reportOf volumes).mounts = volumes.map fun v => v.toMount.toJson := rfl
  have hbinds : (Volume.reportOf volumes).hostValue? "Binds" = none := rfl
  have hreports : (Volume.reportOf volumes).mounts ++
      (((Volume.reportOf volumes).hostValue? "Binds").getD .null).items =
        volumes.map fun v => v.toMount.toJson := by
    rw [hmounts, hbinds]
    exact List.append_nil _
  rw [liveVolumes_eq, hlive, hreports]
  exact Volume.setOfLive_map fun v hv => (h v hv).ofLive_toJson

theorem volumesDiffer_eq_ok_false_iff {desired live : List Volume}
    (hdesired : Volume.setOfDeclared c.spec.volumes = .ok desired) (hlive : c.liveVolumes = .ok live) :
    c.volumesDiffer = .ok false ↔ ∀ key, (∃ v ∈ desired, volumeKey c.volumeMatch v = key) ↔
      ∃ v ∈ live, volumeKey c.volumeMatch v = key := by
  have hdiffer : c.volumesDiffer =
      .ok (volumeKeys c.volumeMatch desired != volumeKeys c.volumeMatch live) := by
    rw [volumesDiffer, desiredVolumes, hdesired, hlive]
    rfl
  rw [hdiffer, Except.ok.injEq, bne_eq_false_iff_eq, volumeKeys_eq_iff]

end Comparison

namespace Volume

variable {mode : VolumeMatch} {desired live : List Volume}

theorem SameSeen.keys (h : SameSeen mode desired live) (key : String) :
    (∃ v ∈ desired, Comparison.volumeKey mode v = key) ↔ ∃ v ∈ live, Comparison.volumeKey mode v = key := by
  constructor
  · rintro ⟨v, hv, rfl⟩
    obtain ⟨w, hw, hseen⟩ := (h (v.seen mode)).1 ⟨v, hv, rfl⟩
    exact ⟨w, hw, volumeKey_congr hseen⟩
  · rintro ⟨v, hv, rfl⟩
    obtain ⟨w, hw, hseen⟩ := (h (v.seen mode)).2 ⟨v, hv, rfl⟩
    exact ⟨w, hw, volumeKey_congr hseen⟩

theorem sameSeen_of_keys (hclear : ∀ v ∈ desired, ¬ v.Ambiguous mode) (hcanonical : ∀ v ∈ live, v.Canonical)
    (h : ∀ key, (∃ v ∈ desired, Comparison.volumeKey mode v = key) ↔
      ∃ v ∈ live, Comparison.volumeKey mode v = key) : SameSeen mode desired live := by
  have hseen : ∀ v ∈ desired, ∀ w ∈ live, Comparison.volumeKey mode w = Comparison.volumeKey mode v →
      w.seen mode = v.seen mode := by
    intro v hv w hw hkey
    by_contra hne
    exact hclear v hv ⟨w, hcanonical w hw, hne, hkey⟩
  refine fun ends => ⟨?_, ?_⟩
  · rintro ⟨v, hv, rfl⟩
    obtain ⟨w, hw, hkey⟩ := (h (Comparison.volumeKey mode v)).1 ⟨v, hv, rfl⟩
    exact ⟨w, hw, hseen v hv w hw hkey⟩
  · rintro ⟨w, hw, rfl⟩
    obtain ⟨v, hv, hkey⟩ := (h (Comparison.volumeKey mode w)).2 ⟨w, hw, rfl⟩
    exact ⟨v, hv, (hseen v hv w hw hkey.symm).symm⟩

/-- The volumes with another one in the place of those that look like `v`. -/
def insteadOf (mode : VolumeMatch) (v w : Volume) (volumes : List Volume) : List Volume :=
  w :: volumes.filter fun u => u.seen mode ≠ v.seen mode

theorem keys_insteadOf {v w : Volume} (hv : v ∈ desired)
    (hkey : Comparison.volumeKey mode w = Comparison.volumeKey mode v) (key : String) :
    (∃ u ∈ desired, Comparison.volumeKey mode u = key) ↔
      ∃ u ∈ insteadOf mode v w desired, Comparison.volumeKey mode u = key := by
  constructor
  · rintro ⟨u, hu, rfl⟩
    by_cases hseen : u.seen mode = v.seen mode
    · exact ⟨w, .head _, hkey.trans (volumeKey_congr hseen).symm⟩
    · exact ⟨u, .tail _ (List.mem_filter.2 ⟨hu, decide_eq_true hseen⟩), rfl⟩
  · rintro ⟨u, hu, rfl⟩
    rcases List.mem_cons.1 hu with rfl | hu
    · exact ⟨v, hv, hkey.symm⟩
    · exact ⟨u, (List.mem_filter.1 hu).1, rfl⟩

theorem not_sameSeen_insteadOf {v w : Volume} (hv : v ∈ desired) (hne : w.seen mode ≠ v.seen mode) :
    ¬ SameSeen mode desired (insteadOf mode v w desired) := by
  intro hsame
  obtain ⟨u, hu, hseen⟩ := (hsame (v.seen mode)).1 ⟨v, hv, rfl⟩
  rcases List.mem_cons.1 hu with rfl | hu
  · exact hne hseen
  · exact of_decide_eq_true (List.mem_filter.1 hu).2 hseen

end Volume

namespace Comparator

/-- The volumes of a specification are told from all other ones exactly if none of them is ambiguous. -/
theorem volumes_compared_as_sets_iff (c : Comparator) {s : Spec} {desired : List Volume}
    (hdesired : Volume.setOfDeclared s.volumes = .ok desired) :
    (∀ live image volumes, (c.beside s live image).liveVolumes = .ok volumes →
      ((c.beside s live image).volumesDiffer = .ok false ↔
        Volume.SameSeen c.volumeMatch desired volumes)) ↔
      ∀ v ∈ desired, ¬ v.Ambiguous c.volumeMatch := by
  constructor
  · rintro h v hv ⟨w, hw, hne, hkey⟩
    -- against a container with `w` in the place of `v` the keys agree, and the sets do not
    have hcanonical : ∀ u ∈ Volume.insteadOf c.volumeMatch v w desired, u.Canonical := by
      intro u hu
      rcases List.mem_cons.1 hu with rfl | hu
      · exact hw
      · obtain ⟨d, -, hd⟩ := (Volume.mem_setOfDeclared hdesired u).1 (List.mem_filter.1 hu).1
        exact Volume.canonical_of_ofDeclared hd
    have hlive := Comparison.liveVolumes_reportOf
      (c := c.beside s (Volume.reportOf (Volume.insteadOf c.volumeMatch v w desired)) none) rfl hcanonical
    have hsame : (c.beside s (Volume.reportOf (Volume.insteadOf c.volumeMatch v w desired)) none).volumesDiffer =
        .ok false := by
      refine (Comparison.volumesDiffer_eq_ok_false_iff hdesired hlive).2 fun key => ?_
      simp only [SortedSet.mem_ofList]
      exact Volume.keys_insteadOf hv hkey key
    refine Volume.not_sameSeen_insteadOf hv hne fun ends => ?_
    have hends := (h _ _ _ hlive).1 hsame ends
    simp only [SortedSet.mem_ofList] at hends
    exact hends
  · intro hclear live image volumes hlive
    rw [Comparison.volumesDiffer_eq_ok_false_iff hdesired hlive]
    exact ⟨Volume.sameSeen_of_keys hclear (Comparison.canonical_of_liveVolumes hlive), Volume.SameSeen.keys⟩

/-- Volumes declared by entries are told from all other ones. -/
theorem volumes_compared_as_sets_iff_entries :
    let c : Comparator := ⟨.docker, .strict⟩
    let s : Spec := { volumes := [.bind "logs:/var/log/", .bind "/etc/web:/etc/web:ro,rshared"] }
    ∃ desired, Volume.setOfDeclared s.volumes = .ok desired ∧
      ∀ live image volumes, (c.beside s live image).liveVolumes = .ok volumes →
        ((c.beside s live image).volumesDiffer = .ok false ↔
          Volume.SameSeen c.volumeMatch desired volumes) := by
  intro c s
  have hdesired : Volume.setOfDeclared s.volumes = .ok [⟨"/etc/web", "/etc/web", .readOnly, "shared"⟩,
      ⟨"logs", "/var/log", .readWrite, ""⟩] := by
    decide +kernel
  refine ⟨_, hdesired, (volumes_compared_as_sets_iff c hdesired).2 fun v hv => ?_⟩
  obtain ⟨d, hd, hread⟩ := (Volume.mem_setOfDeclared hdesired v).1 hv
  rcases List.mem_pair.1 hd with rfl | rfl
  · exact Volume.not_ambiguous_of_bind hread _
  · exact Volume.not_ambiguous_of_bind hread _

/-- A mount that is found elsewhere goes unnoticed, if it is found at a colon. -/
theorem moved_unnoticed :
    let s : Spec := { volumes := [.mount { source := "/a", destination := "/b:/c" }] }
    let live : Inspection :=
      ⟨.ofFields [("Mounts", .arr [.ofFields [("Source", .str "/a:/b"), ("Destination", .str "/c")]])]⟩
    let path := Comparator.beside ⟨.docker, .path⟩ s live none
    let strict := Comparator.beside ⟨.docker, .strict⟩ s live none
    let desired : List Volume := [⟨"/a", "/b:/c", .readWrite, ""⟩]
    let volumes : List Volume := [⟨"/a:/b", "/c", .readWrite, ""⟩]
    Volume.setOfDeclared s.volumes = .ok desired ∧
      (path.liveVolumes = .ok volumes ∧ path.volumesDiffer = .ok false ∧ ¬ Volume.SameSeen .path desired volumes) ∧
      strict.liveVolumes = .ok volumes ∧ strict.volumesDiffer = .ok false ∧
        ¬ Volume.SameSeen .strict desired volumes := by
  intro s live path strict desired volumes
  have hpath : ¬ Volume.SameSeen .path desired volumes := by
    intro h
    obtain ⟨v, hv, hseen⟩ := (h ("/a", "/b:/c", none)).1 ⟨_, .head _, rfl⟩
    rw [List.mem_singleton.1 hv] at hseen
    exact absurd hseen (by decide)
  have hstrict : ¬ Volume.SameSeen .strict desired volumes := by
    intro h
    obtain ⟨v, hv, hseen⟩ := (h ("/a", "/b:/c", some (.readWrite, ""))).1 ⟨_, .head _, rfl⟩
    rw [List.mem_singleton.1 hv] at hseen
    exact absurd hseen (by decide)
  refine ⟨?_, ⟨?_, ?_, hpath⟩, ?_, ?_, hstrict⟩
  all_goals decide +kernel

end Comparator

end Shipshape
