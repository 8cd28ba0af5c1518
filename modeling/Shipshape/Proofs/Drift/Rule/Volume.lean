import Shipshape.Proofs.Drift.Rule.Privilege
import Shipshape.Proofs.Volume

/-!
# Volumes of a new container

What a container was asked to mount is reported in the engine's own words, and volumes are compared after both
sides have been put into canonical form. Docker is asked by entries in canonical form and reports them as they
are; Podman is asked by mounts and names, and reports mounts. A new container differs in its volumes unless
what is read of these reports is what was declared (`volumesDiffer_ofRequest`).

Proof outline. Each kind of report is read by itself (`ofLive_reportedMount`, `ofLive_reportedVolume`). Sets
of volumes only count up to the keys of their members (`mem_volumeKeys`).
-/

namespace Shipshape

/-! ### Reading a report -/

def MountRequest.reported (m : MountRequest) : Mount :=
  { source := m.source.getD ""
    destination := m.target
    writable := !m.readOnly
    propagation := some (m.propagation.getD "")
    kind := some m.kind.name }

def NamedVolumeRequest.reported (v : NamedVolumeRequest) : Mount :=
  { source := "/var/lib/containers/storage/volumes/" ++ v.name ++ "/_data"
    destination := v.target
    writable := !(Text.splitAtChar ',' v.mode).contains "ro"
    kind := some "volume"
    name := some v.name }

namespace Create.Podman

/-- The canonical form of what is reported of a piece of storage. -/
def Storage.reported? : Storage → Option Volume
  | .mount m => Volume.ofMount? m.reported
  | .named v => Volume.ofMount? v.reported

end Create.Podman

theorem Volume.ofLive_obj {d : List (String × Json)} {record : Mount} (h : Mount.ofJson? (.obj d) = some record) :
    ofLive (.obj d) = .ok (ofMount? record) := by
  rw [ofLive, h]

theorem Volume.ofLive_reportedMount (m : MountRequest) :
    ofLive (Memory.reportedMount m) = .ok (ofMount? m.reported) := by
  have hread : Mount.ofJson? (Memory.reportedMount m) = some m.reported := by
    rw [Mount.ofJson?, Memory.reportedMount, Json.record?_ofFields]
    rfl
  exact ofLive_obj hread

theorem Volume.ofLive_reportedVolume (v : NamedVolumeRequest) :
    ofLive (Memory.reportedVolume v) = .ok (ofMount? v.reported) := by
  have hread : Mount.ofJson? (Memory.reportedVolume v) = some v.reported := by
    rw [Mount.ofJson?, Memory.reportedVolume, Json.record?_ofFields]
    rfl
  exact ofLive_obj hread

/-! ### Sets of volumes -/

namespace Comparison

theorem volumeKeys_eq_iff {m : VolumeMatch} {l l' : List Volume} : volumeKeys m l = volumeKeys m l' ↔
    ∀ key, (∃ v ∈ l, volumeKey m v = key) ↔ ∃ v ∈ l', volumeKey m v = key := by
  rw [volumeKeys, volumeKeys, SortedSet.ofList_eq_ofList_iff]
  simp only [List.mem_map]

end Comparison

/-! ### What was asked for -/

/-- The volumes that are read from the reports about what was asked for. -/
def Spec.reportedVolumes (s : Spec) : Except Error (List Volume) :=
  match s.engine with
  | .docker => do
    let declared ← s.volumes.mapM Volume.ofDeclared
    return (← (declared.reduceOption.map Volume.toBind).mapM Volume.ofBind).reduceOption
  | .podman => do
    return (← Create.Podman.storage s.volumes).filterMap Create.Podman.Storage.reported?

/-- What is reported of the volumes is what was declared, as far as it counts. -/
def Spec.KeepsVolumes (s : Spec) (m : VolumeMatch) : Prop :=
  ∃ declared reported, Volume.setOfDeclared s.volumes = .ok declared ∧
    s.reportedVolumes = .ok reported ∧ ∀ key, (∃ v ∈ declared, Comparison.volumeKey m v = key) ↔
      ∃ v ∈ reported, Comparison.volumeKey m v = key

namespace Comparison

variable {s : Spec} {m : VolumeMatch} {r : ContainerRequest} {image : Option Image}

theorem mapM_ofLive_map {β : Type} {report : β → Json} {read : β → Option Volume}
    (h : ∀ b, Volume.ofLive (report b) = .ok (read b)) (l : List β) :
    (l.map report).mapM Volume.ofLive = .ok (l.map read) := by
  induction l with
  | nil => rfl
  | cons b l ih =>
    rw [List.map_cons, List.mapM_cons, h, ih]
    rfl

theorem mapM_ofLive_str (l : List String) : (l.map .str).mapM Volume.ofLive = l.mapM Volume.ofBind := by
  rw [List.mapM_map]
  rfl

theorem mem_reported_iff {vs : List Create.Podman.Storage} {mounts : List MountRequest}
    {volumes : List NamedVolumeRequest}
    (hmounts : mounts = vs.filterMap fun
      | .mount m => some m
      | .named _ => none)
    (hvolumes : volumes = vs.filterMap fun
      | .named v => some v
      | .mount _ => none) (v : Volume) :
    v ∈ (mounts.map (Volume.ofMount? ·.reported) ++ volumes.map (Volume.ofMount? ·.reported)).reduceOption ↔
      v ∈ vs.filterMap Create.Podman.Storage.reported? := by
  rw [List.reduceOption_mem_iff, List.mem_append, List.mem_map, List.mem_map, List.mem_filterMap, hmounts,
    hvolumes]
  constructor
  · rintro (⟨x, hx, hv⟩ | ⟨x, hx, hv⟩)
    · obtain ⟨y, hy, hxy⟩ := List.mem_filterMap.1 hx
      cases y with
      | mount x' =>
        injection hxy with hxy
        subst hxy
        exact ⟨_, hy, hv⟩
      | named x' => cases hxy
    · obtain ⟨y, hy, hxy⟩ := List.mem_filterMap.1 hx
      cases y with
      | mount x' => cases hxy
      | named x' =>
        injection hxy with hxy
        subst hxy
        exact ⟨_, hy, hv⟩
  · rintro ⟨y, hy, hv⟩
    cases y with
    | mount x => exact .inl ⟨x, List.mem_filterMap.2 ⟨_, hy, rfl⟩, hv⟩
    | named x => exact .inr ⟨x, List.mem_filterMap.2 ⟨_, hy, rfl⟩, hv⟩

section

variable (h : Create.request s = .ok r)

include h

theorem liveReports_ofRequest : (ofRequest s m r image).live.mounts ++
      (((ofRequest s m r image).live.hostValue? "Binds").getD .null).items =
    r.mounts.map Memory.reportedMount ++ r.volumes.map Memory.reportedVolume ++ r.binds.map .str := by
  have hr := Create.request_requested h
  have hmounts : (ofRequest s m r image).live.mounts =
      r.mounts.map Memory.reportedMount ++ r.volumes.map Memory.reportedVolume := Memory.view_mounts
  have hbinds : (ofRequest s m r image).live.hostValue? "Binds" = some (.ofStrings r.binds) :=
    Memory.view_hostValue hr.resources (by decide)
  rw [hmounts, hbinds]
  rfl

theorem liveVolumes_ofRequest_docker (hengine : s.engine = .docker) :
    (ofRequest s m r image).liveVolumes = (do return SortedSet.ofList (← s.reportedVolumes)) := by
  have hd := Create.request_docker hengine h
  obtain ⟨declared, hdeclared, hbinds⟩ := hd.binds
  have hreported : s.reportedVolumes =
      (do return (← (declared.reduceOption.map Volume.toBind).mapM Volume.ofBind).reduceOption) := by
    rw [Spec.reportedVolumes, hengine]
    show (s.volumes.mapM Volume.ofDeclared >>= _) = _
    rw [hdeclared]
    rfl
  rw [liveVolumes, liveReports_ofRequest h, hd.mounts, hd.volumes, List.map_nil, List.map_nil,
    List.nil_append, List.nil_append, mapM_ofLive_str, hreported, hbinds]
  cases (declared.reduceOption.map Volume.toBind).mapM Volume.ofBind with
  | error e => rfl
  | ok volumes => rfl

theorem liveVolumes_ofRequest_podman (hengine : s.engine = .podman) : ∃ live reported,
    (ofRequest s m r image).liveVolumes = .ok live ∧ s.reportedVolumes = .ok reported ∧
      ∀ v, v ∈ live ↔ v ∈ reported := by
  have hp := Create.request_podman hengine h
  obtain ⟨vs, hvs, hmounts, hvolumes⟩ := hp.storage
  have hreported : s.reportedVolumes = .ok (vs.filterMap Create.Podman.Storage.reported?) := by
    rw [Spec.reportedVolumes, hengine]
    show (Create.Podman.storage s.volumes >>= _) = _
    rw [hvs]
    rfl
  have hlive : (ofRequest s m r image).liveVolumes = .ok (SortedSet.ofList
      (r.mounts.map (Volume.ofMount? ·.reported) ++
        r.volumes.map (Volume.ofMount? ·.reported)).reduceOption) := by
    rw [liveVolumes, liveReports_ofRequest h, hp.binds, List.map_nil, List.append_nil, List.mapM_append,
      mapM_ofLive_map Volume.ofLive_reportedMount, mapM_ofLive_map Volume.ofLive_reportedVolume]
    rfl
  refine ⟨_, _, hlive, hreported, fun v => ?_⟩
  rw [SortedSet.mem_ofList]
  exact mem_reported_iff hmounts hvolumes v

theorem liveVolumes_ofRequest {live : List Volume} : (ofRequest s m r image).liveVolumes = .ok live →
    ∃ reported, s.reportedVolumes = .ok reported ∧ ∀ v, v ∈ live ↔ v ∈ reported := by
  intro hlive
  cases hengine : s.engine with
  | docker =>
    rw [liveVolumes_ofRequest_docker h hengine] at hlive
    obtain ⟨reported, hreported, hlive⟩ := Result.bind_eq_ok.1 hlive
    injection hlive with hlive
    refine ⟨reported, hreported, fun v => ?_⟩
    rw [← hlive, SortedSet.mem_ofList]
  | podman =>
    obtain ⟨live', reported, hlive', hreported, hmem⟩ := liveVolumes_ofRequest_podman h hengine
    rw [hlive] at hlive'
    injection hlive' with hlive'
    subst hlive'
    exact ⟨reported, hreported, hmem⟩

theorem exists_liveVolumes_ofRequest {reported : List Volume} (hreported : s.reportedVolumes = .ok reported) :
    ∃ live, (ofRequest s m r image).liveVolumes = .ok live := by
  cases hengine : s.engine with
  | docker =>
    rw [liveVolumes_ofRequest_docker h hengine, hreported]
    exact ⟨_, rfl⟩
  | podman =>
    obtain ⟨live, _, hlive, -, -⟩ := liveVolumes_ofRequest_podman h hengine
    exact ⟨live, hlive⟩

theorem volumesDiffer_ofRequest :
    (ofRequest s m r image).volumesDiffer = .ok false ↔ s.KeepsVolumes m := by
  rw [volumesDiffer]
  show (Volume.setOfDeclared s.volumes >>= _) = _ ↔ _
  rw [Result.bind_eq_ok]
  refine ⟨?_, ?_⟩
  · rintro ⟨declared, hdeclared, hdiffer⟩
    obtain ⟨live, hlive, hdiffer⟩ := Result.bind_eq_ok.1 hdiffer
    injection hdiffer with hdiffer
    obtain ⟨reported, hreported, hmem⟩ := liveVolumes_ofRequest h hlive
    refine ⟨declared, reported, hdeclared, hreported, fun key => ?_⟩
    have hkeys := volumeKeys_eq_iff.1 (bne_eq_false_iff_eq.1 hdiffer) key
    simp only [hmem] at hkeys
    exact hkeys
  · rintro ⟨declared, reported, hdeclared, hreported, hkeys⟩
    obtain ⟨live, hlive⟩ : ∃ live, (ofRequest s m r image).liveVolumes = .ok live :=
      exists_liveVolumes_ofRequest h hreported
    obtain ⟨reported', hreported', hmem⟩ := liveVolumes_ofRequest h hlive
    rw [hreported] at hreported'
    injection hreported' with hreported'
    subst hreported'
    refine ⟨declared, hdeclared, Result.bind_eq_ok.2 ⟨live, hlive, ?_⟩⟩
    refine congrArg Except.ok (bne_eq_false_iff_eq.2 (volumeKeys_eq_iff.2 fun key => ?_))
    simp only [hmem]
    exact hkeys key

end

end Comparison

end Shipshape
