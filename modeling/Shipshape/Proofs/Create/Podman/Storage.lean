import Shipshape.Proofs.Drift.Rule.Volume
import Shipshape.Proofs.Volume.Canonical

/-!
# What is read back of Podman's storage

Podman is asked for host paths, named volumes and terminals, and reports each of them in its own way. Of a host path
all that was asked for is read back, of a named volume its name, destination and access, and of terminals
nothing. Storage keeps a declared volume if what is read back of it is what was declared (`Keeps`).
-/

namespace Shipshape

/-- Where a volume is mounted, and how it can be accessed. -/
def Volume.mounted (v : Volume) : String × String × Access := (v.source, v.destination, v.access)

namespace Create.Podman

open Volume (normal? plain plainSource plainPropagation dropTrailingSlashes)

variable {source target name mode : String} {readOnly : Bool} {declared : Option Volume}

/-! ### What is read back -/

def Storage.report : Storage → Json
  | .mount m => Memory.reportedMount m
  | .named v => Memory.reportedVolume v

theorem Storage.ofLive_report (storage : Storage) : Volume.ofLive storage.report = .ok storage.reported? := by
  cases storage with
  | mount m => exact Volume.ofLive_reportedMount m
  | named v => exact Volume.ofLive_reportedVolume v

theorem ofMount?_of_source {m : Mount} (hkind : m.kind ≠ some "devpts") (hsource : m.source ≠ "") :
    Volume.ofMount? m = normal? (Volume.mountSource m).toList m.destination.toList (.ofWritable m.writable)
      (m.propagation.getD "").toList := by
  rw [Volume.ofMount?, if_neg hkind, beq_false_of_ne hsource, Bool.false_and, if_neg Bool.false_ne_true]

theorem reported?_bindMount (hsource : source.toList.head? = some '/') (target : String) (readOnly : Bool)
    (propagation : Option String) : (bindMount source target readOnly propagation).reported? =
      normal? source.toList target.toList (.ofWritable !readOnly)
        (propagation.getD defaultPropagation).toList := by
  have hkind : (some "bind" : Option String) ≠ some "devpts" := by decide
  have hne : source ≠ "" := by
    rintro rfl
    cases hsource
  exact ofMount?_of_source hkind hne

/-- How a named volume can be accessed that is asked for with a mode. -/
def modeAccess (mode : String) : Access :=
  .ofWritable (!(Text.splitAtChar ',' mode).contains "ro")

/-- Where a named volume is reported to be stored. -/
def storedPath (name : String) : String :=
  "/var/lib/containers/storage/volumes/" ++ name ++ "/_data"

theorem reported?_storage (name target mode : String) : (Storage.named ⟨name, target, mode⟩).reported? =
    normal? (if name == "" then storedPath name else name).toList target.toList (modeAccess mode) [] := by
  have hkind : (some "volume" : Option String) ≠ some "devpts" := by decide
  have hne : storedPath name ≠ "" := fun h => absurd (String.append_eq_empty_iff.1 h).2 (by decide)
  exact ofMount?_of_source hkind hne

theorem reported?_named (hname : name ≠ "") (target mode : String) :
    (Storage.named ⟨name, target, mode⟩).reported? =
      normal? name.toList target.toList (modeAccess mode) [] := by
  rw [reported?_storage, beq_false_of_ne hname, if_neg Bool.false_ne_true]

theorem reported?_unnamed (target mode : String) :
    ∃ v, (Storage.named ⟨"", target, mode⟩).reported? = some v ∧ v.source = storedPath "" := by
  have hsource : plainSource (storedPath "").toList = (storedPath "").toList := by decide
  have hshown : ¬ (plain (storedPath "").toList target.toList (modeAccess mode) []).isTerminalMount := by
    rw [Volume.isTerminalMount_plain_iff, hsource]
    exact fun h => absurd h.2 (by decide)
  refine ⟨plain (storedPath "").toList target.toList (modeAccess mode) [], ?_, ?_⟩
  · rw [reported?_storage, if_pos (beq_self_eq_true _), Volume.normal?_eq, if_neg hshown]
  · rw [plain, hsource, String.ofList_toList]

theorem modeAccess_name (access : Access) : modeAccess access.name = access := by
  cases access with
  | readWrite => decide
  | readOnly => decide

/-! ### Volumes with other parts -/

variable {source source' destination destination' opts opts' : List Char} {access access' : Access}

theorem map_mounted_normal?_iff : (normal? source destination access opts).map Volume.mounted =
      (normal? source destination access' opts').map Volume.mounted ↔
    ∀ v, normal? source destination access' opts' = some v → access = v.access := by
  have hshown : (plain source destination access opts).isTerminalMount =
      (plain source destination access' opts').isTerminalMount := rfl
  rw [Volume.normal?_eq, Volume.normal?_eq, hshown]
  by_cases h : (plain source destination access' opts').isTerminalMount
  · rw [if_pos h, if_pos h]
    exact iff_of_true rfl nofun
  · rw [if_neg h, if_neg h]
    simp only [Option.map_some, Option.some.injEq, forall_eq', plain, Volume.mounted, Prod.mk.injEq, true_and]

theorem map_propagation_normal?_iff : (normal? source destination access opts).map Volume.propagation =
      (normal? source destination access' opts').map Volume.propagation ↔
    ∀ v, normal? source destination access' opts' = some v → plainPropagation opts = v.propagation.toList := by
  have hshown : (plain source destination access opts).isTerminalMount =
      (plain source destination access' opts').isTerminalMount := rfl
  rw [Volume.normal?_eq, Volume.normal?_eq, hshown]
  by_cases h : (plain source destination access' opts').isTerminalMount
  · rw [if_pos h, if_pos h]
    exact iff_of_true rfl nofun
  · rw [if_neg h, if_neg h]
    simp only [Option.map_some, Option.some.injEq, forall_eq', plain]
    rw [← String.toList_inj, String.toList_ofList]

theorem normal?_eq_none_iff (hsource : source = [] ∨ source = "devpts".toList) :
    normal? source destination access opts = none ↔
      dropTrailingSlashes destination = "/dev/pts".toList := by
  have hplain : plainSource source = [] ∨ plainSource source = "devpts".toList := by
    rcases hsource with rfl | rfl
    · exact .inl rfl
    · exact .inr (by decide)
  have hnone : normal? source destination access opts = none ↔
      (plain source destination access opts).isTerminalMount := by
    rw [Volume.normal?_eq]
    split
    · next h => exact iff_of_true rfl h
    · next h => exact iff_of_false nofun h
  rw [hnone, Volume.isTerminalMount_plain_iff]
  exact and_iff_left hplain

theorem map_mounted_ne (hshown : (plain source' destination' access' opts').isTerminalMount = false)
    (h : plainSource source' ≠ plainSource source ∨
      dropTrailingSlashes destination' ≠ dropTrailingSlashes destination) :
    (normal? source' destination' access' opts').map Volume.mounted ≠
      (normal? source destination access opts).map Volume.mounted := by
  intro heq
  rw [Volume.normal?_eq, if_neg (Bool.eq_false_iff.1 hshown)] at heq
  obtain ⟨v, hv, hends⟩ := Option.map_eq_some_iff.1 heq.symm
  obtain ⟨hsource, hdestination, -, -, -⟩ := Volume.normal?_eq_some hv
  have hs : v.source = .ofList (plainSource source') := congrArg (fun ends => ends.1) hends
  have hd : v.destination = .ofList (dropTrailingSlashes destination') := congrArg (fun ends => ends.2.1) hends
  rw [hs, String.toList_ofList] at hsource
  rw [hd, String.toList_ofList] at hdestination
  exact h.elim (fun hne => hne hsource) fun hne => hne hdestination

/-! ### Storage that keeps a volume -/

/-- Storage is kept if what is read back of it is what was declared; the propagation counts for mounts only. -/
def Keeps (declared : Option Volume) (storage : Option Storage) : Prop :=
  (storage.bind Storage.reported?).map Volume.mounted = declared.map Volume.mounted ∧
    ∀ m, storage = some (.mount m) →
      (Volume.ofMount? m.reported).map Volume.propagation = declared.map Volume.propagation

theorem keeps_mount_iff {m : MountRequest} : Keeps declared (some (.mount m)) ↔
    (Volume.ofMount? m.reported).map Volume.mounted = declared.map Volume.mounted ∧
      (Volume.ofMount? m.reported).map Volume.propagation = declared.map Volume.propagation := by
  refine and_congr Iff.rfl ⟨fun h => h m rfl, fun h m' hm' => ?_⟩
  injection hm' with hm'
  injection hm' with hm'
  rw [← hm']
  exact h

theorem keeps_named_iff {v : NamedVolumeRequest} : Keeps declared (some (.named v)) ↔
    (Storage.named v).reported?.map Volume.mounted = declared.map Volume.mounted := by
  rw [Keeps, Option.bind_some]
  exact and_iff_left nofun

theorem keeps_none_iff : Keeps declared none ↔ declared = none := by
  constructor
  · intro h
    exact Option.map_eq_none_iff.1 h.1.symm
  · rintro rfl
    exact ⟨rfl, nofun⟩

theorem keeps_terminalMount_iff : Keeps declared (some (terminalMount target)) ↔ declared = none := by
  rw [terminalMount, keeps_mount_iff]
  constructor
  · intro h
    exact Option.map_eq_none_iff.1 h.1.symm
  · rintro rfl
    exact ⟨rfl, rfl⟩

theorem keeps_bindMount_iff {source : String} (hsource : source.toList.head? = some '/')
    (propagation : Option String) :
    Keeps declared (some (bindMount source target readOnly propagation)) ↔
      (normal? source.toList target.toList (.ofWritable !readOnly)
        (propagation.getD defaultPropagation).toList).map Volume.mounted = declared.map Volume.mounted ∧
      (normal? source.toList target.toList (.ofWritable !readOnly)
        (propagation.getD defaultPropagation).toList).map Volume.propagation =
          declared.map Volume.propagation := by
  rw [← reported?_bindMount hsource]
  exact keeps_mount_iff

theorem keeps_of_normal? (v : NamedVolumeRequest) (hread : (Storage.named v).reported? =
      normal? source destination access opts) :
    Keeps (normal? source destination access opts') (some (.named v)) := by
  rw [keeps_named_iff, hread, map_mounted_normal?_iff]
  exact fun w hw => (Volume.normal?_eq_some hw).2.2.1.symm

end Create.Podman

end Shipshape
