import Shipshape.Create.Request
import Shipshape.Drift.Comparator
import Shipshape.Proofs.Capability
import Shipshape.Proofs.Create.Request
import Shipshape.Proofs.Permutation

/-!
# The rules on capabilities and security options

The rule on capabilities compares sets, up to those that the engine adds on its own. Podman is asked for the one that
it adds, if the container is not privileged and does not ask for it in any spelling (`named_capabilities`); so what
it was asked for never counts as drift when it reports it (`capabilities_equivalent_iff`). Security options that the
engine adds count only if others are declared (`securityOptDiffers_eq_false_iff`).
-/

namespace Shipshape

open Capability (named)

namespace Create.Podman

theorem named_auditCapability : named [auditCapability] = {"audit_write"} :=
  Capability.named_of_canonicalSet (by decide +kernel)

/-- Podman is asked for the declared capabilities and, unless the container is privileged, for the one that it relies
on. -/
theorem named_capabilities (s : Spec) :
    named (capabilities s) = if s.privileged then named s.capAdd else insert "audit_write" (named s.capAdd) := by
  have hrequested : (Capability.canonicalSet [auditCapability]).all (Capability.canonicalSet s.capAdd).contains = true ↔
      "audit_write" ∈ named s.capAdd := by
    have haudit : Capability.canonicalSet [auditCapability] = ["audit_write"] := by decide +kernel
    rw [haudit, List.all_cons, List.all_nil, Bool.and_true, List.contains_iff_mem, Capability.mem_canonicalSet]
  rw [capabilities]
  by_cases hprivileged : s.privileged = true
  · rw [hprivileged, Bool.true_or, if_pos rfl, if_pos rfl]
  · rw [if_neg hprivileged, Bool.eq_false_iff.2 hprivileged, Bool.false_or]
    by_cases hasked : "audit_write" ∈ named s.capAdd
    · rw [if_pos (hrequested.2 hasked), Set.insert_eq_of_mem hasked]
    · rw [if_neg (mt hrequested.1 hasked), Capability.named_append, named_auditCapability, Set.union_singleton]

end Create.Podman

namespace Comparison

variable {c : Comparison} {s : Spec} {r : ContainerRequest} {delegated : Bool}

theorem capAddDiffers_eq_false_iff : c.capAddDiffers = false ↔ named c.spec.capAdd ⊆ named c.liveCapabilities ∧
    named c.liveCapabilities \ named c.spec.capAdd ⊆ named c.defaults.capabilities := by
  rw [capAddDiffers, Bool.not_eq_false', Capability.equivalent_iff]

theorem named_podman (delegated : Bool) : named (EngineDefaults.podman delegated).capabilities = {"audit_write"} := by
  have haudit : Capability.canonicalSet ["CAP_AUDIT_WRITE"] = ["audit_write"] := by decide +kernel
  exact Capability.named_of_canonicalSet haudit

theorem capAddDiffers_of_podman (hdefaults : c.defaults = .podman delegated)
    (hlive : named c.liveCapabilities = named (Create.Podman.capabilities c.spec)) : c.capAddDiffers = false := by
  rw [capAddDiffers_eq_false_iff, hlive, hdefaults, named_podman, Create.Podman.named_capabilities]
  split
  · exact ⟨subset_rfl, fun n hn => absurd hn.1 hn.2⟩
  · refine ⟨Set.subset_insert .., ?_⟩
    rintro n ⟨hn, hundeclared⟩
    exact Set.mem_singleton_iff.2 (hn.resolve_right hundeclared)

/-- Live capabilities are the desired ones exactly if no desired one is missing and everything besides is the
engine's own. A request to Podman asks for the declared ones and, unless the container is privileged, for the one that
Podman adds on its own; so they are the desired ones when they are reported, in whatever order and spelling. -/
theorem capabilities_equivalent_iff :
    (∀ desired live implicit, Capability.equivalent desired live implicit = true ↔
      named desired ⊆ named live ∧ named live \ named desired ⊆ named implicit) ∧
    ∀ s r, Create.Podman.request s = .ok r →
      named r.capAdd = (if s.privileged then named s.capAdd else insert "audit_write" (named s.capAdd)) ∧
      ∀ (c : Comparison) (delegated : Bool), c.spec = s → c.defaults = .podman delegated →
        named (c.live.hostTexts "CapAdd") = named r.capAdd → c.differs .capAdd = .ok false := by
  refine ⟨fun _ _ _ => Capability.equivalent_iff, fun s r h => ?_⟩
  have hadd := (Create.Podman.request_requested h).2.capAdd
  refine ⟨?_, ?_⟩
  · rw [hadd, Create.Podman.named_capabilities]
  · rintro c delegated rfl hdefaults hlive
    rw [hadd] at hlive
    exact congrArg Except.ok (capAddDiffers_of_podman hdefaults hlive)

/-- A container asks for one capability, in lower case, and for a blank one. Podman reports what it was asked for in
its own spelling and order. -/
theorem capabilities_equivalent_iff_reported :
    let s : Spec := { name := some "web", image := some "nginx", engine := .podman, capAdd := [" net_admin", ""] }
    let c : Comparison := ⟨s, ⟨.ofFields [("HostConfig", .ofFields
      [("CapAdd", .ofStrings ["CAP_AUDIT_WRITE", "CAP_NET_ADMIN"])])]⟩, none, .podman false, .path⟩
    (∃ r, Create.Podman.request s = .ok r ∧ r.capAdd = [" net_admin", "", "AUDIT_WRITE"]) ∧
    c.differs .capAdd = .ok false := by
  intro s c
  obtain ⟨r, hr, hadd⟩ : ∃ r, Create.Podman.request s = .ok r ∧ r.capAdd = [" net_admin", "", "AUDIT_WRITE"] :=
    ⟨_, rfl, by decide +kernel⟩
  have hsets : Capability.canonicalSet (c.live.hostTexts "CapAdd") =
      Capability.canonicalSet [" net_admin", "", "AUDIT_WRITE"] := by decide +kernel
  refine ⟨⟨r, hr, hadd⟩, (capabilities_equivalent_iff.2 s r hr).2 c false rfl rfl ?_⟩
  rw [hadd]
  exact Capability.canonicalSet_eq_iff.1 hsets

/-! ### Security options -/

/-- Options are the desired ones if they are the declared ones in some order, or if none are declared and all of them
are the engine's own. -/
theorem securityOptDiffers_eq_false_iff : c.securityOptDiffers = false ↔ c.securityOptOff = true ∨
    if c.spec.securityOpt = [] then c.live.hostTexts "SecurityOpt" ⊆ c.defaults.securityOptions
    else c.spec.securityOpt.Perm (c.live.hostTexts "SecurityOpt") := by
  rw [securityOptDiffers, Bool.and_eq_false_iff, Bool.not_eq_false', bne_eq_false_iff_eq, liveSecurityOpt,
    sortedTexts_eq_iff]
  refine or_congr_right ?_
  by_cases hnone : c.spec.securityOpt = []
  · rw [if_pos hnone, hnone, List.isEmpty_nil, if_pos rfl, List.nil_perm, List.filter_eq_nil_iff]
    exact forall₂_congr fun option _ => by rw [Bool.not_eq_true', Bool.not_eq_false, List.contains_iff_mem]
  · rw [if_neg hnone, if_neg (mt List.isEmpty_iff.1 hnone)]

end Comparison

end Shipshape
