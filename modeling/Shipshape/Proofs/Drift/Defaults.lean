import Shipshape.Proofs.Drift.Comparison
import Shipshape.Proofs.Drift.Rule.Capabilities

/-!
# What engines add on their own

Engines add capabilities and security options without being asked, and may leave restarts to somebody else. A
comparison that knows of more such additions reports no more than one that knows of fewer, and fails where that one
fails (`compare_within`). So nothing is drift in a container of Podman that would be none in one of Docker.

Proof outline. Three rules read what the engine adds. Knowing of more, each of them says what it said or drops a
difference (`differs_within`); the rest is an induction on the list of attributes.
-/

namespace Shipshape

open Capability (named)

/-- Whatever one engine adds or leaves to somebody else, another one does as well. -/
structure EngineDefaults.Within (q q' : EngineDefaults) : Prop where
  capabilities : named q.capabilities ⊆ named q'.capabilities
  securityOptions : q.securityOptions ⊆ q'.securityOptions
  restartDelegated : q.restartDelegated = true → q'.restartDelegated = true

theorem EngineDefaults.Within.docker (q : EngineDefaults) : EngineDefaults.docker.Within q :=
  ⟨Capability.named_mono (List.nil_subset _), List.nil_subset _, nofun⟩

/-- Two comparisons fail alike, or the second one reports nothing that the first one does not. -/
inductive Comparator.ReportsNoMore : Except Error (Drift × List Note) → Except Error (Drift × List Note) → Prop
  | fails (e : Error) : ReportsNoMore (.error e) (.error e)
  | reports {d d' : Drift × List Note} (h : d'.1.keys.Sublist d.1.keys) : ReportsNoMore (.ok d) (.ok d')

namespace Comparison

variable {c : Comparison} {q : EngineDefaults}

theorem capAddDiffers_within (h : c.defaults.Within q) (hsame : c.capAddDiffers = false) :
    { c with defaults := q }.capAddDiffers = false := by
  obtain ⟨hasked, hadded⟩ := capAddDiffers_eq_false_iff.1 hsame
  exact capAddDiffers_eq_false_iff.2 ⟨hasked, hadded.trans h.capabilities⟩

theorem securityOptDiffers_within (h : c.defaults.Within q) (hsame : c.securityOptDiffers = false) :
    { c with defaults := q }.securityOptDiffers = false := by
  refine securityOptDiffers_eq_false_iff.2 ((securityOptDiffers_eq_false_iff.1 hsame).imp_right fun hoptions => ?_)
  by_cases hnone : c.spec.securityOpt = []
  · rw [if_pos hnone] at hoptions ⊢
    exact List.Subset.trans hoptions h.securityOptions
  · rwa [if_neg hnone] at hoptions ⊢

theorem restartPolicyDiffers_within (h : c.defaults.Within q) (hsame : c.restartPolicyDiffers = false) :
    { c with defaults := q }.restartPolicyDiffers = false := by
  rw [restartPolicyDiffers] at hsame ⊢
  by_cases hdelegated : q.restartDelegated = true
  · rw [if_pos hdelegated]
  · rw [if_neg (mt h.restartDelegated hdelegated)] at hsame
    rw [if_neg hdelegated]
    exact hsame

/-- Knowing of more additions, a rule says the same as before or drops a difference. -/
theorem differs_within (h : c.defaults.Within q) (a : Attribute) :
    { c with defaults := q }.differs a = c.differs a ∨
      c.differs a = .ok true ∧ { c with defaults := q }.differs a = .ok false := by
  have hdrops : ∀ b b' : Bool, (b = false → b' = false) → (Except.ok b' : Except Error Bool) = .ok b ∨
      (Except.ok b : Except Error Bool) = .ok true ∧ (Except.ok b' : Except Error Bool) = .ok false := by
    decide
  cases a with
  | capAdd => exact hdrops _ _ (capAddDiffers_within h)
  | securityOpt => exact hdrops _ _ (securityOptDiffers_within h)
  | restartPolicy => exact hdrops _ _ (restartPolicyDiffers_within h)
  | _ => exact .inl rfl

end Comparison

namespace Comparator

variable {c : Comparison} {q : EngineDefaults} {d d' : Drift × List Note}

/-! ### One attribute after the other -/

theorem lookAt_within (h : c.defaults.Within q) (hd : d'.1.keys.Sublist d.1.keys) (a : Attribute) :
    ReportsNoMore (lookAt c d a) (lookAt { c with defaults := q } d' a) := by
  unfold lookAt
  rcases Comparison.differs_within h a with hsame | ⟨hdiffers, hdropped⟩
  · rw [hsame]
    rcases c.differs a with e | _ | _
    · exact .fails e
    · exact .reports hd
    · refine .reports ?_
      rw [Drift.keys_push, Drift.keys_push]
      exact hd.append_right [a]
  · rw [hdiffers, hdropped]
    refine .reports ?_
    rw [Drift.keys_push]
    exact hd.trans (List.sublist_append_left ..)

theorem foldlM_lookAt_within (h : c.defaults.Within q) (hd : d'.1.keys.Sublist d.1.keys) (l : List Attribute) :
    ReportsNoMore (l.foldlM (lookAt c) d) (l.foldlM (lookAt { c with defaults := q }) d') := by
  induction l generalizing d d' with
  | nil => exact .reports hd
  | cons a l ih =>
    have hstep := lookAt_within h hd a
    rw [List.foldlM_cons, List.foldlM_cons]
    -- either both stop here, or what the second one found so far is still a part of what the first one found
    generalize lookAt c d a = x at hstep ⊢
    generalize lookAt { c with defaults := q } d' a = x' at hstep ⊢
    cases hstep with
    | fails e => exact .fails e
    | reports hkeys => exact ih hkeys

/-- A comparison that knows of more additions fails where one that knows of fewer does, and reports no more than it.
What is no drift in a container of Docker is none in one of Podman. -/
theorem compare_within (m : VolumeMatch) (s : Spec) (live : Inspection) (image : Option Image) :
    (∀ q q' : EngineDefaults, q.Within q' →
      ReportsNoMore ((⟨q, m⟩ : Comparator).compare s live image) ((⟨q', m⟩ : Comparator).compare s live image)) ∧
    ∀ delegated : Bool, ReportsNoMore ((⟨.docker, m⟩ : Comparator).compare s live image)
      ((⟨.podman delegated, m⟩ : Comparator).compare s live image) := by
  have hwithin : ∀ q q' : EngineDefaults, q.Within q' →
      ReportsNoMore ((⟨q, m⟩ : Comparator).compare s live image) ((⟨q', m⟩ : Comparator).compare s live image) := by
    intro q q' h
    unfold compare
    cases s.validate with
    | error e => exact .fails e
    | ok => exact foldlM_lookAt_within (c := beside ⟨q, m⟩ s live image) h (.refl _) Attribute.all
  exact ⟨hwithin, fun delegated => hwithin _ _ (.docker _)⟩

/-- A container with all that Podman adds, restarted by a supervisor: Docker's comparison reports three attributes
besides its state, and Podman's none of them. -/
theorem compare_within_podman :
    let s : Spec := { restartPolicy := some "always" }
    let live : Inspection := ⟨.ofFields [("HostConfig", .ofFields [("CapAdd", .ofStrings ["CAP_AUDIT_WRITE"]),
      ("SecurityOpt", .ofStrings ["unmask=all"])])]⟩
    let c : Comparator := ⟨.docker, .path⟩
    let c' : Comparator := ⟨.podman true, .path⟩
    (EngineDefaults.docker.Within (.podman true) ∧ ReportsNoMore (c.compare s live none) (c'.compare s live none)) ∧
    (c.compare s live none).map (·.1.keys) = .ok [.capAdd, .securityOpt, .state, .restartPolicy] ∧
    (c'.compare s live none).map (·.1.keys) = .ok [.state] := by
  refine ⟨⟨.docker _, (compare_within _ _ _ _).1 _ _ (.docker _)⟩, ?_, ?_⟩
  all_goals decide +kernel

end Comparator

end Shipshape
