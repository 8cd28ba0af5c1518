import Shipshape.Proofs.Drift.Rule.Entrypoint
import Shipshape.Proofs.Drift.Rule.Privilege

/-!
# What a new container has from its image

A new container is made from the local image if there is one. It differs in its labels if the image has one
of them with another value, and in its command if an entrypoint was declared beside it.
-/

namespace Shipshape

/-- No label of the image is declared with another value. -/
def Spec.KeepsLabels (s : Spec) (image : Image) : Prop :=
  ∀ e ∈ image.labels.entries, ∀ v, s.labels.get? e.1 = some v → v = e.2

/-- Of a command beside an entrypoint: the entrypoint has no words, or none that are seen between blanks. -/
def Spec.KeepsCommand (s : Spec) : Prop :=
  ∀ command entrypoint words front, s.command = some command → s.entrypoint = some entrypoint →
    CommandLine.split command = .ok words → CommandLine.split entrypoint = .ok front →
      front = [] ∨ CommandLine.sameWords command (" ".intercalate (front ++ words)) = true

theorem Create.Requested.keepsCommand_iff {s : Spec} {r : ContainerRequest} {command : String} {words : List String}
    (hr : Requested s r) (hc : s.command = some command) (hwords : CommandLine.split command = .ok words) :
    s.KeepsCommand ↔ ¬∃ front, r.entrypoint = some front ∧ CommandLine.StandsOut command words front := by
  have hrequested := hr.entrypoint
  constructor
  · rintro hkeeps ⟨front, hfront, hne, hseen⟩
    cases he : s.entrypoint with
    | none =>
      rw [he] at hrequested
      cases (Except.ok.inj hrequested).trans hfront
    | some entrypoint =>
      rw [he, hfront] at hrequested
      obtain ⟨front', hsplit, hfront'⟩ := words?_eq_ok hrequested
      obtain rfl := Option.some.inj hfront'
      rcases hkeeps command entrypoint words front hc he hwords hsplit with hempty | hsame
      · exact hne hempty
      · exact hseen (CommandLine.sameWords_intercalate.1 hsame)
  · intro hnot command' entrypoint words' front hc' he hwords' hsplit
    obtain rfl := Option.some.inj (hc.symm.trans hc')
    obtain rfl := Except.ok.inj (hwords.symm.trans hwords')
    rw [he] at hrequested
    obtain ⟨front', hsplit', hfront⟩ := words?_eq_ok hrequested
    obtain rfl := Except.ok.inj (hsplit.symm.trans hsplit')
    by_contra hstands
    rw [not_or, CommandLine.sameWords_intercalate] at hstands
    exact hnot ⟨front, hfront, hstands⟩

namespace Comparison

variable {s : Spec} {m : VolumeMatch} {r : ContainerRequest} {image : Option Image}

theorem liveArguments_ofRequest :
    (ofRequest s m r image).liveArguments = Memory.processWords r image := by
  have hpath : (ofRequest s m r image).live.path? = (Memory.processWords r image).head? := Memory.view_path
  have hargs : (ofRequest s m r image).live.arguments = (Memory.processWords r image).tail :=
    Memory.view_arguments
  rw [liveArguments, hpath, hargs]
  cases Memory.processWords r image with
  | nil => rfl
  | cons word words => rfl

section

variable (h : Create.request s = .ok r)

include h

theorem imageDiffers_ofRequest : (ofRequest s m r image).imageDiffers = false ↔ ∃ i, image = some i := by
  have hr := Create.request_requested h
  have hspec : (ofRequest s m r image).spec.image = some r.image := hr.image
  have himage : (ofRequest s m r image).image = image := rfl
  have hid : (ofRequest s m r image).live.imageId? = some ((image.map (·.id)).getD "") :=
    Memory.view_imageId
  have hname : (ofRequest s m r image).live.configValue? "Image" = some (.str r.image) :=
    Memory.view_configImage
  rw [imageDiffers, hspec, himage, hid, hname]
  cases image with
  | none => simp
  | some i => simp [Json.string?]

theorem labelsDiffer_ofRequest {i : Image} :
    (ofRequest s m r (some i)).labelsDiffer = false ↔ s.KeepsLabels i := by
  have hlive : (ofRequest s m r (some i)).live.labels = s.labels :=
    Memory.view_labels.trans (Create.request_requested h).labels
  have hown : (ofRequest s m r (some i)).ownLabels = s.labels := by
    rw [ownLabels, hlive]
    refine Dict.filter_eq_self fun e he => ?_
    have hcontains : s.labels.contains e.1 = true := Dict.contains_iff.2 (List.mem_map_of_mem he)
    rw [Bool.or_eq_true]
    exact .inr hcontains
  have hoverridden : (ofRequest s m r (some i)).labelOverridden = false ↔ s.KeepsLabels i := by
    show (i.labels.entries.any fun e => (s.labels.get? e.1).any (· != e.2)) = false ↔ _
    rw [List.any_eq_false]
    refine forall₂_congr fun e _ => ?_
    cases s.labels.get? e.1 with
    | none => simp
    | some v => simp
  rw [labelsDiffer, hown, ← hoverridden]
  simp [ofRequest, Comparator.beside]

theorem commandDiffers_ofRequest :
    (ofRequest s m r image).commandDiffers = .ok false ↔ s.KeepsCommand := by
  have hr := Create.request_requested h
  cases hc : s.command with
  | none =>
    rw [commandDiffers, ofRequest_spec, hc]
    simp [Spec.KeepsCommand, hc]
  | some command =>
    obtain ⟨words, hwords, hrc⟩ := hr.exists_words hc
    obtain ⟨differs, hdiffers, htrue⟩ := commandDiffers_of_requested (c := ofRequest s m r image) hr hc hwords hrc
      liveArguments_ofRequest
    rw [hdiffers, Except.ok.injEq, ← Bool.not_eq_true, htrue, hr.keepsCommand_iff hc hwords]

end

end Comparison

end Shipshape
