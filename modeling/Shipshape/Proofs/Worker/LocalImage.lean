import Mathlib.Logic.Function.Basic
import Shipshape.Proofs.Engine.Responder
import Shipshape.Proofs.Memory.Calm
import Shipshape.Proofs.Reconcile.Configuration
import Shipshape.Proofs.Text
import Shipshape.Worker.Image

/-!
# Images that stay available

An engine that keeps its images by their references (`Responder.KeepsImages`) finds under a reference what was
fetched under it, an absent tag being read as `latest`. `ensured_image_available_iff`: once the image of a
specification was ensured, such an engine has it: looking for it finds it, and ensuring it again fetches
nothing. The exception are references that are fetched under another name than they are looked for under, since
a registry is put in front of them (`Spec.FetchesElsewhere`).

Proof outline. Splitting a reference and putting it together again only adds an absent tag
(`splitReference_join`), so without a registry in front the request is for the very reference that is looked for
(`reference_pullRequest_eq_iff`). What looking and fetching do to such an engine is said once each
(`KeepsImages.check`, `KeepsImages.pull`), and ensuring is one or the other.
-/

namespace Shipshape

open Procedure Worker

/-! ### References -/

namespace Create

/-- Whether a reference names a tag, that is, whether there is a colon behind its last slash. -/
def namesTag (reference : String) : Bool :=
  (reference.toList.reverse.takeWhile (· != '/')).contains ':'

/-- The reference with the tag that an engine reads it with. -/
def fullReference (reference : String) : String :=
  if namesTag reference then reference else reference ++ ":latest"

variable {s : Spec} {reference : String}

theorem namesTag_append (repository : List Char) {tag : List Char} (htag : ':' ∉ tag) :
    namesTag (.ofList (repository ++ ':' :: tag)) = !tag.contains '/' := by
  rw [namesTag, String.toList_ofList, List.reverse_append, List.reverse_cons, List.append_assoc,
    List.contains_eq_mem, List.contains_eq_mem]
  by_cases hslash : '/' ∈ tag
  · obtain ⟨front, rest, rfl⟩ := List.append_of_mem hslash
    have hstop : ∀ last : List Char, ':' ∉ (rest.reverse ++ '/' :: last).takeWhile (· != '/') := by
      intro last hmem
      rw [List.takeWhile_append] at hmem
      split at hmem
      · rw [List.takeWhile_cons_of_neg (by simp), List.append_nil] at hmem
        exact htag (by simp [List.mem_reverse.1 hmem])
      · exact htag (by simp [List.mem_reverse.1 ((List.takeWhile_prefix _).subset hmem)])
    simp [hstop, hslash]
  · have hgo : ∀ c ∈ tag.reverse, (c != '/') = true := by
      intro c hc
      rw [bne_iff_ne]
      rintro rfl
      exact hslash (List.mem_reverse.1 hc)
    rw [List.takeWhile_append_of_pos hgo]
    simp [hslash]

theorem namesTag_of_not_mem (h : ':' ∉ reference.toList) : namesTag reference = false := by
  rw [namesTag, List.contains_eq_mem, decide_eq_false_iff_not]
  exact fun hmem => h (List.mem_reverse.1 ((List.takeWhile_prefix _).subset hmem))

/-- The two parts of a reference, put together again. -/
theorem splitReference_join (reference : String) :
    (splitReference reference).1 ++ ":" ++ (splitReference reference).2 = fullReference reference := by
  unfold splitReference
  split
  · next repository tag hsplit =>
    obtain ⟨hreference, htag⟩ := Text.splitLast?_eq_some hsplit
    have hnames := namesTag_append repository htag
    rw [← hreference, String.ofList_toList] at hnames
    rw [fullReference, hnames]
    split
    · next hslash => rw [hslash, String.append_assoc]; rfl
    · next hslash =>
      rw [Bool.not_eq_true] at hslash
      rw [hslash, Bool.not_false, if_pos rfl]
      refine String.toList_inj.1 ?_
      rw [hreference, String.toList_append, String.toList_append, List.append_assoc]
      simp
  · next hsplit =>
    rw [fullReference, namesTag_of_not_mem (Text.splitLast?_eq_none_iff.1 hsplit), String.append_assoc]
    rfl

theorem slash_mem_repository (reference : String) :
    '/' ∈ (splitReference reference).1.toList ↔ '/' ∈ reference.toList := by
  unfold splitReference
  split
  · next repository tag hsplit =>
    split
    · rfl
    · next hslash =>
      rw [List.contains_eq_mem, decide_eq_true_eq] at hslash
      rw [(Text.splitLast?_eq_some hsplit).1, String.toList_ofList, List.mem_append, List.mem_cons]
      simp [hslash]
  · rfl

end Create

/-- The image is fetched under another name than the declared one: a registry is put in front of it. -/
def Spec.FetchesElsewhere (s : Spec) : Prop :=
  ∃ reference registry, s.image = some reference ∧ s.authRegistry = some registry ∧ registry ≠ "" ∧
    '/' ∉ reference.toList

namespace Create

variable {s : Spec} {reference : String}

/-- The request for an image is for the reference with its tag, except where a registry is put in front. -/
theorem reference_pullRequest_eq_iff (himage : s.image = some reference) :
    (pullRequest s reference).reference = fullReference reference ↔ ¬ s.FetchesElsewhere := by
  have hreference : (pullRequest s reference).reference =
      qualified s (splitReference reference).1 ++ ":" ++ (splitReference reference).2 := rfl
  rw [hreference, ← splitReference_join, qualified]
  split
  · next registry hregistry =>
    obtain ⟨hregistry, hempty⟩ := Option.filter_eq_some_iff.1 hregistry
    rw [bne_iff_ne] at hempty
    rw [List.contains_eq_mem]
    by_cases hslash : '/' ∈ reference.toList
    · have hmem := (slash_mem_repository reference).2 hslash
      simp only [hmem, decide_true, if_true, true_iff]
      rintro ⟨reference', -, himage', -, -, hnone⟩
      rw [himage] at himage'
      cases himage'
      exact hnone hslash
    · have hmem := mt (slash_mem_repository reference).1 hslash
      simp only [hmem, decide_false, Bool.false_eq_true, if_false]
      refine iff_of_false (fun h => ?_) (not_not.2 ⟨reference, registry, himage, hregistry, hempty, hslash⟩)
      have hlength := congrArg String.length h
      simp only [String.length_append] at hlength
      have hslashLength : "/".length = 1 := by decide
      omega
  · next hregistry =>
    refine iff_of_true rfl ?_
    rintro ⟨-, registry, -, hsome, hempty, -⟩
    rw [hsome] at hregistry
    simp [hempty] at hregistry

end Create

/-! ### Engines that keep their images -/

/-- From usable states, the engine finds an image by its full reference, and one that was fetched is found
under the reference of the request, and nowhere else. -/
structure Responder.KeepsImages {σ : Type} (E : Responder σ) (usable : σ → Prop)
    (images : σ → String → Option Image) : Prop where
  found : ∀ x reference image, usable x → images x (Create.fullReference reference) = some image →
    (E.answer x (.engine (.inspectImage reference))).1 = .ok image
  missing : ∀ x reference, usable x → images x (Create.fullReference reference) = none →
    ∃ f, (E.answer x (.engine (.inspectImage reference))).1 = .error f ∧ f.isNotFound = true
  looked : ∀ x reference, usable x → usable (E.answer x (.engine (.inspectImage reference))).2 ∧
    images (E.answer x (.engine (.inspectImage reference))).2 = images x
  fetched : ∀ x request image, usable x → (E.answer x (.engine (.pullImage request))).1 = .ok (some image) →
    usable (E.answer x (.engine (.pullImage request))).2 ∧
      images (E.answer x (.engine (.pullImage request))).2 =
        Function.update (images x) request.reference (some image)

/-- The image is there: it is found, and ensuring it changes nothing. -/
structure Responder.Provides {σ : Type} (E : Responder σ) (s : Spec) (x : σ) : Prop where
  found : ∃ image, E.result (checkImage s) x = .ok (some image)
  unchanged : E.result (ensureImage s) x = .ok false
  untouched : (E.events (ensureImage s) x).Untouched

namespace Responder

variable {σ : Type} {E : Responder σ} {usable : σ → Prop} {images : σ → String → Option Image} {s : Spec}
  {reference : String} {x : σ}

namespace KeepsImages

variable (h : E.KeepsImages usable images) (hx : usable x) (himage : s.image = some reference)

include h hx himage in
/-- Looking for the image finds what is kept under its full reference, and changes nothing. -/
theorem check : E.result (checkImage s) x = .ok (images x (Create.fullReference reference)) ∧
    usable (E.after (checkImage s) x) ∧ images (E.after (checkImage s) x) = images x := by
  have hcheck : checkImage s = engineIfFound (.inspectImage reference) := by
    rw [checkImage, himage]
  have hlooked := h.looked x reference hx
  rw [hcheck]
  unfold engineIfFound
  obtain ⟨hresult, -, hafter⟩ := E.bind_of_ok (E.result_engine (.inspectImage reference) x)
  rw [hresult, hafter, after_engine]
  cases hkept : images x (Create.fullReference reference) with
  | some image =>
    rw [h.found x reference image hx hkept]
    exact ⟨rfl, hlooked⟩
  | none =>
    obtain ⟨f, hmissing, hnotFound⟩ := h.missing x reference hx hkept
    rw [hmissing]
    simp only [hnotFound, if_true]
    exact ⟨rfl, hlooked⟩

include h hx himage in
/-- Fetching the image succeeds where the engine, having been looked at, has one to give. -/
theorem pull : (∀ fetched, E.result (pullImage s) x = .ok fetched ↔ ∃ image,
      (E.answer (E.after (checkImage s) x) (.engine (.pullImage (Create.pullRequest s reference)))).1 =
        .ok (some image) ∧ (images x (Create.fullReference reference) != some image) = fetched) ∧
    E.after (pullImage s) x =
      (E.answer (E.after (checkImage s) x) (.engine (.pullImage (Create.pullRequest s reference)))).2 := by
  obtain ⟨hcheck, -, -⟩ := h.check hx himage
  rw [pullImage, Spec.requireImage, himage]
  obtain ⟨hresult, -, hafter⟩ := E.bind_of_ok (E.result_ofExcept (.ok reference) x)
  rw [hresult, hafter, after_ofExcept]
  obtain ⟨hresult, -, hafter⟩ := E.bind_of_ok hcheck
  rw [hresult, hafter]
  obtain ⟨hresult, -, hafter⟩ := E.bind_of_ok
    (E.result_engine (.pullImage (Create.pullRequest s reference)) (E.after (checkImage s) x))
  rw [hresult, hafter, after_engine]
  constructor
  · intro fetched
    rcases (E.answer (E.after (checkImage s) x) _).1 with f | image
    · refine iff_of_false (fun hok => ?_) ?_
      · cases hok
      · rintro ⟨image, hsome, -⟩
        cases hsome
    · cases image with
      | none =>
        refine iff_of_false (fun hok => ?_) ?_
        · cases hok
        · rintro ⟨image, hsome, -⟩
          cases hsome
      | some image =>
        constructor
        · intro hok
          exact ⟨image, rfl, Except.ok.inj hok⟩
        · rintro ⟨_, hsome, hnew⟩
          cases hsome
          exact congrArg Except.ok hnew
  · rcases (E.answer (E.after (checkImage s) x) _).1 with f | image
    · rfl
    · cases image with
      | none => rfl
      | some image => rfl

include himage in
theorem ensureImage_eq : ensureImage s =
    checkImage s >>= fun found => if found.isSome then pure false else pullImage s := by
  rw [ensureImage, himage]
  rfl

include h hx himage in
theorem ensure_of_kept {image : Image} (hkept : images x (Create.fullReference reference) = some image) :
    E.Provides s x ∧ images (E.after (ensureImage s) x) = images x ∧ usable (E.after (ensureImage s) x) := by
  obtain ⟨hcheck, husable, hsame⟩ := h.check hx himage
  rw [hkept] at hcheck
  obtain ⟨hresult, hevents, hafter⟩ := E.bind_of_ok (f := fun found =>
    if found.isSome then (pure false : Procedure Bool) else pullImage s) hcheck
  rw [← ensureImage_eq himage] at hresult hevents hafter
  refine ⟨⟨⟨image, hcheck⟩, hresult, ?_⟩, ?_⟩
  · rw [hevents]
    show History.Untouched (E.events (checkImage s) x ++ [])
    rw [List.append_nil]
    exact (asks_checkImage.mono (by decide)).untouched (E.run_events _ x)
  · rw [hafter]
    exact ⟨hsame, husable⟩

include h hx himage in
theorem ensure_of_missing (hmissing : images x (Create.fullReference reference) = none) :
    E.result (ensureImage s) x = E.result (pullImage s) (E.after (checkImage s) x) ∧
      E.after (ensureImage s) x = E.after (pullImage s) (E.after (checkImage s) x) := by
  obtain ⟨hcheck, -, -⟩ := h.check hx himage
  rw [hmissing] at hcheck
  rw [ensureImage_eq himage]
  obtain ⟨hresult, -, hafter⟩ := E.bind_of_ok (f := fun found =>
    if found.isSome then (pure false : Procedure Bool) else pullImage s) hcheck
  exact ⟨hresult, hafter⟩

include h hx himage in
theorem ensure_fetched (hmissing : images x (Create.fullReference reference) = none) {fetched : Bool}
    (hfetched : E.result (ensureImage s) x = .ok fetched) : usable (E.after (ensureImage s) x) ∧
      ∃ image, images (E.after (ensureImage s) x) =
        Function.update (images x) (Create.pullRequest s reference).reference (some image) := by
  obtain ⟨hresult, hafter⟩ := h.ensure_of_missing hx himage hmissing
  rw [hresult] at hfetched
  -- the image is looked for a second time before it is fetched
  obtain ⟨-, hlooked, hsame⟩ := h.check hx himage
  obtain ⟨-, hlooked', hsame'⟩ := h.check hlooked himage
  obtain ⟨hpull, hpulled⟩ := h.pull hlooked himage
  obtain ⟨image, hanswer, -⟩ := (hpull fetched).1 hfetched
  obtain ⟨husable, hstored⟩ := h.fetched _ _ image hlooked' hanswer
  rw [hafter, hpulled]
  exact ⟨husable, image, by rw [hstored, hsame', hsame]⟩

include h hx himage in
theorem ensure_succeeds (hserved : ∀ y, usable y → ∃ image,
      (E.answer y (.engine (.pullImage (Create.pullRequest s reference)))).1 = .ok (some image)) :
    ∃ fetched, E.result (ensureImage s) x = .ok fetched := by
  cases hkept : images x (Create.fullReference reference) with
  | some image => exact ⟨false, (h.ensure_of_kept hx himage hkept).1.unchanged⟩
  | none =>
    obtain ⟨hresult, -⟩ := h.ensure_of_missing hx himage hkept
    obtain ⟨-, hlooked, -⟩ := h.check hx himage
    obtain ⟨image, hanswer⟩ := hserved _ (h.check hlooked himage).2.1
    rw [hresult]
    exact ⟨_, ((h.pull hlooked himage).1 _).2 ⟨image, hanswer, rfl⟩⟩

end KeepsImages

/-! ### The engine in memory -/

/-- The world in memory, with an engine that reads an absent tag as `latest`. -/
def readingTags : Responder World where
  answer
    | w, .engine (.inspectImage reference) =>
      w.answer (.engine (.inspectImage (Create.fullReference reference)))
    | w, c => w.answer c
  pause w ms := { w with slept := w.slept + ms }

/-- No call fails by order, and the registry is this one. -/
def Serving (registry : Dict Image) (w : World) : Prop := w.faults = ∅ ∧ w.engine.registry = registry

theorem answer_pullImage {registry : Dict Image} {w : World} (hw : Serving registry w) (request : PullRequest) :
    (readingTags.answer w (.engine (.pullImage request))).1 = .ok (registry.get? request.reference) := by
  show (w.answer _).1 = _
  rw [World.answer_engine hw.1, ← hw.2]
  show (MemoryEngine.pullImage _ _).1 = _
  unfold MemoryEngine.pullImage
  split
  · next hnone => rw [hnone]
  · next hsome => rw [hsome]

theorem keepsImages_readingTags (registry : Dict Image) :
    readingTags.KeepsImages (Serving registry) fun w reference => w.engine.images.get? reference where
  found w reference image hw hkept := by
    show (w.answer _).1 = _
    rw [World.answer_engine hw.1]
    show MemoryEngine.found _ _ _ = _
    rw [hkept]
    rfl
  missing w reference hw hkept := by
    refine ⟨MemoryEngine.notFound "image" (Create.fullReference reference), ?_, rfl⟩
    show (w.answer _).1 = _
    rw [World.answer_engine hw.1]
    show MemoryEngine.found _ _ _ = _
    rw [hkept]
    rfl
  looked w reference hw := by
    show Serving registry (w.answer _).2 ∧ (fun reference' => (w.answer _).2.engine.images.get? reference') = _
    rw [World.answer_engine hw.1]
    exact ⟨hw, rfl⟩
  fetched w request image hw hanswer := by
    rw [answer_pullImage hw] at hanswer
    show Serving registry (w.answer _).2 ∧ (fun reference => (w.answer _).2.engine.images.get? reference) = _
    rw [World.answer_engine hw.1]
    have hpull : w.engine.answer (.pullImage request) =
        (.ok (some image), { w.engine with images := w.engine.images.insert request.reference image }) := by
      have hserved : w.engine.registry.get? request.reference = some image := by
        rw [hw.2]
        exact Except.ok.inj hanswer
      show MemoryEngine.pullImage _ _ = _
      rw [MemoryEngine.pullImage, hserved]
    rw [hpull]
    refine ⟨hw, funext fun reference => ?_⟩
    rw [Dict.get?_insert, Function.update_apply]

theorem result_ensureImage_serving {registry : Dict Image} {w : World} {image : Image} (hw : Serving registry w)
    (himage : s.image = some reference)
    (hmissing : w.engine.images.get? (Create.fullReference reference) = none)
    (hserved : registry.get? (Create.pullRequest s reference).reference = some image) :
    readingTags.result (ensureImage s) w = .ok true := by
  have hkeeps := keepsImages_readingTags registry
  obtain ⟨hresult, -⟩ := hkeeps.ensure_of_missing hw himage hmissing
  obtain ⟨-, hlooked, hsame⟩ := hkeeps.check hw himage
  rw [hresult, (hkeeps.pull hlooked himage).1]
  refine ⟨image, ?_, ?_⟩
  · rw [answer_pullImage (hkeeps.check hlooked himage).2.1, hserved]
  · rw [congrFun hsame _, hmissing]
    rfl

end Responder

/-- The image of a specification is there once it was ensured, on every engine that keeps its images by their
references, unless it is fetched under another name than it is looked for under. Ensuring it succeeds where the
engine can fetch it. -/
theorem Worker.ensured_image_available_iff (s : Spec) :
    ((∀ (σ : Type) (E : Responder σ) (usable : σ → Prop) (images : σ → String → Option Image) (x : σ)
        (fetched : Bool), E.KeepsImages usable images → usable x → s.image.isSome →
        E.result (ensureImage s) x = .ok fetched → E.Provides s (E.after (ensureImage s) x)) ↔
      ¬ s.FetchesElsewhere) ∧
    ∀ (σ : Type) (E : Responder σ) (usable : σ → Prop) (images : σ → String → Option Image) (x : σ)
        (reference : String), E.KeepsImages usable images → usable x → s.image = some reference →
      (∀ y, usable y → ∃ image,
        (E.answer y (.engine (.pullImage (Create.pullRequest s reference)))).1 = .ok (some image)) →
      ∃ fetched, E.result (ensureImage s) x = .ok fetched := by
  refine ⟨⟨?_, ?_⟩, fun σ E usable images x reference hkeeps hx himage hserved =>
    hkeeps.ensure_succeeds hx himage hserved⟩
  · intro hclaim helsewhere
    obtain ⟨reference, -, himage, -⟩ := id helsewhere
    have hreference := mt (Create.reference_pullRequest_eq_iff himage).1 (not_not.2 helsewhere)
    -- a registry that has what is asked for, and an engine without images
    let image : Image := { id := "sha256:1" }
    let registry : Dict Image := Dict.insert (Create.pullRequest s reference).reference image ∅
    have hkeeps := Responder.keepsImages_readingTags registry
    have hserving : Responder.Serving registry { engine := { registry } } := ⟨rfl, rfl⟩
    have hok := Responder.result_ensureImage_serving hserving himage rfl (Dict.get?_insert_self ..)
    obtain ⟨husable, image', hstored⟩ := hkeeps.ensure_fetched hserving himage rfl hok
    have hnone := (congrFun hstored _).trans (Function.update_of_ne (Ne.symm hreference) _ _)
    obtain ⟨found, hfound⟩ := (hclaim World _ _ _ _ true hkeeps hserving (himage ▸ rfl) hok).found
    rw [(hkeeps.check husable himage).1, hnone] at hfound
    cases hfound
  · intro hhere σ E usable images x fetched hkeeps hx hsome hfetched
    obtain ⟨reference, himage⟩ := Option.isSome_iff_exists.1 hsome
    cases hkept : images x (Create.fullReference reference) with
    | some image =>
      obtain ⟨-, hsame, husable⟩ := hkeeps.ensure_of_kept hx himage hkept
      exact (hkeeps.ensure_of_kept husable himage ((congrFun hsame _).trans hkept)).1
    | none =>
      obtain ⟨husable, image, hstored⟩ := hkeeps.ensure_fetched hx himage hkept hfetched
      rw [(Create.reference_pullRequest_eq_iff himage).2 hhere] at hstored
      exact (hkeeps.ensure_of_kept husable himage ((congrFun hstored _).trans (Function.update_self ..))).1

/-! ### An image behind a registry -/

/-- An image without a registry in its name, and a registry to fetch it from. -/
def borrowedSpec : Spec := { image := "nginx:1", authRegistry := "reg.local" }

def borrowedRegistry : Dict Image := .ofList [("reg.local/nginx:1", { id := "sha256:1" })]

/-- The image that was fetched is not found, and it is fetched again. -/
theorem fetched_in_vain :
    let E := Responder.readingTags
    let x : World := { engine := { registry := borrowedRegistry } }
    (E.KeepsImages (Responder.Serving borrowedRegistry) fun w reference => w.engine.images.get? reference) ∧
      Responder.Serving borrowedRegistry x ∧ E.result (ensureImage borrowedSpec) x = .ok true ∧
      E.result (checkImage borrowedSpec) (E.after (ensureImage borrowedSpec) x) = .ok none ∧
      E.result (ensureImage borrowedSpec) (E.after (ensureImage borrowedSpec) x) = .ok true := by
  refine ⟨Responder.keepsImages_readingTags _, ⟨rfl, rfl⟩, ?_, ?_, ?_⟩
  · rfl
  · rfl
  · rfl

end Shipshape
