import Shipshape.Memory.Document
import Shipshape.Proofs.Create.Request
import Shipshape.Proofs.Drift.Rule.Command

/-!
# Commands behind an entrypoint

The words that a container runs begin with an entrypoint, the requested one or else that of the image. The rule on
commands looks for the image's only. Behind a requested entrypoint the requested command is drift on every run
(`created_command_differs_iff`), unless its words cannot be told from all of them when blanks alone separate words.
-/

namespace Shipshape

/-- The main process was started with these words. -/
def Inspection.Runs (live : Inspection) (words : List String) : Prop :=
  ∃ path arguments, words = path :: arguments ∧ live.path? = some path ∧ live.arguments = arguments

/-- In front of the words of a command stand some that are seen when blanks alone separate words. -/
def CommandLine.StandsOut (command : String) (words front : List String) : Prop :=
  front ≠ [] ∧ Text.words command ≠ (front ++ words).flatMap Text.words

theorem CommandLine.standsOut_iff_of_unquoted {command : String} {words front : List String}
    (hcommand : ∀ c ∈ command.toList, IsPlain c) (hwords : split command = .ok words) :
    StandsOut command words front ↔ ∃ w ∈ front, Text.words w ≠ [] := by
  obtain rfl : Text.words command = words := Except.ok.inj ((split_of_unquoted hcommand).symm.trans hwords)
  have hkept : (Text.words command).flatMap Text.words = Text.words command :=
    Text.flatMap_words_of_forall fun _ => Text.isWord_of_mem_words
  have hblank : front.flatMap Text.words ≠ [] ↔ ∃ w ∈ front, Text.words w ≠ [] := by
    rw [ne_eq, List.flatMap_eq_nil_iff, not_forall₂]
    simp only [exists_prop, ne_eq]
  rw [StandsOut, List.flatMap_append, hkept, ne_eq (Text.words command), List.self_eq_append_left, ← ne_eq, hblank]
  refine and_iff_right_of_imp ?_
  rintro ⟨w, hw, -⟩
  exact List.ne_nil_of_mem hw

namespace Create

theorem words?_eq_ok {line : String} {x : Option (List String)} (h : words? (some line) = .ok x) :
    ∃ words, CommandLine.split line = .ok words ∧ x = some words := by
  obtain ⟨words, hwords, h⟩ := Result.bind_eq_ok.1 h
  injection h with h
  exact ⟨words, hwords, h.symm⟩

theorem Requested.exists_words {s : Spec} {r : ContainerRequest} {command : String} (hr : Requested s r)
    (hc : s.command = some command) : ∃ words, CommandLine.split command = .ok words ∧ r.command = some words := by
  have hcommand := hr.command
  rw [hc] at hcommand
  exact words?_eq_ok hcommand

end Create

namespace Comparison

variable {c : Comparison} {r : ContainerRequest} {command : String} {words : List String}

theorem liveArguments_of_runs (h : c.live.Runs words) : c.liveArguments = words := by
  obtain ⟨path, arguments, rfl, hpath, harguments⟩ := h
  rw [liveArguments, hpath, harguments]
  rfl

theorem commandDiffers_of_requested (hr : Create.Requested c.spec r) (hc : c.spec.command = some command)
    (hwords : CommandLine.split command = .ok words) (hrc : r.command = some words)
    (hlive : c.liveArguments = Memory.processWords r c.image) :
    ∃ differs, c.commandDiffers = .ok differs ∧
      (differs = true ↔ ∃ front, r.entrypoint = some front ∧ CommandLine.StandsOut command words front) := by
  obtain ⟨differs, hdiffers, hpasses⟩ := commandDiffers_of_split hc hwords
  refine ⟨differs, hdiffers, ?_⟩
  rw [← Bool.not_eq_false, hpasses, hlive, Memory.processWords, hrc, inheritedEntrypoint,
    CommandLine.sameWords_intercalate]
  have hentrypoint := hr.entrypoint
  cases he : c.spec.entrypoint with
  | none =>
    rw [he] at hentrypoint
    have hnone : none = r.entrypoint := Except.ok.inj hentrypoint
    rw [← hnone]
    refine iff_of_false (not_not_intro (.inl (.inr rfl))) ?_
    rintro ⟨front, hfront, -⟩
    cases hfront
  | some entrypoint =>
    rw [he] at hentrypoint
    obtain ⟨front, -, hfront⟩ := Create.words?_eq_ok hentrypoint
    rw [hfront]
    -- the rule looks for no entrypoint of the image beside a declared one
    show ¬((words = front ++ words ∨ words = front ++ words) ∨ _) ↔ ∃ front', some front = some front' ∧ _
    rw [or_self, List.self_eq_append_left, not_or]
    constructor
    · exact fun hstands => ⟨front, rfl, hstands⟩
    · rintro ⟨front', hfront', hstands⟩
      rwa [Option.some.inj hfront']

end Comparison

/-- A container that runs the requested words differs in its command exactly if an entrypoint was requested that
stands out in front of them. If the command has no quotes and backslashes, every entrypoint does that is not blank. -/
theorem created_command_differs_iff {s : Spec} {r : ContainerRequest} {command : String} (hr : Create.base s = .ok r)
    (hc : s.command = some command) : ∃ words, CommandLine.split command = .ok words ∧ r.command = some words ∧
      ∀ (c : Comparator) (live : Inspection) (image : Option Image), live.Runs (Memory.processWords r image) →
        ∃ differs, (c.beside s live image).differs .command = .ok differs ∧
          (differs = true ↔ ∃ front, r.entrypoint = some front ∧ CommandLine.StandsOut command words front) ∧
          ((∀ ch ∈ command.toList, CommandLine.IsPlain ch) →
            (differs = true ↔ ∃ front, r.entrypoint = some front ∧ ∃ w ∈ front, Text.words w ≠ [])) := by
  have hrequested := (Create.base_requested hr).1
  obtain ⟨words, hwords, hrc⟩ := hrequested.exists_words hc
  refine ⟨words, hwords, hrc, fun c live image hruns => ?_⟩
  obtain ⟨differs, hdiffers, htrue⟩ := Comparison.commandDiffers_of_requested (c := c.beside s live image) hrequested hc
    hwords hrc (Comparison.liveArguments_of_runs hruns)
  refine ⟨differs, hdiffers, htrue, fun hplain => ?_⟩
  rw [htrue]
  exact exists_congr fun front => and_congr_right fun _ => CommandLine.standsOut_iff_of_unquoted hplain hwords

/-- The same words, behind the entrypoint of the image and behind a requested one. -/
theorem created_command_differs_iff_dumbInit :
    let s : Spec := { name := some "web", image := some "nginx", command := some " serve\t'--log dir'" }
    let s' : Spec := { s with entrypoint := some "dumb-init --" }
    let image : Image := { id := "sha256:1", entrypoint := ["dumb-init", "--"] }
    let live : Inspection := ⟨.ofFields
      [("Path", .str "dumb-init"), ("Args", .ofStrings ["--", "serve", "--log dir"])]⟩
    (Comparator.beside ⟨.docker, .path⟩ s live (some image)).differs .command = .ok false ∧
    (Comparator.beside ⟨.docker, .path⟩ s' live (some image)).differs .command = .ok true := by
  intro s s' image live
  have hruns : live.Runs ["dumb-init", "--", "serve", "--log dir"] :=
    ⟨"dumb-init", ["--", "serve", "--log dir"], rfl, by decide +kernel, by decide +kernel⟩
  obtain ⟨r, hr, hentrypoint, hcommand⟩ : ∃ r, Create.base s = .ok r ∧ r.entrypoint = none ∧
      r.command = some ["serve", "--log dir"] := ⟨_, rfl, by decide +kernel, by decide +kernel⟩
  obtain ⟨r', hr', hentrypoint', hcommand'⟩ : ∃ r, Create.base s' = .ok r ∧ r.entrypoint = some ["dumb-init", "--"] ∧
      r.command = some ["serve", "--log dir"] := ⟨_, rfl, by decide +kernel, by decide +kernel⟩
  have hwords : Memory.processWords r (some image) = ["dumb-init", "--", "serve", "--log dir"] := by
    rw [Memory.processWords, hentrypoint, hcommand]
    rfl
  have hwords' : Memory.processWords r' (some image) = ["dumb-init", "--", "serve", "--log dir"] := by
    rw [Memory.processWords, hentrypoint', hcommand']
    rfl
  obtain ⟨words, -, -, hall⟩ := created_command_differs_iff hr rfl
  obtain ⟨differs, hdiffers, hiff, -⟩ := hall ⟨.docker, .path⟩ live (some image) (hwords ▸ hruns)
  obtain ⟨words', -, hrc', hall'⟩ := created_command_differs_iff hr' rfl
  obtain ⟨differs', hdiffers', hiff', -⟩ := hall' ⟨.docker, .path⟩ live (some image) (hwords' ▸ hruns)
  obtain rfl := Option.some.inj (hcommand'.symm.trans hrc')
  have hnot : differs = false := by
    refine Bool.eq_false_iff.2 fun h => ?_
    obtain ⟨front, hfront, -⟩ := hiff.1 h
    rw [hentrypoint] at hfront
    cases hfront
  have hdrift : differs' = true := by
    refine hiff'.2 ⟨_, hentrypoint', by decide, ?_⟩
    decide +kernel
  exact ⟨hnot ▸ hdiffers, hdrift ▸ hdiffers'⟩

/-- The container runs just what was requested, and the rule takes the entrypoint for a part of the command. -/
theorem requested_entrypoint_drifts :
    let web : Spec := { name := some "web", image := some "nginx", command := some "serve" }
    let s : Spec := { web with entrypoint := some "dumb-init --" }
    let image : Image := { id := "sha256:1" }
    let live : Inspection := ⟨.ofFields [("Path", .str "dumb-init"), ("Args", .ofStrings ["--", "serve"])]⟩
    (∃ r, Create.base s = .ok r ∧ live.Runs (Memory.processWords r (some image))) ∧
    (Comparator.beside ⟨.docker, .path⟩ s live (some image)).differs .command = .ok true := by
  refine ⟨⟨_, rfl, "dumb-init", ["--", "serve"], ?_, ?_, ?_⟩, ?_⟩
  all_goals decide +kernel

end Shipshape
