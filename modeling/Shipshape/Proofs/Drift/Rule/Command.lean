import Shipshape.Drift.Comparator
import Shipshape.Proofs.CommandLine

/-!
# The rule on commands

A live container runs the words of the declared command, behind the entrypoint of its image if none was declared. The
rule also lets a command pass that has the words of the live one when blanks alone separate them
(`commandDiffers_iff`). This is for commands with quotes: without quotes and backslashes, and with live words that
have no blanks, nothing passes that the other comparisons refuse (`plain_command_differs_iff`).
-/

namespace Shipshape

theorem CommandLine.sameWords_intercalate {line : String} {texts : List String} :
    sameWords line (" ".intercalate texts) = true ↔ Text.words line = texts.flatMap Text.words := by
  rw [sameWords, Text.words_intercalate, beq_iff_eq]

namespace Comparison

variable {c : Comparison} {desired : String} {words : List String}

/-- No entrypoint is declared, so the container runs these words behind the one that its image has. -/
def RunsBehindEntrypoint (c : Comparison) (words : List String) : Prop :=
  c.spec.entrypoint = none ∧
    ∃ image, c.image = some image ∧ image.entrypoint ≠ [] ∧ c.liveArguments = image.entrypoint ++ words

theorem inheritedEntrypoint_eq_iff {front : List String} (hne : front ≠ []) : c.inheritedEntrypoint = front ↔
    c.spec.entrypoint = none ∧ ∃ image, c.image = some image ∧ image.entrypoint = front := by
  rw [inheritedEntrypoint]
  cases hentrypoint : c.spec.entrypoint with
  | some entrypoint => exact iff_of_false (Ne.symm hne) nofun
  | none =>
    rw [Option.isNone_none, if_pos rfl]
    cases himage : c.image with
    | none => exact iff_of_false (Ne.symm hne) nofun
    | some image => simp

theorem runsBehindEntrypoint_iff : c.RunsBehindEntrypoint words ↔
    c.inheritedEntrypoint ≠ [] ∧ c.inheritedEntrypoint ++ words = c.liveArguments := by
  constructor
  · rintro ⟨hnone, image, himage, hne, hlive⟩
    rw [(inheritedEntrypoint_eq_iff hne).2 ⟨hnone, image, himage, rfl⟩]
    exact ⟨hne, hlive.symm⟩
  · rintro ⟨hne, hlive⟩
    obtain ⟨hnone, image, himage, hfront⟩ := (inheritedEntrypoint_eq_iff hne).1 rfl
    rw [← hfront] at hne hlive
    exact ⟨hnone, image, himage, hne, hlive.symm⟩

theorem inheritedEntrypoint_append_eq_iff :
    words = c.liveArguments ∨ c.inheritedEntrypoint ++ words = c.liveArguments ↔
      words = c.liveArguments ∨ c.RunsBehindEntrypoint words := by
  rw [runsBehindEntrypoint_iff]
  by_cases hempty : c.inheritedEntrypoint = []
  · rw [hempty, List.nil_append, or_self, ne_eq, eq_self, not_true, false_and, or_false]
  · rw [ne_eq, and_iff_right hempty]

/-- A command that can be split passes exactly if the live words are its own, alone or behind what stands in front of
them, or are its own when blanks alone separate them. -/
theorem commandDiffers_of_split (hc : c.spec.command = some desired) (hwords : CommandLine.split desired = .ok words) :
    ∃ differs, c.commandDiffers = .ok differs ∧ (differs = false ↔
      (words = c.liveArguments ∨ c.inheritedEntrypoint ++ words = c.liveArguments) ∨
        CommandLine.sameWords desired (" ".intercalate c.liveArguments) = true) := by
  have hvalue : c.commandDiffers = .ok (!(words == c.liveArguments ||
      c.inheritedEntrypoint ++ words == c.liveArguments ||
      CommandLine.sameWords desired (" ".intercalate c.liveArguments))) := by
    rw [commandDiffers, hc]
    show CommandLine.split desired >>= _ = _
    rw [hwords]
    rfl
  refine ⟨_, hvalue, ?_⟩
  rw [Bool.not_eq_false', Bool.or_eq_true, Bool.or_eq_true, beq_iff_eq, beq_iff_eq]

/-- A command that can be split differs exactly if its words are not the live ones, do not run behind an entrypoint,
and are other ones even when blanks alone separate them. -/
theorem commandDiffers_iff (hc : c.spec.command = some desired) (hwords : CommandLine.split desired = .ok words) :
    ∃ differs, c.commandDiffers = .ok differs ∧ (differs = true ↔ c.liveArguments ≠ words ∧
      ¬ c.RunsBehindEntrypoint words ∧ ¬ CommandLine.sameWords desired (" ".intercalate c.liveArguments) = true) := by
  obtain ⟨differs, hdiffers, hpasses⟩ := commandDiffers_of_split hc hwords
  refine ⟨differs, hdiffers, ?_⟩
  rw [← Bool.not_eq_false, hpasses, inheritedEntrypoint_append_eq_iff, not_or, not_or, and_assoc, ne_comm]

/-- For a command without quotes and backslashes and live words without blanks, the rule reports drift exactly if the
live words are not those of the command, alone or behind the entrypoint of the image. -/
theorem plain_command_differs_iff (hc : c.spec.command = some desired)
    (hdesired : ∀ ch ∈ desired.toList, CommandLine.IsPlain ch) (hlive : ∀ w ∈ c.liveArguments, Text.IsWord w) :
    ∃ words differs, CommandLine.split desired = .ok words ∧ c.differs .command = .ok differs ∧
      (differs = true ↔ c.liveArguments ≠ words ∧ ¬ c.RunsBehindEntrypoint words) := by
  have hwords := CommandLine.split_of_unquoted hdesired
  obtain ⟨differs, hdiffers, htrue⟩ := commandDiffers_iff hc hwords
  refine ⟨Text.words desired, differs, hwords, hdiffers, ?_⟩
  rw [htrue, CommandLine.sameWords_intercalate, Text.flatMap_words_of_forall hlive]
  constructor
  · rintro ⟨hne, hnot, -⟩
    exact ⟨hne, hnot⟩
  · rintro ⟨hne, hnot⟩
    exact ⟨hne, hnot, hne.symm⟩

/-- A container runs the declared words behind the entrypoint of its image, which is no drift. It is, if that
entrypoint is declared as well. -/
theorem plain_command_differs_iff_behind :
    let s : Spec := { command := some " serve\t --debug" }
    let live : Inspection := ⟨.ofFields [("Path", .str "dumb-init"), ("Args", .ofStrings ["--", "serve", "--debug"])]⟩
    let image : Image := { id := "sha256:1", entrypoint := ["dumb-init", "--"] }
    let c : Comparison := ⟨s, live, some image, .docker, .path⟩
    let c' : Comparison := ⟨{ s with entrypoint := some "dumb-init --" }, live, some image, .docker, .path⟩
    c.differs .command = .ok false ∧ c'.differs .command = .ok true := by
  intro s live image c c'
  have hplain : ∀ ch ∈ " serve\t --debug".toList, CommandLine.IsPlain ch :=
    List.all_iff_forall_prop.1 (by decide)
  have hlive : live.path?.toList ++ live.arguments = ["dumb-init", "--", "serve", "--debug"] := by decide +kernel
  have hword : ∀ w ∈ live.path?.toList ++ live.arguments, Text.IsWord w := by
    rw [hlive]
    decide
  have hsplit : CommandLine.split " serve\t --debug" = .ok ["serve", "--debug"] := by decide +kernel
  obtain ⟨words, differs, hwords, hdiffers, hiff⟩ := plain_command_differs_iff (c := c) rfl hplain hword
  obtain ⟨words', differs', hwords', hdiffers', hiff'⟩ := plain_command_differs_iff (c := c') rfl hplain hword
  obtain rfl := Except.ok.inj (hsplit.symm.trans hwords)
  obtain rfl := Except.ok.inj (hsplit.symm.trans hwords')
  have hbehind : c.RunsBehindEntrypoint ["serve", "--debug"] := ⟨rfl, image, rfl, by decide, hlive⟩
  have hnot : differs = false := Bool.eq_false_iff.2 fun h => (hiff.1 h).2 hbehind
  have hdrift : differs' = true := by
    refine hiff'.2 ⟨?_, nofun⟩
    show live.path?.toList ++ live.arguments ≠ _
    rw [hlive]
    decide
  exact ⟨hnot ▸ hdiffers, hdrift ▸ hdiffers'⟩

end Comparison

end Shipshape
