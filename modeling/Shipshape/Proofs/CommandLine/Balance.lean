import Shipshape.Proofs.CommandLine
import Shipshape.Proofs.Result

/-!
# Balanced command lines

A line has no words exactly if its end leaves a quote open, or a backslash with nothing behind it (`EndsOpen`). A line
that has words can be continued: behind it and blanks, another line has the words that it has on its own
(`split_behind`).

Proof outline. What the scanner is in the middle of depends on the last character and on what it was in the middle of
before, and not on the words (`mode_step`); so it is a fold over the line, and to each mode belongs one shape of the
text that was read (`Leaves`), kept by every character. For lines that are put together, words that were finished
earlier are carried along behind the scanner's own (`scan_behind`), and blanks behind a closed line take the scanner
back to the start of a line (`scan_blanks`).
-/

namespace Shipshape.CommandLine

variable {s : State} {m : Mode} {words ws : List (List Char)} {cs front inner blanks : List Char} {c : Char}

/-! ### What stands open -/

/-- What the scanner is in the middle of behind one more character. -/
def Mode.next : Mode → Char → Mode
  | .plain, c =>
    if c = '\'' then .singleQuoted else if c = '"' then .doubleQuoted else if c = '\\' then .escaped else .plain
  | .singleQuoted, c => if c = '\'' then .plain else .singleQuoted
  | .doubleQuoted, c => if c = '"' then .plain else if c = '\\' then .doubleEscaped else .doubleQuoted
  | .escaped, _ => .plain
  | .doubleEscaped, _ => .doubleQuoted

theorem mode_flush (s : State) : s.flush.mode = s.mode := by
  rw [State.flush]
  split
  · rfl
  · rfl

theorem mode_step (s : State) (c : Char) : (step s c).mode = s.mode.next c := by
  rw [step]
  cases hmode : s.mode with
  | plain =>
    simp only [Mode.next, apply_ite State.mode, mode_flush, State.push, hmode, ite_self]
  | singleQuoted => simp only [Mode.next, apply_ite State.mode, State.push, hmode]
  | doubleQuoted => simp only [Mode.next, apply_ite State.mode, State.push, hmode]
  | escaped => simp only [Mode.next, apply_ite State.mode, ite_self]
  | doubleEscaped => simp only [Mode.next, apply_ite State.mode, ite_self]

theorem mode_scan (s : State) (cs : List Char) : (scan s cs).mode = cs.foldl Mode.next s.mode := by
  induction cs generalizing s with
  | nil => rfl
  | cons c cs ih => rw [scan_cons, ih, mode_step, List.foldl_cons]

/-- What may stand between double quotes: every quote and every backslash has a backslash of its own in front of it,
which may stand in front of other characters too. -/
inductive Guarded : List Char → Prop
  | nil : Guarded []
  | bare {inner : List Char} {c : Char} (h : Guarded inner) (hquote : c ≠ '"') (hbackslash : c ≠ '\\') :
      Guarded (inner ++ [c])
  | escaped {inner : List Char} (h : Guarded inner) (c : Char) : Guarded (inner ++ ['\\', c])

/-- A text that leaves nothing open: characters on their own or behind a backslash, and what stands between quotes. -/
inductive Closed : List Char → Prop
  | nil : Closed []
  | bare {front : List Char} {c : Char} (h : Closed front) (hc : IsPlain c) : Closed (front ++ [c])
  | escaped {front : List Char} (h : Closed front) (c : Char) : Closed (front ++ ['\\', c])
  | single {front inner : List Char} (h : Closed front) (hinner : '\'' ∉ inner) :
      Closed (front ++ '\'' :: inner ++ ['\''])
  | double {front inner : List Char} (h : Closed front) (hinner : Guarded inner) :
      Closed (front ++ '"' :: inner ++ ['"'])

/-- What a text leaves open at its end, and the shape of such a text. -/
inductive Leaves : Mode → List Char → Prop
  | plain {cs : List Char} (h : Closed cs) : Leaves .plain cs
  | escaped {front : List Char} (h : Closed front) : Leaves .escaped (front ++ ['\\'])
  | singleQuoted {front inner : List Char} (h : Closed front) (hinner : '\'' ∉ inner) :
      Leaves .singleQuoted (front ++ '\'' :: inner)
  | doubleQuoted {front inner : List Char} (h : Closed front) (hinner : Guarded inner) :
      Leaves .doubleQuoted (front ++ '"' :: inner)
  | doubleEscaped {front inner : List Char} (h : Closed front) (hinner : Guarded inner) :
      Leaves .doubleEscaped (front ++ '"' :: inner ++ ['\\'])

/-- A text that ends inside quotes, or behind a backslash that escapes nothing. -/
def EndsOpen (cs : List Char) : Prop := ∃ mode, mode ≠ .plain ∧ Leaves mode cs

theorem Leaves.next (h : Leaves m cs) (c : Char) : Leaves (m.next c) (cs ++ [c]) := by
  cases h with
  | plain h =>
    rw [Mode.next]
    by_cases hsingle : c = '\''
    · rw [if_pos hsingle, hsingle]
      exact .singleQuoted h List.not_mem_nil
    · by_cases hdouble : c = '"'
      · rw [if_neg hsingle, if_pos hdouble, hdouble]
        exact .doubleQuoted h .nil
      · by_cases hbackslash : c = '\\'
        · rw [if_neg hsingle, if_neg hdouble, if_pos hbackslash, hbackslash]
          exact .escaped h
        · rw [if_neg hsingle, if_neg hdouble, if_neg hbackslash]
          exact .plain (h.bare ⟨hsingle, hdouble, hbackslash⟩)
  | escaped h =>
    rw [List.append_assoc]
    exact .plain (h.escaped c)
  | singleQuoted h hinner =>
    rw [Mode.next]
    by_cases hquote : c = '\''
    · rw [if_pos hquote, hquote]
      exact .plain (h.single hinner)
    · rw [if_neg hquote, List.append_assoc]
      exact .singleQuoted h fun hmem => (List.mem_append.1 hmem).elim hinner fun hc =>
        hquote (List.mem_singleton.1 hc).symm
  | doubleQuoted h hinner =>
    rw [Mode.next]
    by_cases hquote : c = '"'
    · rw [if_pos hquote, hquote]
      exact .plain (h.double hinner)
    · by_cases hbackslash : c = '\\'
      · rw [if_neg hquote, if_pos hbackslash, hbackslash]
        exact .doubleEscaped h hinner
      · rw [if_neg hquote, if_neg hbackslash, List.append_assoc]
        exact .doubleQuoted h (hinner.bare hquote hbackslash)
  | doubleEscaped h hinner =>
    rw [List.append_assoc, List.append_assoc]
    exact .doubleQuoted h (hinner.escaped c)

theorem leaves_foldl (cs : List Char) : Leaves (cs.foldl Mode.next .plain) cs := by
  induction cs using List.reverseRecOn with
  | nil => exact .plain .nil
  | append_singleton cs c ih =>
    rw [List.foldl_append]
    exact ih.next c

theorem foldl_next_singleQuoted (h : '\'' ∉ inner) : inner.foldl Mode.next .singleQuoted = .singleQuoted := by
  induction inner with
  | nil => rfl
  | cons c inner ih =>
    rw [List.mem_cons, not_or] at h
    rw [List.foldl_cons, Mode.next, if_neg (Ne.symm h.1), ih h.2]

theorem Guarded.foldl_next (h : Guarded inner) : inner.foldl Mode.next .doubleQuoted = .doubleQuoted := by
  induction h with
  | nil => rfl
  | bare _ hquote hbackslash ih =>
    rw [List.foldl_append, ih]
    exact (if_neg hquote).trans (if_neg hbackslash)
  | escaped _ c ih =>
    rw [List.foldl_append, ih]
    rfl

theorem Closed.foldl_next (h : Closed cs) : cs.foldl Mode.next .plain = .plain := by
  induction h with
  | nil => rfl
  | bare _ hc ih =>
    rw [List.foldl_append, ih]
    exact (if_neg hc.1).trans ((if_neg hc.2.1).trans (if_neg hc.2.2))
  | escaped _ c ih =>
    rw [List.foldl_append, ih]
    rfl
  | @single front inner _ hinner ih =>
    have hopen : ('\'' :: inner).foldl Mode.next .plain = .singleQuoted := foldl_next_singleQuoted hinner
    rw [List.foldl_append, List.foldl_append, ih, hopen]
    rfl
  | @double front inner _ hinner ih =>
    have hopen : ('"' :: inner).foldl Mode.next .plain = .doubleQuoted := hinner.foldl_next
    rw [List.foldl_append, List.foldl_append, ih, hopen]
    rfl

theorem Leaves.foldl_next (h : Leaves m cs) : cs.foldl Mode.next .plain = m := by
  cases h with
  | plain h => exact h.foldl_next
  | escaped h =>
    rw [List.foldl_append, h.foldl_next]
    rfl
  | singleQuoted h hinner =>
    rw [List.foldl_append, h.foldl_next]
    exact foldl_next_singleQuoted hinner
  | doubleQuoted h hinner =>
    rw [List.foldl_append, h.foldl_next]
    exact hinner.foldl_next
  | @doubleEscaped front inner h hinner =>
    have hopen : ('"' :: inner).foldl Mode.next .plain = .doubleQuoted := hinner.foldl_next
    rw [List.foldl_append, List.foldl_append, h.foldl_next, hopen]
    rfl

theorem leaves_iff : Leaves m cs ↔ (scan .start cs).mode = m := by
  rw [mode_scan]
  constructor
  · exact Leaves.foldl_next
  · rintro rfl
    exact leaves_foldl cs

theorem endsOpen_iff : EndsOpen cs ↔ wordsOf? cs = none := by
  rw [wordsOf?, State.finish?, ite_eq_right_iff]
  constructor
  · rintro ⟨mode, hmode, hleaves⟩ hplain
    exact absurd ((leaves_iff.1 hleaves).symm.trans hplain) hmode
  · intro h
    refine ⟨(scan .start cs).mode, fun hplain => ?_, leaves_iff.2 rfl⟩
    cases h hplain

theorem split_eq_error_iff {line : String} : (∃ e, split line = .error e) ↔ EndsOpen line.toList := by
  rw [endsOpen_iff, split]
  cases wordsOf? line.toList with
  | none => exact iff_of_true ⟨_, rfl⟩ rfl
  | some ws =>
    refine iff_of_false ?_ (Option.some_ne_none ws)
    rintro ⟨e, ⟨⟩⟩

/-! ### Lines behind lines -/

/-- The scanner with words that were finished before it started. -/
def State.behind (s : State) (words : List (List Char)) : State := { s with words := s.words ++ words }

theorem flush_behind : (s.behind words).flush = s.flush.behind words := by
  have hinWord : (s.behind words).inWord = s.inWord := rfl
  rw [State.flush, State.flush, hinWord]
  split
  · rfl
  · rfl

theorem step_behind : step (s.behind words) c = (step s c).behind words := by
  have hmode : (s.behind words).mode = s.mode := rfl
  rw [step, step, hmode, flush_behind]
  cases s.mode with
  | _ =>
    simp only [apply_ite (State.behind · words)]
    rfl

theorem scan_behind : scan (s.behind words) cs = (scan s cs).behind words := by
  induction cs generalizing s with
  | nil => rfl
  | cons c cs ih => rw [scan_cons, scan_cons, step_behind, ih]

theorem finish?_behind : (s.behind words).finish? = s.finish?.map (words.reverse ++ ·) := by
  have hmode : (s.behind words).mode = s.mode := rfl
  have hwords : (s.flush.behind words).words.reverse = words.reverse ++ s.flush.words.reverse := List.reverse_append
  rw [State.finish?, State.finish?, hmode, flush_behind, hwords]
  split
  · rfl
  · rfl

/-- Where no word was begun, nothing of one was read. -/
def State.Tidy (s : State) : Prop := s.inWord = false → s.word = []

theorem tidy_of_inWord (h : s.inWord = true) : s.Tidy := fun hnone => Bool.noConfusion (h.symm.trans hnone)

theorem tidy_push (s : State) (c : Char) : (s.push c).Tidy := tidy_of_inWord rfl

theorem tidy_flush (h : s.Tidy) : s.flush.Tidy := by
  rw [State.flush]
  split
  · exact fun _ => rfl
  · exact h

theorem tidy_step (h : s.Tidy) (c : Char) : (step s c).Tidy := by
  rw [step]
  cases s.mode with
  | plain =>
    dsimp only
    split_ifs
    · exact tidy_of_inWord rfl
    · exact tidy_of_inWord rfl
    · exact h
    · exact tidy_flush h
    · exact tidy_push s c
  | singleQuoted =>
    dsimp only
    split_ifs
    · exact h
    · exact tidy_push s c
  | doubleQuoted =>
    dsimp only
    split_ifs
    · exact h
    · exact h
    · exact tidy_push s c
  | escaped =>
    dsimp only
    split_ifs
    · exact h
    · exact tidy_push s c
  | doubleEscaped =>
    dsimp only
    split_ifs
    · exact tidy_push s c
    · exact h
    · exact tidy_push _ c

theorem tidy_scan (h : s.Tidy) (cs : List Char) : (scan s cs).Tidy := by
  induction cs generalizing s with
  | nil => exact h
  | cons c cs ih => exact ih (tidy_step h c)

/-- Behind a text that leaves nothing open, and blanks, the scanner is between two words. -/
theorem scan_blanks (hmode : s.mode = .plain) (htidy : s.Tidy) (hne : blanks ≠ [])
    (h : ∀ c ∈ blanks, Text.isBlank c = true) : scan s blanks = .between s.flush.words := by
  obtain ⟨mode, words, word, inWord⟩ := s
  obtain rfl : mode = .plain := hmode
  cases inWord with
  | true => exact scan_blanks_inside hne h
  | false =>
    obtain rfl : word = [] := htidy rfl
    exact scan_blanks_between h

theorem finish?_eq_some_iff : s.finish? = some ws ↔ s.mode = .plain ∧ s.flush.words.reverse = ws := by
  rw [State.finish?, Option.ite_none_right_eq_some, Option.some.injEq]

theorem wordsOf?_append (hfront : wordsOf? front = some ws) (hne : blanks ≠ [])
    (h : ∀ c ∈ blanks, Text.isBlank c = true) (cs : List Char) :
    wordsOf? (front ++ blanks ++ cs) = (wordsOf? cs).map (ws ++ ·) := by
  obtain ⟨hmode, rfl⟩ := finish?_eq_some_iff.1 hfront
  have hstart : ∀ words, State.between words = State.start.behind words := fun _ => rfl
  rw [wordsOf?, scan_append, scan_append, scan_blanks hmode (tidy_scan (fun _ => rfl) front) hne h, hstart,
    scan_behind, finish?_behind]
  rfl

theorem wordsOf?_of_split {line : String} {words : List String} (h : split line = .ok words) :
    ∃ ws, wordsOf? line.toList = some ws ∧ ws.map .ofList = words := by
  rw [split] at h
  split at h
  · next ws hws => exact ⟨ws, hws, Except.ok.inj h⟩
  · cases h

/-- Behind a line and blanks, another line has the words that it has on its own, or none. -/
theorem split_behind {a blanks : String} {words : List String} (ha : split a = .ok words) (hne : blanks ≠ "")
    (hblank : ∀ c ∈ blanks.toList, Text.isBlank c = true) (b : String) :
    (split (a ++ blanks ++ b)).toOption = (split b).toOption.map (words ++ ·) := by
  obtain ⟨ws, hws, rfl⟩ := wordsOf?_of_split ha
  have hjoined := wordsOf?_append hws (mt String.toList_eq_nil_iff.1 hne) hblank b.toList
  rw [split, split, String.toList_append, String.toList_append, hjoined]
  cases wordsOf? b.toList with
  | none => rfl
  | some more => exact congrArg some List.map_append

/-- Behind a line that has words, and blanks, another line has words exactly if it has them on its own, and then they
follow the words of the first one. A line has no words exactly if it ends open. -/
theorem split_compositional :
    (∀ a blanks b words, split a = .ok words → blanks ≠ "" → (∀ c ∈ blanks.toList, Text.isBlank c = true) →
      ((∃ all, split (a ++ blanks ++ b) = .ok all) ↔ ∃ more, split b = .ok more) ∧
      ∀ more, split b = .ok more → split (a ++ blanks ++ b) = .ok (words ++ more)) ∧
    ∀ line, (∃ e, split line = .error e) ↔ EndsOpen line.toList := by
  refine ⟨fun a blanks b words ha hne hblank => ?_, fun _ => split_eq_error_iff⟩
  have hjoined := split_behind ha hne hblank b
  have hall : ∀ all, split (a ++ blanks ++ b) = .ok all ↔ ∃ more, split b = .ok more ∧ words ++ more = all := by
    intro all
    rw [← Result.toOption_eq_some_iff, hjoined, Option.map_eq_some_iff]
    simp only [Result.toOption_eq_some_iff]
  refine ⟨⟨?_, ?_⟩, ?_⟩
  · rintro ⟨all, h⟩
    obtain ⟨more, hmore, -⟩ := (hall all).1 h
    exact ⟨more, hmore⟩
  · rintro ⟨more, hmore⟩
    exact ⟨words ++ more, (hall _).2 ⟨more, hmore, rfl⟩⟩
  · intro more hmore
    exact (hall _).2 ⟨more, hmore, rfl⟩

/-- Two lines that a backslash joins and a word in three quotings; an ideographic space and a line feed; an empty word
and an escaped quote. A line whose last quote is escaped has no words. -/
theorem split_compositional_three_words :
    let a := "sh -c\\\n\t'it''s '\"\\\"me\\n\""
    let blanks := "\u3000\n"
    let b := "'' \\'"
    split a = .ok ["sh", "-c", "its \"me\\n"] ∧ split b = .ok ["", "'"] ∧
    split (a ++ blanks ++ b) = .ok ["sh", "-c", "its \"me\\n", "", "'"] ∧
    (∃ e, split "say \"it's \\\" me" = .error e) ∧ EndsOpen "say \"it's \\\" me".toList := by
  intro a blanks b
  have ha : split a = .ok ["sh", "-c", "its \"me\\n"] := by decide +kernel
  have hb : split b = .ok ["", "'"] := by decide +kernel
  have hblank : ∀ c ∈ blanks.toList, Text.isBlank c = true := List.all_eq_true.1 (by decide +kernel)
  obtain ⟨hbehind, hrefused⟩ := split_compositional
  have hopen : ∃ e, split "say \"it's \\\" me" = .error e := ⟨_, rfl⟩
  exact ⟨ha, hb, (hbehind a blanks b _ ha (by decide) hblank).2 _ hb, hopen, (hrefused _).1 hopen⟩

end Shipshape.CommandLine
