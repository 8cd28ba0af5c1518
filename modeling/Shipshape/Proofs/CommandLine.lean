import Shipshape.CommandLine
import Shipshape.Proofs.Text

/-!
# Words of command lines

The scanner undoes quoting: words that stand quoted in a line, with blanks between them, are its words
(`split_quotedLine`). In a line without quotes and backslashes, the words are what stands between blanks
(`split_of_unquoted`).

Proof outline. Between two words the scanner is where it was at the start of the line, with more words behind it
(`between`). Behind a quoted word it is inside a word that was read exactly (`inside`), and blanks end that word. So
one lemma follows a quoted word from its first quote to its last one, and a line is an induction on its words with
the finished ones generalized. For a line without quotes the induction is on the characters, and the word that is
being read is generalized too.
-/

namespace Shipshape.CommandLine

/-! ### Scanning -/

def State.between (words : List (List Char)) : State := ⟨.plain, words, [], false⟩

/-- The scanner inside a word, of which it has read some characters, or behind it. -/
def State.inside (mode : Mode) (words : List (List Char)) (word : List Char) : State := ⟨mode, words, word, true⟩

variable {words : List (List Char)} {word blanks cs : List Char} {c : Char}

theorem scan_append (s : State) (a b : List Char) : scan s (a ++ b) = scan (scan s a) b := List.foldl_append

theorem scan_cons (s : State) (c : Char) (cs : List Char) : scan s (c :: cs) = scan (step s c) cs := rfl

theorem scan_nil (s : State) : scan s [] = s := rfl

/-- Neither a quote nor a backslash. -/
def IsPlain (c : Char) : Prop := c ≠ '\'' ∧ c ≠ '"' ∧ c ≠ '\\'

instance : DecidablePred IsPlain := fun c => inferInstanceAs (Decidable (c ≠ '\'' ∧ c ≠ '"' ∧ c ≠ '\\'))

theorem isPlain_of_isBlank (h : Text.isBlank c = true) : IsPlain c := by
  have hne : ∀ c', Text.isBlank c' = false → c ≠ c' := by
    rintro c' hc' rfl
    rw [hc'] at h
    cases h
  exact ⟨hne _ (by decide), hne _ (by decide), hne _ (by decide)⟩

theorem step_of_isPlain {s : State} (hmode : s.mode = .plain) (h : IsPlain c) :
    step s c = if Text.isBlank c then s.flush else s.push c := by
  obtain ⟨hsingle, hdouble, hbackslash⟩ := h
  rw [step, hmode]
  simp only [if_neg hsingle, if_neg hdouble, if_neg hbackslash]

theorem scan_blanks_between (h : ∀ c ∈ blanks, Text.isBlank c = true) :
    scan (.between words) blanks = .between words := by
  induction blanks with
  | nil => rfl
  | cons c blanks ih =>
    rw [List.forall_mem_cons] at h
    rw [scan_cons, step_of_isPlain rfl (isPlain_of_isBlank h.1), if_pos h.1]
    exact ih h.2

theorem scan_blanks_inside (hne : blanks ≠ []) (h : ∀ c ∈ blanks, Text.isBlank c = true) :
    scan (.inside .plain words word) blanks = .between (word.reverse :: words) := by
  cases blanks with
  | nil => exact absurd rfl hne
  | cons c blanks =>
    rw [List.forall_mem_cons] at h
    rw [scan_cons, step_of_isPlain rfl (isPlain_of_isBlank h.1), if_pos h.1]
    exact scan_blanks_between h.2

theorem finish?_between : (State.between words).finish? = some words.reverse := rfl

theorem finish?_inside : (State.inside .plain words word).finish? = some (words.reverse ++ [word.reverse]) := by
  show some (word.reverse :: words).reverse = _
  rw [List.reverse_cons]

/-! ### Quoting -/

/-- How a word is quoted. -/
inductive Quoting where
  | single
  | double
  deriving DecidableEq, Repr

namespace Quoting

/-- The characters that a backslash escapes between double quotes: the quote, the backslash, the dollar and the
backquote. -/
def escaped : List Char := ['"', '\\', '$', Char.ofNat 0x60]

def mark : Quoting → Char
  | single => '\''
  | double => '"'

/-- A character between the quotes. For a single quote the quotes are closed and opened again. -/
def character : Quoting → Char → List Char
  | single, c => if c = '\'' then ['\'', '\\', '\'', '\''] else [c]
  | double, c => if c ∈ escaped then ['\\', c] else [c]

def quote (q : Quoting) (word : List Char) : List Char := q.mark :: word.flatMap q.character ++ [q.mark]

/-- The scanner between these quotes. -/
def mode : Quoting → Mode
  | single => .singleQuoted
  | double => .doubleQuoted

theorem isDoubleEscapable_iff : isDoubleEscapable c = true ↔ c ∈ escaped := by
  have hbackquote : c.toNat = 0x60 ↔ c = Char.ofNat 0x60 := by rw [← Char.toNat_inj]; rfl
  simp only [isDoubleEscapable, escaped, Bool.or_eq_true, decide_eq_true_eq, hbackquote, List.mem_cons,
    List.not_mem_nil, or_false, or_assoc]

theorem scan_character (q : Quoting) (words : List (List Char)) (word : List Char) (c : Char) :
    scan (.inside q.mode words word) (q.character c) = .inside q.mode words (c :: word) := by
  cases q with
  | single =>
    rw [character]
    by_cases hc : c = '\''
    · rw [if_pos hc, hc]
      rfl
    · rw [if_neg hc, scan_cons, scan_nil]
      exact if_neg hc
  | double =>
    rw [character]
    by_cases hc : c ∈ escaped
    · rw [if_pos hc, scan_cons, scan_cons, scan_nil]
      exact if_pos (isDoubleEscapable_iff.2 hc)
    · have hquote : c ≠ '"' := fun h => hc (h ▸ by decide)
      have hbackslash : c ≠ '\\' := fun h => hc (h ▸ by decide)
      rw [if_neg hc, scan_cons, scan_nil]
      exact (if_neg hquote).trans (if_neg hbackslash)

theorem scan_characters (q : Quoting) (words : List (List Char)) (read word : List Char) :
    scan (.inside q.mode words read) (word.flatMap q.character) = .inside q.mode words (word.reverse ++ read) := by
  induction word generalizing read with
  | nil => rfl
  | cons c word ih =>
    rw [List.flatMap_cons, scan_append, scan_character, ih, List.reverse_cons, List.append_assoc]
    rfl

theorem scan_quote (q : Quoting) (words : List (List Char)) (word : List Char) :
    scan (.between words) (q.quote word) = .inside .plain words word.reverse := by
  have hopen : step (.between words) q.mark = .inside q.mode words [] := by
    cases q with
    | single => rfl
    | double => rfl
  have hclose : step (.inside q.mode words word.reverse) q.mark = .inside .plain words word.reverse := by
    cases q with
    | single => rfl
    | double => rfl
  rw [quote, List.cons_append, scan_cons, hopen, scan_append, scan_characters, List.append_nil, scan_cons, hclose,
    scan_nil]

end Quoting

structure Blanks where
  chars : List Char
  blank : ∀ c ∈ chars, Text.isBlank c = true

/-- A word that stands quoted in a line, with the blanks behind it. -/
structure QuotedWord where
  word : String
  quoting : Quoting
  behind : Blanks

def QuotedWord.chars (w : QuotedWord) : List Char := w.quoting.quote w.word.toList ++ w.behind.chars

/-- A line in which these words stand quoted, with blanks in front of them. -/
def quotedLine (front : Blanks) (ws : List QuotedWord) : String :=
  .ofList (front.chars ++ ws.flatMap QuotedWord.chars)

theorem finish?_quotedWords {ws : List QuotedWord} (h : ∀ w ∈ ws.dropLast, w.behind.chars ≠ []) :
    (scan (.between words) (ws.flatMap QuotedWord.chars)).finish? =
      some (words.reverse ++ ws.map fun w => w.word.toList) := by
  induction ws generalizing words with
  | nil => rw [List.flatMap_nil, scan_nil, finish?_between, List.map_nil, List.append_nil]
  | cons w ws ih =>
    rw [List.flatMap_cons, scan_append, QuotedWord.chars, scan_append, Quoting.scan_quote]
    by_cases hbehind : w.behind.chars = []
    · -- only the last word may have no blanks behind it
      cases ws with
      | nil =>
        rw [hbehind, scan_nil, List.flatMap_nil, scan_nil, finish?_inside, List.reverse_reverse]
        rfl
      | cons next rest => exact absurd hbehind (h w (List.mem_cons_self ..))
    · have hrest : ∀ w ∈ ws.dropLast, w.behind.chars ≠ [] := by
        cases ws with
        | nil => nofun
        | cons next rest => exact fun w hw => h w (List.mem_cons_of_mem _ hw)
      rw [scan_blanks_inside hbehind w.behind.blank, ih hrest, List.reverse_reverse, List.reverse_cons,
        List.append_assoc]
      rfl

theorem split_eq_ok {line : String} {ws : List (List Char)} (h : wordsOf? line.toList = some ws) :
    split line = .ok (ws.map .ofList) := by
  rw [split, h]

/-- The words of a line in which words stand quoted, with blanks between them and around them, are these words. -/
theorem split_quotedLine (front : Blanks) (ws : List QuotedWord) (h : ∀ w ∈ ws.dropLast, w.behind.chars ≠ []) :
    split (quotedLine front ws) = .ok (ws.map QuotedWord.word) := by
  have hwords : wordsOf? (quotedLine front ws).toList = some (ws.map fun w => w.word.toList) := by
    rw [quotedLine, String.toList_ofList, wordsOf?, scan_append]
    show (scan (scan (.between []) front.chars) _).finish? = _
    rw [scan_blanks_between front.blank, finish?_quotedWords h]
    rfl
  rw [split_eq_ok hwords, List.map_map]
  refine congrArg Except.ok (List.map_congr_left fun w _ => ?_)
  exact String.ofList_toList

/-- A word with a quote in it, one that a shell would expand, and one that is empty, across two lines. -/
theorem split_quotedLine_two_lines :
    let tab : Blanks := ⟨['\t'], List.forall_mem_singleton.2 rfl⟩
    let spaces : Blanks := ⟨[' ', ' '], List.forall_mem_cons.2 ⟨rfl, List.forall_mem_singleton.2 rfl⟩⟩
    let feed : Blanks := ⟨['\n'], List.forall_mem_singleton.2 rfl⟩
    let none : Blanks := ⟨[], List.forall_mem_nil _⟩
    let ws : List QuotedWord :=
      [⟨"it's", .single, spaces⟩, ⟨"say \"$HOME\"", .double, feed⟩, ⟨"", .single, none⟩]
    let line := "\t'it'\\''s'  \"say \\\"\\$HOME\\\"\"\n''"
    quotedLine tab ws = line ∧ split line = .ok ["it's", "say \"$HOME\"", ""] := by
  intro tab spaces feed none ws line
  have hline : quotedLine tab ws = line := by decide +kernel
  refine ⟨hline, ?_⟩
  rw [← hline]
  exact split_quotedLine tab ws (by decide)

/-! ### Lines without quotes -/

/-- The scanner between two words if nothing was read of the next one, and inside it otherwise. -/
def State.reading (words : List (List Char)) (word : List Char) : State := ⟨.plain, words, word, !word.isEmpty⟩

theorem wordsOf_reverse (hne : word ≠ []) (hword : ∀ c ∈ word, Text.isBlank c = false) :
    Text.wordsOf word.reverse = [word.reverse] :=
  Text.wordsOf_of_forall (List.reverse_ne_nil_iff.2 hne) fun c hc => hword c (List.mem_reverse.1 hc)

theorem finish?_reading (hword : ∀ c ∈ word, Text.isBlank c = false) :
    (State.reading words word).finish? = some (words.reverse ++ Text.wordsOf word.reverse) := by
  cases word with
  | nil => exact congrArg some (List.append_nil _).symm
  | cons c word =>
    rw [wordsOf_reverse (List.cons_ne_nil _ _) hword]
    exact finish?_inside

theorem flush_reading (hword : ∀ c ∈ word, Text.isBlank c = false) :
    (State.reading words word).flush = .reading ((Text.wordsOf word.reverse).reverse ++ words) [] := by
  cases word with
  | nil => rfl
  | cons c word =>
    rw [wordsOf_reverse (List.cons_ne_nil _ _) hword]
    rfl

theorem finish?_scan_reading (hword : ∀ c ∈ word, Text.isBlank c = false) (hcs : ∀ c ∈ cs, IsPlain c) :
    (scan (.reading words word) cs).finish? = some (words.reverse ++ Text.wordsOf (word.reverse ++ cs)) := by
  induction cs generalizing words word with
  | nil => rw [scan_nil, List.append_nil, finish?_reading hword]
  | cons c cs ih =>
    rw [List.forall_mem_cons] at hcs
    rw [scan_cons, step_of_isPlain rfl hcs.1]
    by_cases hblank : Text.isBlank c = true
    · rw [if_pos hblank, Text.wordsOf_append_cons hblank, flush_reading hword, ih (List.forall_mem_nil _) hcs.2,
        List.reverse_append, List.reverse_reverse, List.reverse_nil, List.nil_append, List.append_assoc]
    · have hpush : (State.reading words word).push c = .reading words (c :: word) := rfl
      rw [if_neg hblank, hpush, ih (List.forall_mem_cons.2 ⟨Bool.eq_false_iff.2 hblank, hword⟩) hcs.2,
        List.reverse_cons, List.append_assoc, List.singleton_append]

/-- Without quotes and backslashes, words are what stands between blanks. -/
theorem split_of_unquoted {line : String} (h : ∀ c ∈ line.toList, IsPlain c) : split line = .ok (Text.words line) := by
  have hscan : wordsOf? line.toList = some (Text.wordsOf line.toList) :=
    finish?_scan_reading (List.forall_mem_nil _) h
  rw [split_eq_ok hscan, Text.words]

end Shipshape.CommandLine
