/-!
# Cutting text into pieces

Splitting at a character, removing a known beginning or end, and the lines of a text.
-/

namespace Shipshape.Text

/-- The pieces between the occurrences of `c`; a text without `c` is one piece. -/
def splitAtChar (c : Char) (s : String) : List String :=
  (s.toList.splitOnP (· == c)).map .ofList

/-- What stands before and after the first `c`. -/
def splitFirst? (c : Char) : List Char → Option (List Char × List Char)
  | [] => none
  | x :: cs => if x = c then some ([], cs) else (splitFirst? c cs).map fun p => (x :: p.1, p.2)

/-- What stands before and after the last `c`. -/
def splitLast? (c : Char) (cs : List Char) : Option (List Char × List Char) :=
  (splitFirst? c cs.reverse).map fun p => (p.2.reverse, p.1.reverse)

/-- The rest of the text after a beginning. -/
def dropStart? (start : List Char) (cs : List Char) : Option (List Char) :=
  start.isPrefixOf? cs

def dropEnd? (ending : List Char) (cs : List Char) : Option (List Char) :=
  ending.isSuffixOf? cs

/-- A line without the carriage return before its end. -/
def dropReturn (cs : List Char) : List Char :=
  (dropEnd? ['\r'] cs).getD cs

/-- The lines among pieces that were cut at line feeds. The last piece had no line feed after it: it is
a line only if it is not empty, and it keeps a carriage return. -/
def linesOfPieces : List (List Char) → List (List Char)
  | [] => []
  | [last] => if last.isEmpty then [] else [last]
  | piece :: rest => dropReturn piece :: linesOfPieces rest

/-- The lines of a text; a line ends with a line feed or with a carriage return and a line feed. -/
def lines (s : String) : List String :=
  (linesOfPieces (s.toList.splitOnP (· == '\n'))).map .ofList

theorem splitFirst?_eq_some {c : Char} {cs a b : List Char} (h : splitFirst? c cs = some (a, b)) :
    cs = a ++ c :: b ∧ c ∉ a := by
  induction cs generalizing a b with
  | nil => simp [splitFirst?] at h
  | cons x cs ih =>
    rw [splitFirst?] at h
    split at h
    · next hx =>
      simp only [Option.some.injEq, Prod.mk.injEq] at h
      obtain ⟨rfl, rfl⟩ := h
      simp [hx]
    · next hx =>
      obtain ⟨⟨a', b'⟩, hp, he⟩ := Option.map_eq_some_iff.1 h
      simp only [Prod.mk.injEq] at he
      obtain ⟨rfl, rfl⟩ := he
      obtain ⟨h1, h2⟩ := ih hp
      exact ⟨by simp [h1], by simp [h2, Ne.symm hx]⟩

end Shipshape.Text
