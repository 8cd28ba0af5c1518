/-!
# Blank characters

The characters of Unicode's `White_Space` property, and what trimming and splitting into words mean
with respect to them.
-/

namespace Shipshape.Text

/-- The characters of Unicode's `White_Space` property. -/
def isBlank (c : Char) : Bool :=
  let n := c.toNat
  (9 ≤ n && n ≤ 13) || n == 0x20 || n == 0x85 || n == 0xA0 || n == 0x1680 ||
    (0x2000 ≤ n && n ≤ 0x200A) || n == 0x2028 || n == 0x2029 || n == 0x202F || n == 0x205F ||
    n == 0x3000

/-- The text without its trailing characters that satisfy `p`. -/
def dropEndWhile (p : Char → Bool) (cs : List Char) : List Char :=
  (cs.reverse.dropWhile p).reverse

/-- The text without leading and trailing blanks. -/
def trimChars (cs : List Char) : List Char :=
  dropEndWhile isBlank (cs.dropWhile isBlank)

/-- The text without leading and trailing blanks. -/
def trim (s : String) : String :=
  .ofList (trimChars s.toList)

/-- The maximal runs of characters that are not blank. -/
def wordsOf (cs : List Char) : List (List Char) :=
  (cs.splitOnP isBlank).filter (!·.isEmpty)

/-- The maximal runs of characters that are not blank. -/
def words (s : String) : List String :=
  (wordsOf s.toList).map .ofList

/-- The text with every ASCII letter in lower case. -/
def lower (s : String) : String :=
  .ofList (s.toList.map Char.toLower)

end Shipshape.Text
