/-!
# Integers in decimal

Writing an integer and reading one back. A reader takes digits with at most one sign in front and
refuses what its range does not hold.
-/

namespace Shipshape.Decimal

/-- The least number above the unsigned 64-bit range, `2 ^ 64`. -/
def unsignedLimit : Nat := 18446744073709551616

/-- The least number above the signed 64-bit range, `2 ^ 63`; its negative is the least number in it. -/
def signedLimit : Nat := 9223372036854775808

/-- Whether a number lies in the unsigned 64-bit range. -/
def isUnsigned (n : Int) : Bool :=
  0 ≤ n && n < unsignedLimit

/-- Whether a number lies in the signed 64-bit range. -/
def isSigned (n : Int) : Bool :=
  -(signedLimit : Int) ≤ n && n < signedLimit

/-- The decimal digits of a number. -/
def natText (n : Nat) : String :=
  .ofList (Nat.toDigits 10 n)

/-- The decimal digits of a number, after a minus sign if it is negative. -/
def intText (n : Int) : String :=
  match n with
  | .ofNat n => natText n
  | .negSucc n => "-" ++ natText (n + 1)

/-- The number that a non-empty row of digits stands for. -/
def readDigits? (cs : List Char) : Option Nat :=
  if !cs.isEmpty && cs.all Char.isDigit then some (Nat.ofDigitChars 10 cs 0) else none

/-- Reads an unsigned 64-bit number: digits, after an optional plus sign. -/
def readUnsigned? (cs : List Char) : Option Nat :=
  let digits := match cs with
    | '+' :: rest => rest
    | cs => cs
  (readDigits? digits).filter (· < unsignedLimit)

/-- Reads a signed 64-bit number: digits, after an optional plus or minus sign. -/
def readSigned? (cs : List Char) : Option Int :=
  let value? : Option Int := match cs with
    | '+' :: rest => (readDigits? rest).map Int.ofNat
    | '-' :: rest => (readDigits? rest).map fun n => -Int.ofNat n
    | cs => (readDigits? cs).map Int.ofNat
  value?.filter isSigned

@[simp] theorem readDigits?_toDigits (n : Nat) : readDigits? (Nat.toDigits 10 n) = some n := by
  have h1 : (Nat.toDigits 10 n).all Char.isDigit = true := by
    rw [List.all_eq_true]
    intro c hc
    exact Nat.isDigit_of_mem_toDigits (by decide) (by decide) hc
  have h2 : (Nat.toDigits 10 n).isEmpty = false := by
    simp [List.isEmpty_eq_false_iff, Nat.toDigits_ne_nil]
  simp [readDigits?, h1, h2, Nat.ofDigitChars_toDigits]

end Shipshape.Decimal
