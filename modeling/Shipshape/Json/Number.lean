import Shipshape.Decimal.Integer
import Shipshape.Json.Basic

/-!
# Reading JSON numbers

A number without fraction and exponent that fits 64 bits, with or without a sign, is a whole number;
every other one is a floating point number. Its digits count as long as they fit an unsigned 64-bit
number, and the digits after that only shift the decimal point.
-/

namespace Shipshape.Json

open Decimal

/-- The digits read so far, and the power of ten that they are to be multiplied with. -/
structure Significand where
  digits : Nat
  power : Int

namespace Significand

/-- Takes a digit in front of the decimal point: after the first one that does not fit, all of them only
raise the power. -/
def pushWhole (s : Significand) (c : Char) : Significand :=
  let next := s.digits * 10 + (c.toNat - '0'.toNat)
  if s.power = 0 && next < unsignedLimit then ⟨next, 0⟩ else ⟨s.digits, s.power + 1⟩

/-- Takes the digits behind the decimal point, up to the first one that does not fit. -/
def pushFraction (s : Significand) : List Char → Significand
  | [] => s
  | c :: cs =>
    let next := s.digits * 10 + (c.toNat - '0'.toNat)
    if next < unsignedLimit then pushFraction ⟨next, s.power - 1⟩ cs else s

end Significand

/-- The parts of a written number. -/
structure NumberText where
  negative : Bool
  whole : List Char
  fraction : Option (List Char)
  exponent : Option Int

/-- The digits at the front, at least one, and what follows them. -/
def takeDigits? (cs : List Char) : Option (List Char × List Char) :=
  let digits := cs.takeWhile Char.isDigit
  if digits.isEmpty then none else some (digits, cs.dropWhile Char.isDigit)

/-- Reads an exponent, up to the end of the text. -/
def readExponent? (cs : List Char) : Option (Option Int) :=
  match cs with
  | [] => some none
  | c :: rest =>
    if c = 'e' || c = 'E' then
      match rest with
      | '+' :: digits => (readDigits? digits).map fun n => some (n : Int)
      | '-' :: digits => (readDigits? digits).map fun n => some (-(n : Int))
      | digits => (readDigits? digits).map fun n => some (n : Int)
    else none

/-- Cuts a number into its parts. A leading zero stands alone, and a decimal point has digits on both
sides. -/
def NumberText.of? (cs : List Char) : Option NumberText := do
  let (negative, cs) := match cs with
    | '-' :: rest => (true, rest)
    | cs => (false, cs)
  let (whole, cs) ← takeDigits? cs
  if whole.length > 1 && whole.head? = some '0' then none
  let (fraction, cs) ← match cs with
    | '.' :: rest => (takeDigits? rest).map fun p => (some p.1, p.2)
    | cs => some (none, cs)
  let exponent ← readExponent? cs
  return { negative, whole, fraction, exponent }

/-- The value of a written number; `none` if it is out of range. -/
def NumberText.value? (t : NumberText) : Option Json :=
  let s := t.whole.foldl Significand.pushWhole ⟨0, 0⟩
  let float? (s : Significand) : Option Json :=
    (Binary64.ofDecimal? s.digits (s.power + t.exponent.getD 0)).map fun x =>
      .float (x.withSign t.negative)
  match t.fraction, t.exponent with
  | none, none =>
    if s.power ≠ 0 then float? s
    else if !t.negative then some (.int s.digits)
    else if s.digits = 0 || s.digits > Decimal.signedLimit then float? s
    else some (.int (-(s.digits : Int)))
  | fraction, _ => float? (s.pushFraction (fraction.getD []))

def readNumber? (cs : List Char) : Option Json := do
  (← NumberText.of? cs).value?

end Shipshape.Json
