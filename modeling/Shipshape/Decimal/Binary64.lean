/-!
# Binary floating point numbers of 64 bits

The finite numbers of the format, kept exactly: sign, significand and binary exponent. Everything
is computed with whole numbers; rounding goes to the nearest number of the format, and a tie to the
even significand.
-/

namespace Shipshape.Decimal

/-- The number `± significand * 2 ^ exponent`. In a rounded number the significand is below `2 ^ 53`,
and at least `2 ^ 52` unless the exponent is the least one, `-1074`. -/
structure Binary64 where
  negative : Bool
  significand : Nat
  exponent : Int
  deriving DecidableEq, Repr

namespace Binary64

/-- The least significand of full length, `2 ^ 52`. -/
def leastFull : Nat := 1 <<< 52

def zero (negative : Bool) : Binary64 := ⟨negative, 0, -1074⟩

/-- Whether the number is one of the two zeros. -/
def isZero (x : Binary64) : Bool := x.significand == 0

/-- Equality of the values: the two zeros are equal. -/
def sameValue (x y : Binary64) : Bool :=
  x = y || (x.isZero && y.isZero)

/-- The same size with a given sign. -/
def withSign (x : Binary64) (negative : Bool) : Binary64 :=
  { x with negative }

/-- The quotient rounded to the nearest whole number, a tie to the even one. -/
def divEven (num den : Nat) : Nat :=
  let q := num / den
  match compare (2 * (num % den)) den with
  | .lt => q
  | .gt => q + 1
  | .eq => q + q % 2

/-- `num / den / 2 ^ e` as a fraction. -/
def scaled (num den : Nat) (e : Int) : Nat × Nat :=
  match e with
  | .ofNat k => (num, den <<< k)
  | .negSucc k => (num <<< (k + 1), den)

/-- The number of the format that is nearest to `num / den`, if the format reaches that far. -/
def ofRatio? (num den : Nat) : Option Binary64 :=
  if num = 0 then some (zero false) else
    let guess : Int := (Nat.log2 num : Int) - (Nat.log2 den : Int) - 52
    let atGuess := scaled num den guess
    let tight := if atGuess.1 / atGuess.2 < leastFull then guess - 1 else guess
    let e := max tight (-1074)
    let fraction := scaled num den e
    let m := divEven fraction.1 fraction.2
    let rounded : Binary64 := if m = 2 * leastFull then ⟨false, leastFull, e + 1⟩ else ⟨false, m, e⟩
    if rounded.exponent ≤ 971 then some rounded else none

/-- The size of a number as a fraction. -/
def ratio (x : Binary64) : Nat × Nat :=
  match x.exponent with
  | .ofNat k => (x.significand <<< k, 1)
  | .negSucc k => (x.significand, 1 <<< (k + 1))

/-- The rounded product of the sizes. -/
def mul? (x y : Binary64) : Option Binary64 :=
  ofRatio? (x.ratio.1 * y.ratio.1) (x.ratio.2 * y.ratio.2)

/-- The rounded quotient of the sizes; the divisor is not zero. -/
def div? (x y : Binary64) : Option Binary64 :=
  ofRatio? (x.ratio.1 * y.ratio.2) (x.ratio.2 * y.ratio.1)

/-- The greatest power of ten that the format holds is `10 ^ maxPower`. -/
def maxPower : Nat := 308

def powerOfTen? (k : Nat) : Option Binary64 :=
  ofRatio? (Nat.pow 10 k) 1

/-- Divides by `10 ^ k`, in steps that the format can hold. -/
def shrink? (x : Binary64) (k : Nat) : Option Binary64 :=
  if _h : k ≤ maxPower then (powerOfTen? k).bind x.div?
  else if x.isZero then some x
  else do shrink? (← x.div? (← powerOfTen? maxPower)) (k - maxPower)
termination_by k
decreasing_by simp only [maxPower] at *; omega

/-- The size `significand * 10 ^ exponent`, rounded once for each of the two factors and once for
their product or quotient; `none` if it is out of range. -/
def ofDecimal? (significand : Nat) (exponent : Int) : Option Binary64 := do
  let x ← ofRatio? significand 1
  match exponent with
  | .ofNat k =>
    if k ≤ maxPower then x.mul? (← powerOfTen? k)
    else if x.isZero then some x
    else none
  | .negSucc k => x.shrink? (k + 1)

/-- The whole part, with the sign. -/
def truncate (x : Binary64) : Int :=
  let whole : Int := (x.ratio.1 / x.ratio.2 : Nat)
  if x.negative then -whole else whole

end Binary64

end Shipshape.Decimal
