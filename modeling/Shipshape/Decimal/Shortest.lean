import Shipshape.Decimal.Binary64

/-!
# The shortest decimal that reads back

A floating point number is written with the fewest digits that no other number of the format claims,
and of those with the digits nearest to it. For `n = 1, 2, …, 17` the two neighbours of the number on
the grid of `n`-digit decimals are tried; the first grid that has a point in the interval of reals
rounding to the number gives the digits.
-/

namespace Shipshape.Decimal

/-- The reals that round to a number: `low / den` to `high / den` around `mid / den`; the ends belong to
it if `closed`. -/
structure Rounding where
  low : Nat
  mid : Nat
  high : Nat
  den : Nat
  closed : Bool

/-- A decimal `digits * 10 ^ exponent`. -/
structure Scientific where
  digits : Nat
  exponent : Int
  deriving DecidableEq, Repr

/-- `n * 10 ^ k / den` as a fraction. -/
def scaleTen (n den : Nat) (k : Int) : Nat × Nat :=
  match k with
  | .ofNat k => (n * Nat.pow 10 k, den)
  | .negSucc k => (n, den * Nat.pow 10 (k + 1))

/-- Compares `c * 10 ^ k` with `x / den`. -/
def compareScaled (c : Nat) (k : Int) (x den : Nat) : Ordering :=
  let p := scaleTen c 1 k
  compare (p.1 * den) (x * p.2)

namespace Rounding

/-- Half way to the neighbours on both sides; below a power of two the lower neighbour is twice as
near. -/
def of (x : Binary64) : Rounding :=
  let m := x.significand
  let below := if m = Binary64.leastFull && x.exponent > -1074 then 1 else 2
  let unit : Nat × Nat := match x.exponent - 2 with
    | .ofNat k => (1 <<< k, 1)
    | .negSucc k => (1, 1 <<< (k + 1))
  { low := (4 * m - below) * unit.1
    mid := 4 * m * unit.1
    high := (4 * m + 2) * unit.1
    den := unit.2
    closed := m % 2 = 0 }

/-- Whether `c * 10 ^ k` rounds to the number. -/
def holds (r : Rounding) (c : Nat) (k : Int) : Bool :=
  match compareScaled c k r.low r.den, compareScaled c k r.high r.den with
  | .gt, .lt => true
  | .eq, _ => r.closed
  | _, .eq => r.closed
  | _, _ => false

/-- How many times ten fits between a number below one and one. -/
def smallness (den : Nat) : Nat → Nat → Nat
  | 0, _ => 0
  | fuel + 1, n => if den ≤ n then 0 else smallness den fuel (10 * n) + 1

/-- The least `e` with the number below `10 ^ e`. -/
def magnitude (r : Rounding) : Int :=
  if r.den ≤ r.mid then ((Nat.toDigits 10 (r.mid / r.den)).length : Int)
  else 1 - (smallness r.den 400 r.mid : Int)

/-- The better of the two neighbours of the number on the grid of the multiples of `10 ^ k`, if one of
them rounds to the number. -/
def onGrid? (r : Rounding) (k : Int) : Option Scientific :=
  let p := scaleTen r.mid r.den (-k)
  let c := p.1 / p.2
  match r.holds c k, r.holds (c + 1) k with
  | true, false => some ⟨c, k⟩
  | false, true => some ⟨c + 1, k⟩
  | false, false => none
  | true, true =>
    match compareScaled (2 * c + 1) k (2 * r.mid) r.den with
    | .gt => some ⟨c, k⟩
    | .lt => some ⟨c + 1, k⟩
    | .eq => some ⟨c + c % 2, k⟩

end Rounding

/-- Moves trailing zeros of the digits into the exponent. -/
def Scientific.strip (s : Scientific) : Scientific :=
  if h : s.digits ≠ 0 ∧ s.digits % 10 = 0 then strip ⟨s.digits / 10, s.exponent + 1⟩ else s
termination_by s.digits
decreasing_by omega

/-- The fewest digits that read back as the size of `x`, and of those the nearest. -/
def Binary64.shortest (x : Binary64) : Scientific :=
  if x.isZero then ⟨0, 0⟩ else
    let r := Rounding.of x
    let e := r.magnitude
    match (List.range' 1 17).findSome? fun (n : Nat) => r.onGrid? (e - n) with
    | some s => s.strip
    | none => ⟨x.significand, 0⟩

/-- Where a decimal is written with a plain point: when the power of ten of its first digit lies between
these two. -/
def leastPlainPower : Int := -5

/-- The greatest power of ten of the first digit that is written with a plain point. -/
def greatestPlainPower : Int := 15

/-- An exponent: its sign, which is never left out, and its digits. -/
def exponentText (e : Int) : List Char :=
  (if e < 0 then '-' else '+') :: Nat.toDigits 10 e.natAbs

/-- The text of a number: the shortest digits that read back, with a plain point for moderate sizes
(a whole number keeps `.0`) and an exponent for the others. -/
def Binary64.text (x : Binary64) : String :=
  let s := x.shortest
  let digits := Nat.toDigits 10 s.digits
  let power : Int := s.exponent + digits.length - 1
  let body :=
    if x.isZero then ['0', '.', '0']
    else if leastPlainPower ≤ power && power ≤ greatestPlainPower then
      if 0 ≤ s.exponent then digits ++ List.replicate s.exponent.toNat '0' ++ ['.', '0']
      else if 0 ≤ power then
        digits.take (power.toNat + 1) ++ '.' :: digits.drop (power.toNat + 1)
      else '0' :: '.' :: List.replicate (-power - 1).toNat '0' ++ digits
    else
      let mantissa := match digits with
        | d :: e :: rest => d :: '.' :: e :: rest
        | short => short
      mantissa ++ 'e' :: exponentText power
  .ofList (if x.negative then '-' :: body else body)

end Shipshape.Decimal
