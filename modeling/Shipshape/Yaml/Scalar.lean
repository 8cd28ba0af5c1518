import Shipshape.Decimal.Integer
import Shipshape.Json.Basic
import Shipshape.Json.Number
import Shipshape.Json.Token

/-!
# Plain scalars

What a scalar without quotes stands for: nothing, a truth value, a number, or its own text.
-/

namespace Shipshape.Yaml

open Decimal

/-- The spellings of the absent value. A number that is none, or that no number reaches, is absent too. -/
def nullWords : List String :=
  ["", "~", "null", "Null", "NULL", ".nan", ".NaN", ".NAN", ".inf", ".Inf", ".INF", "+.inf", "+.Inf",
    "+.INF", "-.inf", "-.Inf", "-.INF"]

def trueWords : List String := ["true", "True", "TRUE"]

def falseWords : List String := ["false", "False", "FALSE"]

/-- Digits that start with a superfluous zero are a text, not a number. -/
def isPadded (digits : List Char) : Bool :=
  digits.length > 1 && digits.head? = some '0' && digits.all Char.isDigit

def takeSign (cs : List Char) : Bool × List Char :=
  match cs with
  | '+' :: rest => (false, rest)
  | '-' :: rest => (true, rest)
  | cs => (false, cs)

/-- The number that digits of a base stand for; there is at least one. -/
def readBase? (base : Nat) (cs : List Char) : Option Nat := do
  if cs.isEmpty then none
  let digits ← cs.mapM fun c => (Json.hexValue? c).filter (· < base)
  return digits.foldl (fun n d => n * base + d) 0

/-- The whole number that digits without a sign stand for: decimal ones, or those of the base that is told in
front. -/
def readWhole? (cs : List Char) : Option Nat :=
  match cs with
  | '0' :: 'x' :: digits => readBase? 16 digits
  | '0' :: 'o' :: digits => readBase? 8 digits
  | '0' :: 'b' :: digits => readBase? 2 digits
  | digits => if isPadded digits then none else readDigits? digits

/-- The least whole number above those of 128 bits without a sign, `2 ^ 128`. -/
def wideLimit : Nat := 340282366920938463463374607431768211456

/-- The least whole number above those of 128 bits with a sign, `2 ^ 127`. -/
def wideSignedLimit : Nat := 170141183460469231731687303715884105728

/-- Whether a whole number has 128 bits, with or without a sign. -/
def isWide (n : Int) : Bool :=
  -(wideSignedLimit : Int) ≤ n && n < wideLimit

/-- The size of a decimal fraction with an optional exponent, if it is in range. -/
def readFraction? (cs : List Char) : Option Binary64 := do
  let whole := cs.takeWhile Char.isDigit
  let (fraction, rest) := match cs.dropWhile Char.isDigit with
    | '.' :: rest => (rest.takeWhile Char.isDigit, rest.dropWhile Char.isDigit)
    | rest => ([], rest)
  let digits ← readDigits? (whole ++ fraction)
  let exponent := (← Json.readExponent? rest).getD 0
  let power : Int := exponent - fraction.length
  if digits = 0 then Binary64.zero false
  else if power > 400 then none
  else if power < -400 - (whole.length + fraction.length) then Binary64.zero false
  else match power with
    | .ofNat k => Binary64.ofRatio? (digits * Nat.pow 10 k) 1
    | .negSucc k => Binary64.ofRatio? digits (Nat.pow 10 (k + 1))

/-- What a plain scalar may be as a number. -/
inductive NumberReading where
  /-- It has not the form of a number in range. -/
  | notNumber
  /-- It is a whole number of 128 bits that has no 64. -/
  | tooWide
  | number (v : Json)

/-- Reads a decimal fraction, which a whole number beyond 128 bits is too. -/
def readFloat (negative : Bool) (size : List Char) : NumberReading :=
  if isPadded size then .notNumber
  else match readFraction? size with
    | some x => .number (.float (x.withSign negative))
    | none => .notNumber

def readNumber (cs : List Char) : NumberReading :=
  let (negative, size) := takeSign cs
  match readWhole? size with
  | some n =>
    let value : Int := if negative then -(n : Int) else n
    if isSigned value || isUnsigned value then .number (.int value)
    else if isWide value then .tooWide
    else readFloat negative size
  | none => readFloat negative size

/-- The value of a plain scalar; `none` for a whole number that is out of range. -/
def plainValue? (s : String) : Option Json :=
  if s ∈ nullWords then some .null
  else if s ∈ trueWords then some (.bool true)
  else if s ∈ falseWords then some (.bool false)
  else match readNumber s.toList with
    | .number v => some v
    | .tooWide => none
    | .notNumber => some (.str s)

end Shipshape.Yaml
