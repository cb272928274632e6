/-! Floating-point numbers of 64 bits in exact arithmetic: the one nearest to a decimal, and the
shortest decimal that is nearest to one. -/
namespace Phrasebook

/-- A number `mantissa * 2 ^ exponent` of either sign, an infinity, or no number. -/
inductive Binary64 where
  | finite (negative : Bool) (mantissa : Nat) (exponent : Int)
  | infinity (negative : Bool)
  | nan
deriving DecidableEq, Repr

namespace Binary64

def roundEven (num den : Nat) : Nat :=
  let q := num / den
  let r := num % den
  if 2 * r < den then q
  else if den < 2 * r then q + 1
  else if q % 2 = 0 then q else q + 1

def scale (base n : Nat) (exponent : Int) : Nat × Nat :=
  if 0 ≤ exponent then (n * base.pow exponent.toNat, 1)
  else (n, base.pow (-exponent).toNat)

def digitCount (n : Nat) : Nat :=
  (Nat.toDigits 10 n).length

def ofQuotient (negative : Bool) (num den : Nat) : Option Binary64 :=
  let guess : Int := (num.log2 : Int) - den.log2 - 52
  let (a, b) := scale 2 den guess
  let tight := if num * b < Nat.pow 2 52 * a then guess - 1 else guess
  let exponent := max tight (-1074)
  let (a, b) := scale 2 den exponent
  let mantissa := roundEven (num * b) a
  let (mantissa, exponent) :=
    if mantissa = Nat.pow 2 53 then (Nat.pow 2 52, exponent + 1) else (mantissa, exponent)
  if 971 < exponent then none else some (.finite negative mantissa exponent)

def ofDecimal (negative : Bool) (digits : Nat) (exponent : Int) : Option Binary64 :=
  let magnitude := exponent + digitCount digits
  if digits = 0 || magnitude < -400 then some (.finite negative 0 0)
  else if 400 < magnitude then none
  else
    let (num, den) := scale 10 digits exponent
    ofQuotient negative num den

structure Range where
  low : Nat
  value : Nat
  high : Nat
  den : Nat
  closed : Bool

def Range.contains (r : Range) (num den : Nat) : Bool :=
  if r.closed then r.low * den ≤ num * r.den && num * r.den ≤ r.high * den
  else r.low * den < num * r.den && num * r.den < r.high * den

def rangeOf (mantissa : Nat) (exponent : Int) : Range :=
  let below := if mantissa = Nat.pow 2 52 && -1074 < exponent then 1 else 2
  let (unit, den) := scale 2 1 (exponent - 2)
  { low := (4 * mantissa - below) * unit
    value := 4 * mantissa * unit
    high := (4 * mantissa + 2) * unit
    den := den
    closed := mantissa % 2 = 0 }

def firstPower (num den : Nat) : Int :=
  let guess : Int := (digitCount num : Int) - digitCount den
  let (a, b) := scale 10 den guess
  if a ≤ num * b then guess else guess - 1

def decimalOf? (r : Range) (first : Int) (count : Nat) : Option (Nat × Int) :=
  let exponent := first - count + 1
  let (a, b) := scale 10 1 exponent
  let floor := r.value * b / (r.den * a)
  let down := r.contains (floor * a) b
  let up := r.contains ((floor + 1) * a) b
  let rest := r.value * b - floor * (r.den * a)
  if up && (!down || r.den * a ≤ 2 * rest) then
    some (if floor + 1 = Nat.pow 10 count then (1, first + 1) else (floor + 1, exponent))
  else if down then some (floor, exponent)
  else none

def shortest (mantissa : Nat) (exponent : Int) : Nat × Int :=
  let r := rangeOf mantissa exponent
  let first := firstPower r.value r.den
  ((List.range 17).findSome? fun i => decimalOf? r first (i + 1)).getD
    (r.value / r.den, 0)

def positional (digits : List Char) (exponent : Int) : List Char :=
  if 0 ≤ exponent then digits ++ List.replicate exponent.toNat '0' ++ ['.', '0']
  else
    let places := (-exponent).toNat
    if digits.length ≤ places then
      ['0', '.'] ++ List.replicate (places - digits.length) '0' ++ digits
    else
      digits.take (digits.length - places) ++ '.' :: digits.drop (digits.length - places)

def text : Binary64 → String
  | .nan => "NaN"
  | .infinity negative => if negative then "-inf" else "inf"
  | .finite negative mantissa exponent =>
    let magnitude :=
      if mantissa = 0 then ['0', '.', '0']
      else
        let (digits, power) := shortest mantissa exponent
        positional (Nat.toDigits 10 digits) power
    String.ofList (if negative then '-' :: magnitude else magnitude)

end Binary64

end Phrasebook
