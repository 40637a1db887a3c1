/-!
Contract: finite binary floating-point numbers of 64 bits, in exact arithmetic.

Owns:
- `Binary64`, a sign, a mantissa below 2^53 and a power of two;
- rounding of a ratio to the nearest such number, ties to the even mantissa;
- product, quotient and decimal scaling, each rounded once per step.

Does not own: infinities and NaN. An operation whose result is too large gives nothing.
-/

namespace Admission.Decimal

/-- A finite number `± mantissa · 2^exponent`. Zero has mantissa 0 and exponent -1074; otherwise
either the mantissa has 53 bits or the exponent is -1074. -/
structure Binary64 where
  negative : Bool
  mantissa : Nat
  exponent : Int
  deriving DecidableEq, Repr

namespace Binary64

/-- The least exponent. -/
def minExponent : Int := -1074

/-- The greatest exponent. -/
def maxExponent : Int := 971

/-- 2^52, the bit that every mantissa of 53 bits has. -/
def leadingBit : Nat := 0x10000000000000

/-- Zero, with a sign. -/
def zero (negative : Bool) : Binary64 := ⟨negative, 0, minExponent⟩

/-- Whether the number is zero, of either sign. -/
def isZero (x : Binary64) : Bool := x.mantissa == 0

/-- Equality as numbers: the two zeros are the same. -/
def sameNumber (x y : Binary64) : Bool := x == y || (x.isZero && y.isZero)

/-- The quotient rounded to the nearest whole number, a half to the even neighbour. -/
def divRoundEven (num den : Nat) : Nat :=
  let whole := num / den
  let twice := 2 * (num % den)
  if den < twice || (twice == den && whole % 2 == 1) then whole + 1 else whole

/-- `num / (den · 2^exponent)` as a ratio of whole numbers. -/
def scaledRatio (num den : Nat) (exponent : Int) : Nat × Nat :=
  if 0 ≤ exponent then (num, den <<< exponent.toNat) else (num <<< (-exponent).toNat, den)

/-- The exponent at which the mantissa of a positive ratio has 53 bits, but at least the least. -/
def exponentOf (num den : Nat) : Int :=
  let guess : Int := (Nat.log2 num : Int) - (Nat.log2 den : Int) - 53
  let (n, d) := scaledRatio num den guess
  max minExponent (if n / d < 2 * leadingBit then guess else guess + 1)

/-- The nearest number to a ratio; nothing if that is beyond the greatest. -/
def ofRatio (negative : Bool) (num den : Nat) : Option Binary64 :=
  if num = 0 then some (zero negative)
  else
    let exponent := exponentOf num den
    let (n, d) := scaledRatio num den exponent
    let mantissa := divRoundEven n d
    let (mantissa, exponent) :=
      if mantissa = 2 * leadingBit then (leadingBit, exponent + 1) else (mantissa, exponent)
    if maxExponent < exponent then none
    else if mantissa = 0 then some (zero negative)
    else some ⟨negative, mantissa, exponent⟩

/-- The magnitude as a ratio. -/
def ratio (x : Binary64) : Nat × Nat :=
  if 0 ≤ x.exponent then (x.mantissa <<< x.exponent.toNat, 1)
  else (x.mantissa, 1 <<< (-x.exponent).toNat)

/-- The nearest number to the product of two magnitudes. -/
def mul (x y : Binary64) : Option Binary64 :=
  ofRatio false (x.ratio.1 * y.ratio.1) (x.ratio.2 * y.ratio.2)

/-- The nearest number to the quotient of two magnitudes. -/
def div (x y : Binary64) : Option Binary64 :=
  ofRatio false (x.ratio.1 * y.ratio.2) (x.ratio.2 * y.ratio.1)

/-- The nearest number to a power of ten; the greatest such power is 10^308. -/
def powerOfTen (power : Nat) : Binary64 :=
  (ofRatio false (Nat.pow 10 power) 1).getD (zero false)

/-- Scales a magnitude below 2^64 by a power of ten, in one rounded step where the power is at
most 308. Smaller powers first take a step of 10^-308; two such steps leave zero. Nothing if the
result is too large. -/
def scaleByTen (x : Binary64) (power : Int) : Option Binary64 :=
  if power.natAbs ≤ 308 then
    if 0 ≤ power then x.mul (powerOfTen power.toNat) else x.div (powerOfTen (-power).toNat)
  else if x.isZero then some x
  else if 0 ≤ power then none
  else if power < -616 then some (zero false)
  else (x.div (powerOfTen 308)).bind (·.div (powerOfTen (-power - 308).toNat))

/-- The number of a decimal `± significand · 10^power`: the significand is rounded first and then
scaled. -/
def ofDecimal (negative : Bool) (significand : Nat) (power : Int) : Option Binary64 := do
  let start ← ofRatio false significand 1
  let scaled ← start.scaleByTen power
  return { scaled with negative }

end Binary64

end Admission.Decimal
