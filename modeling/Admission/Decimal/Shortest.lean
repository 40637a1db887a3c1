import Admission.Decimal.Binary64

/-!
Contract: the fewest decimal digits that read back as a given binary number.

A decimal reads back when it lies in the interval of reals that round to the number; the ends of
the interval belong to it when the mantissa is even. On each decimal grid, coarsest first, the two
neighbours of the number are tried; the first grid with a hit wins, and of two hits the nearer,
an even last digit deciding a tie.

Owns also: the written form of such a number, `NumberFormat`.
-/

namespace Admission.Decimal

/-- A positive decimal `digits · 10^power`. -/
structure Digits where
  digits : Nat
  power : Int
  deriving DecidableEq, Repr

/-- The interval of reals that round to a number, all bounds over one denominator. -/
structure Rounding where
  low : Nat
  value : Nat
  high : Nat
  den : Nat
  closed : Bool

/-- The rounding interval of a positive number. The gap below a power of two is half as wide. -/
def Rounding.of (x : Binary64) : Rounding :=
  let lowGap :=
    if x.mantissa = Binary64.leadingBit && x.exponent != Binary64.minExponent then 1 else 2
  let (scale, den) :=
    if 0 ≤ x.exponent then (1 <<< x.exponent.toNat, 4) else (1, 4 <<< (-x.exponent).toNat)
  { low := (4 * x.mantissa - lowGap) * scale
    value := 4 * x.mantissa * scale
    high := (4 * x.mantissa + 2) * scale
    den
    closed := x.mantissa % 2 == 0 }

/-- `n · 10^power` over a denominator, as a pair of factors for comparison: `n · fst` against
`value · snd`. -/
def tenFactors (den : Nat) (power : Int) : Nat × Nat :=
  if 0 ≤ power then (Nat.pow 10 power.toNat * den, 1) else (den, Nat.pow 10 (-power).toNat)

/-- The decimals on the grid `10^power` next to the number that round to it, the better one. -/
def Rounding.onGrid (r : Rounding) (power : Int) : Option Digits :=
  let (unit, scale) := tenFactors r.den power
  let below := r.value * scale / unit
  let hits (n : Nat) : Bool :=
    if r.closed then r.low * scale ≤ n * unit && n * unit ≤ r.high * scale
    else r.low * scale < n * unit && n * unit < r.high * scale
  let downGap := r.value * scale - below * unit
  let upGap := (below + 1) * unit - r.value * scale
  let down := below != 0 && hits below
  let up := hits (below + 1)
  if down && (!up || downGap < upGap || (downGap == upGap && below % 2 == 0)) then
    some ⟨below, power⟩
  else if up then some ⟨below + 1, power⟩
  else none

/-- The greatest power of ten that a positive ratio reaches, searched downwards from `start`. -/
def leadingPower (num den : Nat) (start : Int) : (steps : Nat) → Int
  | 0 => start
  | steps + 1 =>
      let (unit, scale) := tenFactors den start
      if unit ≤ num * scale then start else leadingPower num den (start - 1) steps

/-- The first hit on grids from a power downwards. -/
def Rounding.firstHit (r : Rounding) (power : Int) : (grids : Nat) → Digits
  | 0 => ⟨0, power⟩
  | grids + 1 => (r.onGrid power).getD (r.firstHit (power - 1) grids)

/-- A decimal without zeros at its end. -/
def Digits.strip (d : Digits) : (steps : Nat) → Digits
  | 0 => d
  | steps + 1 => if d.digits % 10 == 0 && d.digits != 0 then
      Digits.strip ⟨d.digits / 10, d.power + 1⟩ steps else d

/-- The shortest decimal that reads back as the positive number: at most seventeen digits. -/
def shortest (x : Binary64) : Digits :=
  let r := Rounding.of x
  let bits : Int := (Nat.log2 x.mantissa : Int) + x.exponent
  let guess := bits * 30103 / 100000 + 2
  (r.firstHit (leadingPower r.value r.den guess 6) 18).strip 20

/-- How decimals are written. -/
structure NumberFormat where
  /-- The least exponent of the first digit that is written without an exponent. -/
  plainFrom : Int
  /-- The first exponent of the first digit that is written with an exponent again. -/
  plainBelow : Int

/-- Numbers from 10^-5 up to 10^16 are written without an exponent, always with a decimal point;
all others with one digit before the point and a signed exponent. -/
def NumberFormat.standard : NumberFormat := ⟨-5, 16⟩

/-- Writes a positive decimal. -/
def NumberFormat.render (format : NumberFormat) (d : Digits) : List Char :=
  let digits := Nat.toDigits 10 d.digits
  let lead : Int := d.power + digits.length - 1
  if format.plainFrom ≤ lead && lead < format.plainBelow then
    if 0 ≤ d.power then digits ++ List.replicate d.power.toNat '0' ++ ['.', '0']
    else if 0 ≤ lead then
      digits.take (lead.toNat + 1) ++ '.' :: digits.drop (lead.toNat + 1)
    else '0' :: '.' :: List.replicate (-lead - 1).toNat '0' ++ digits
  else
    let fraction := if digits.length = 1 then [] else '.' :: digits.drop 1
    let sign := if lead < 0 then '-' else '+'
    digits.take 1 ++ fraction ++ 'e' :: sign :: Nat.toDigits 10 lead.natAbs

/-- The written form of a number. -/
def Binary64.text (x : Binary64) : List Char :=
  let magnitude := if x.isZero then ['0', '.', '0'] else NumberFormat.standard.render (shortest x)
  if x.negative then '-' :: magnitude else magnitude

end Admission.Decimal
