/-
# Interceptor.Text.Decimal — binary fractions and the decimals for them

A binary fraction is a whole number below `2 ^ 53` times a power of two. Reading
a decimal takes the nearest one, of two the one with an even mantissa. It is
written with the fewest digits that read as the same fraction, and of several
such numerals with the nearest; no exponent is used.
-/

namespace Interceptor.Text

set_option autoImplicit false

/-- The number `mantissa * 2 ^ exponent`. -/
structure Binary where
  mantissa : Nat
  exponent : Int
  deriving DecidableEq, Repr

namespace Binary

/-- The smallest and the largest exponent. -/
def minExponent : Int := -1074
def maxExponent : Int := 971

/-- The mantissa that no longer fits. -/
def mantissaBound : Nat := 0x20000000000000

/-- The quotient rounded to the nearest whole number, of two to the even one. -/
def roundQuotient (num den : Nat) : Nat :=
  let quotient := num / den
  let rest := 2 * (num % den)
  if rest < den || rest = den && quotient % 2 = 0 then quotient else quotient + 1

/-- The largest power of two that is at most `num / den`. -/
def floorLog (num den : Nat) : Int :=
  let guess : Int := Nat.log2 num - Nat.log2 den
  if num <<< (-guess).toNat < den <<< guess.toNat then guess - 1 else guess

/-- The fraction nearest to `num / den`, unless it is too large. -/
def ofQuotient? (num den : Nat) : Option Binary :=
  if num = 0 then some ⟨0, minExponent⟩
  else
    let exponent := max (floorLog num den - 52) minExponent
    let mantissa := roundQuotient (num <<< (-exponent).toNat) (den <<< exponent.toNat)
    let value : Binary := if mantissa = mantissaBound then ⟨mantissaBound / 2, exponent + 1⟩ else ⟨mantissa, exponent⟩
    if value.exponent ≤ maxExponent then some value else none

/-- The fraction nearest to `digits * 10 ^ scale`, unless it is too large. -/
def ofDecimal? (digits : Nat) (scale : Int) : Option Binary :=
  let magnitude : Int := (Nat.toDigits 10 digits).length + scale
  if digits = 0 || magnitude < -330 then some ⟨0, minExponent⟩
  else if 310 < magnitude then none
  else ofQuotient? (digits * Nat.pow 10 scale.toNat) (Nat.pow 10 (-scale).toNat)

/-- A number of units of `10 ^ scale` that reads as the same fraction, the nearest one if there are
two. -/
def onGrid? (value : Binary) (scale : Int) : Option Nat :=
  let step := Nat.pow 10 (-scale).toNat <<< value.exponent.toNat
  let unit := Nat.pow 10 scale.toNat <<< (-value.exponent).toNat
  let exact := value.mantissa * step
  let below := if value.mantissa = mantissaBound / 2 && minExponent < value.exponent then step else 2 * step
  let inside (count : Nat) : Bool :=
    let place := 4 * (count * unit)
    if value.mantissa % 2 = 0 then 4 * exact - below ≤ place && place ≤ 4 * exact + 2 * step
    else 4 * exact - below < place && place < 4 * exact + 2 * step
  let lower := exact / unit
  match inside lower, inside (lower + 1) with
  | true, true => some (if 2 * exact ≤ (2 * lower + 1) * unit then lower else lower + 1)
  | true, false => some lower
  | false, true => some (lower + 1)
  | false, false => none

/-- The coarsest grid with a numeral, searched downwards from `10 ^ scale`. -/
def shortestFrom (value : Binary) : Nat → Int → Nat × Int
  | 0, scale => (0, scale)
  | fuel + 1, scale =>
    match value.onGrid? scale with
    | some count => (count, scale)
    | none => shortestFrom value fuel (scale - 1)

/-- The shortest numeral: digits, and the power of ten that they count. -/
def shortest (value : Binary) : Nat × Int :=
  if value.mantissa = 0 then (0, 0) else shortestFrom value 660 309

/-- A numeral without an exponent. -/
def positional (digits : Nat) (scale : Int) : List Char :=
  let figures := Nat.toDigits 10 digits
  if 0 ≤ scale then figures ++ List.replicate scale.toNat '0' ++ ['.', '0']
  else
    let places := (-scale).toNat
    let figures := List.replicate (places + 1 - figures.length) '0' ++ figures
    figures.take (figures.length - places) ++ ['.'] ++ figures.drop (figures.length - places)

/-- The fraction as text. -/
def render (value : Binary) : String := String.ofList (positional value.shortest.1 value.shortest.2)

end Binary

end Interceptor.Text
