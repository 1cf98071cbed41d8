/-!
# Binary numbers of 64 bits

Finite floating-point numbers of the binary format with 64 bits: a sign, a significand below
`2 ^ 53` and an exponent of two. Decimal numbers are rounded to the nearest such number, and of
two that are equally near to the one with the even significand.

* `roundHalfEven`: the rounding, on quotients of natural numbers.
* `Binary64.ofDecimal?` gives nothing for numbers that round to no finite value.
-/

namespace Gamebook

/-- A finite number of the format: plus or minus `significand * 2 ^ exponent`. -/
structure Binary64 where
  negative : Bool
  significand : Nat
  exponent : Int
deriving DecidableEq

/-- The integer nearest to a quotient. A half goes to the even neighbour. -/
def roundHalfEven (num den : Nat) : Nat :=
  let floor := num / den
  let twice := 2 * (num % den)
  if twice < den then floor
  else if den < twice then floor + 1
  else if floor % 2 = 0 then floor
  else floor + 1

namespace Binary64

/-- The least exponent of the format. -/
def minExponent : Int := -1074

/-- The greatest exponent of the format. -/
def maxExponent : Int := 971

/-- The least significand of a number whose exponent is not the least. -/
def topBit : Nat := Nat.pow 2 52

/-- A quotient of natural numbers times a power of an integer, as a quotient. -/
def scale (base num den : Nat) (power : Int) : Nat × Nat :=
  if 0 ≤ power then (num * base.pow power.toNat, den) else (num, den * base.pow (-power).toNat)

/-- The greatest `e` for which `2 ^ e` is at most the quotient of two positive numbers. -/
def floorLog2 (num den : Nat) : Int :=
  let estimate : Int := (Nat.log2 num : Int) - (Nat.log2 den : Int)
  let (scaled, unit) := scale 2 num den (-estimate)
  if unit ≤ scaled then estimate else estimate - 1

/-- The significand and exponent nearest to a positive quotient, unless they are above
`maxExponent`. -/
def roundQuotient? (num den : Nat) : Option (Nat × Int) :=
  let exponent := max (floorLog2 num den - 52) minExponent
  let (scaled, unit) := scale 2 num den (-exponent)
  let significand := roundHalfEven scaled unit
  let (significand, exponent) :=
    if significand = 2 * topBit then (topBit, exponent + 1) else (significand, exponent)
  if exponent ≤ maxExponent then some (significand, exponent) else none

/-- The number nearest to plus or minus `digits * 10 ^ power`. Numbers of more than 400 digits
before the point or zeros after it are settled without arithmetic. -/
def ofDecimal? (negative : Bool) (digits : Nat) (power : Int) : Option Binary64 :=
  let places : Int := (Nat.toDigits 10 digits).length + power
  if digits = 0 ∨ places < -400 then some ⟨negative, 0, minExponent⟩
  else if 400 < places then none
  else
    let (num, den) := scale 10 digits 1 power
    (roundQuotient? num den).map fun (significand, exponent) =>
      ⟨negative, significand, exponent⟩

end Binary64

end Gamebook
