import Gamebook.Binary64

/-!
# The shortest decimal form of a binary number

A binary number is written with the fewest decimal digits that are read back as the same number;
of several such forms the nearest is taken. The decimal numbers that are read back as a number
form an interval around it, and on the grid of numbers with a given count of digits only the two
neighbours of the number need to be looked at.

* `Binary64.shortest` gives digits and a power of ten.
* `Binary64.text` lays them out: with a point where the power is moderate, else with an exponent.
-/

namespace Gamebook.Binary64

/-! ### The shortest digits -/

/-- The greatest `p` for which `10 ^ p` is at most a positive quotient that the format has. -/
def floorLog10 (num den : Nat) : Int :=
  if den ≤ num then (Nat.toDigits 10 (num / den)).length - 1
  else
    match (List.range 400).find? fun k => decide (den ≤ num * Nat.pow 10 k) with
    | some k => -k
    | none => -400

/-- Whether `n * 10 ^ grid` lies between two quotients with the same denominator. -/
def liesBetween (low high den : Nat) (closed : Bool) (grid : Int) (n : Nat) : Bool :=
  let (value, unit) := scale 10 n 1 grid
  if closed then low * unit ≤ value * den && value * den ≤ high * unit
  else low * unit < value * den && value * den < high * unit

/-- The multiple of `10 ^ grid` that lies nearest to a quotient, of the one below and the one
above it that lie between the bounds. -/
def candidate? (low num high den : Nat) (closed : Bool) (grid : Int) : Option Nat :=
  let (scaled, unit) := scale 10 num den (-grid)
  let below := scaled / unit
  let lower := liesBetween low high den closed grid below
  let upper := liesBetween low high den closed grid (below + 1)
  if lower && upper then some (roundHalfEven scaled unit)
  else if lower then some below
  else if upper then some (below + 1)
  else none

/-- The shortest decimal form of a number's magnitude: a natural number, which may end in zeros,
and a power of ten. -/
def shortest (x : Binary64) : Nat × Int :=
  if x.significand = 0 then (0, 0)
  else
    let gap := if x.significand = topBit ∧ minExponent < x.exponent then 1 else 2
    let (unit, den) := scale 2 1 1 (x.exponent - 2)
    let num := 4 * x.significand * unit
    let low := (4 * x.significand - gap) * unit
    let high := (4 * x.significand + 2) * unit
    let closed := x.significand % 2 = 0
    let top := floorLog10 num den
    let found := (List.range 17).findSome? fun (k : Nat) =>
      (candidate? low num high den closed (top - k)).map fun n => (n, top - (k : Int))
    found.getD (0, 0)

/-! ### Layout -/

/-- The digits of a number without the zeros at the end, and how many of those there are. -/
def significantDigits (n : Nat) : List Char × Nat :=
  if n = 0 then (['0'], 0)
  else
    let backwards := (Nat.toDigits 10 n).reverse
    ((backwards.dropWhile (· == '0')).reverse, (backwards.takeWhile (· == '0')).length)

/-- Puts a point after the first `places` digits. -/
def withPoint (digits : List Char) (places : Nat) : List Char :=
  let whole := digits.take places ++ List.replicate (places - digits.length) '0'
  let fraction := digits.drop places
  whole ++ '.' :: if fraction.isEmpty then ['0'] else fraction

/-- Digits with a point when the first one stands at most five places after the point or at most
sixteen before it, else with an exponent that has a sign. -/
def layOut (n : Nat) (power : Int) : List Char :=
  let (cs, zeros) := significantDigits n
  let top : Int := power + zeros + cs.length - 1
  if 0 ≤ top ∧ top ≤ 15 then withPoint cs (top.toNat + 1)
  else if -5 ≤ top ∧ top < 0 then
    '0' :: '.' :: List.replicate (-top - 1).toNat '0' ++ cs
  else
    let exponent := Nat.toDigits 10 top.natAbs
    let mantissa := cs.take 1 ++ if cs.length ≤ 1 then [] else '.' :: cs.drop 1
    mantissa ++ 'e' :: (if top < 0 then '-' else '+') :: exponent

/-- The text of a number: its `shortest` decimal form, as `layOut` lays it out. -/
def text (x : Binary64) : String :=
  let (n, power) := x.shortest
  .ofList ((if x.negative then ['-'] else []) ++ layOut n power)

end Gamebook.Binary64
