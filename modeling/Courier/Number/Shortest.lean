/-
The fewest decimal digits that still name a magnitude. Around each
magnitude lies the interval of the numbers that round to it; its ends
belong to it when the mantissa is even. Of the decimals inside, the one
with the fewest digits is chosen, and of two such the nearer one.

The decimals of a given number of digits are the points of a grid. If any
point lies in the interval, so does one of the two next to the magnitude,
so only those two are looked at, on ever finer grids.
-/
import Courier.Number.Double

namespace Courier.Number

/-- The number `digits * 10 ^ exponent`. -/
structure Decimal where
  digits : Nat
  exponent : Int
  deriving DecidableEq, Repr

/-- Takes the zeros off the end of the digits; `fuel` bounds their number. -/
def Decimal.stripped : Nat → Decimal → Decimal
  | 0, d => d
  | fuel + 1, d =>
    if d.digits % 10 = 0 ∧ d.digits ≠ 0 then stripped fuel ⟨d.digits / 10, d.exponent + 1⟩ else d

/-- Number of decimal digits of a whole number. -/
def digitCount (n : Nat) : Nat := (Nat.toDigits 10 n).length

/-- The least `j ≥ start` with `den ≤ num * 10 ^ j`, looked for up to `fuel` steps. -/
def leadingPlace (num den : Nat) : Nat → Nat → Nat
  | 0, start => start
  | fuel + 1, start =>
    if den ≤ num * raised 10 start then start else leadingPlace num den fuel (start + 1)

namespace Double

/-- The power of ten of the leading digit. -/
def leadingTen (x : Double) : Int :=
  if x.denominator ≤ x.numerator then digitCount (x.numerator / x.denominator) - 1
  else -(leadingPlace x.numerator x.denominator 400 1 : Int)

/-- Half the gap below, in quarters of the unit: the gap is half as wide under
a power of two. -/
def quartersBelow (x : Double) : Nat :=
  if x.mantissa = raised 2 52 ∧ leastExponent < x.exponent then 1 else 2

/-- The grid point of spacing `10 ^ place` that names a magnitude, if one does. -/
def onGrid? (x : Double) (place : Int) : Option Nat :=
  let quarter := raised 2 (x.exponent - 2) * raised 10 (-place)
  let point := raised 10 place * raised 2 (2 - x.exponent)
  let value := 4 * x.mantissa * quarter
  let low := (4 * x.mantissa - x.quartersBelow) * quarter
  let high := (4 * x.mantissa + 2) * quarter
  let names (c : Nat) : Bool :=
    if x.mantissa % 2 = 0 then low ≤ c * point && c * point ≤ high
    else low < c * point && c * point < high
  let below := value / point
  let above := below + 1
  match names below, names above with
  | true, true =>
    let down := value - below * point
    let up := above * point - value
    some (if down < up ∨ (down = up ∧ below % 2 = 0) then below else above)
  | true, false => some below
  | false, true => some above
  | false, false => none

/-- The first grid, from coarse to fine, with a point that names the magnitude. -/
def shortestFrom (x : Double) : Nat → Int → Decimal
  | 0, place => ⟨(x.onGrid? place).getD 0, place⟩
  | fuel + 1, place =>
    match x.onGrid? place with
    | some c => ⟨c, place⟩
    | none => shortestFrom x fuel (place - 1)

/-- The shortest decimal that names a magnitude; zero is `0 * 10 ^ 0`. -/
def shortest (x : Double) : Decimal :=
  if x.isZero then ⟨0, 0⟩
  else Decimal.stripped 20 (shortestFrom x 17 x.leadingTen)

end Double

end Courier.Number
