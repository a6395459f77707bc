/-
Magnitudes of double-precision numbers, in exact arithmetic: a mantissa
below 2^53 times a power of two not below 2^-1074. Every operation on them
is one exact fraction rounded once, to the nearest magnitude and to the
even mantissa of two equally near ones, so `ofFraction` is the only place
where precision is lost. It answers `none` past the largest magnitude.
-/
namespace Courier.Number

/-- The magnitude `mantissa * 2 ^ exponent`. -/
structure Double where
  mantissa : Nat
  exponent : Int
  deriving DecidableEq, Repr

/-- A fraction rounded to the nearest whole number, a half to the even one. -/
def roundHalfEven (num den : Nat) : Nat :=
  let q := num / den
  let r := num % den
  if 2 * r < den then q
  else if 2 * r = den then q + q % 2
  else q + 1

/-- `base ^ e` as a numerator. -/
def raised (base : Nat) (e : Int) : Nat := Nat.pow base e.toNat

/-- Rounding stays within half a unit. -/
theorem roundHalfEven_near {num den : Nat} (h : 0 < den) :
    2 * (roundHalfEven num den * den) ≤ 2 * num + den ∧
      2 * num ≤ 2 * (roundHalfEven num den * den) + den := by
  have split := Nat.div_add_mod num den
  have small := Nat.mod_lt num h
  have expand : ∀ q : Nat, (q + 1) * den = q * den + den := fun q => Nat.succ_mul q den
  rw [Nat.mul_comm] at split
  unfold roundHalfEven
  simp only
  split
  · omega
  · split
    next half =>
      rcases Nat.mod_two_eq_zero_or_one (num / den) with even | odd
      · simp only [even, Nat.add_zero]; omega
      · simp only [odd, expand]; omega
    next more => simp only [expand]; omega

namespace Double

def zero : Double := ⟨0, -1074⟩

/-- The least exponent, that of the smallest magnitudes. -/
def leastExponent : Int := -1074

/-- The greatest exponent, that of the largest magnitudes. -/
def greatestExponent : Int := 971

/-- The exponent whose unit gives a fraction a mantissa of 53 bits, or the
least exponent if that is greater. -/
def exponentFor (num den : Nat) : Int :=
  let guess := max leastExponent ((num.log2 : Int) - den.log2 - 53)
  if num * raised 2 (-guess) / (den * raised 2 guess) < raised 2 53 then guess else guess + 1

/-- The magnitude nearest to a fraction; none for a fraction past them all. -/
def ofFraction (num den : Nat) : Option Double :=
  if num = 0 then some zero
  else
    let e := exponentFor num den
    let m := roundHalfEven (num * raised 2 (-e)) (den * raised 2 e)
    let rounded : Double := if m = raised 2 53 then ⟨raised 2 52, e + 1⟩ else ⟨m, e⟩
    if rounded.exponent ≤ greatestExponent then some rounded else none

/-- The magnitude nearest to a whole number. -/
def ofNat (n : Nat) : Option Double := ofFraction n 1

/-- The numerator of a magnitude over `denominator`. -/
def numerator (x : Double) : Nat := x.mantissa * raised 2 x.exponent

/-- The power of two under a magnitude. -/
def denominator (x : Double) : Nat := raised 2 (-x.exponent)

def isZero (x : Double) : Bool := x.mantissa == 0

/-- The rounded product of two magnitudes. -/
def mul (x y : Double) : Option Double :=
  ofFraction (x.numerator * y.numerator) (x.denominator * y.denominator)

/-- The rounded quotient of two magnitudes, the second not zero. -/
def div (x y : Double) : Option Double :=
  ofFraction (x.numerator * y.denominator) (x.denominator * y.numerator)

/-- The greatest power of ten among the magnitudes. -/
def greatestTen : Nat := 308

/-- Divides by powers of ten until the exponent is used up. A quotient that
has come down to zero stays there. -/
def divTens (x : Double) : Nat → Nat → Option Double
  | 0, _ => some x
  | fuel + 1, e =>
    if e ≤ greatestTen then (ofNat (raised 10 e)).bind x.div
    else if x.isZero then some x
    else do
      let ten ← ofNat (raised 10 greatestTen)
      let y ← x.div ten
      divTens y fuel (e - greatestTen)

/-- The magnitude of `digits * 10 ^ exponent`, in two roundings or more: the
digits are rounded first, then each product or quotient. None when it is past
the largest magnitude. -/
def ofDecimal (digits : Nat) (exponent : Int) : Option Double := do
  let x ← ofNat digits
  if 0 ≤ exponent then
    if exponent.toNat ≤ greatestTen then (ofNat (raised 10 exponent)).bind x.mul
    else if x.isZero then some x
    else none
  else divTens x ((-exponent).toNat / greatestTen + 1) (-exponent).toNat

end Double

end Courier.Number
