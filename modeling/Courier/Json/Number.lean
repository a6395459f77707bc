/-
Numbers of JSON texts. A number written without fraction and exponent that
fits 64 bits, signed or unsigned, is that integer; every other number is a
double. The text `-0` is the double zero with a sign.

An integer is written in decimal. A double is written with the fewest
digits that name it: positionally, with a fraction, from 1e-5 up to below
1e16, and with one digit before the point and an exponent elsewhere.
-/
import Courier.Number.Shortest

namespace Courier.Json

open Courier.Number (Double Decimal)

/-- A number of a JSON text. -/
inductive Number where
  | integer (value : Int)
  | real (negative : Bool) (size : Double)
  deriving DecidableEq, Repr

/-- The digits of a whole number. -/
def digits (n : Nat) : List Char := Nat.toDigits 10 n

/-- An integer in decimal. -/
def integerChars (i : Int) : List Char :=
  if i < 0 then '-' :: digits i.natAbs else digits i.natAbs

/-- The exponents of the leading digit that are written positionally. -/
def positional (leading : Int) : Bool := -5 ≤ leading && leading < 16

/-- A decimal as the size of a double is written. -/
def decimalChars (d : Decimal) : List Char :=
  let ds := digits d.digits
  let leading : Int := d.exponent + ds.length - 1
  if positional leading then
    if 0 ≤ d.exponent then ds ++ List.replicate d.exponent.toNat '0' ++ ['.', '0']
    else if 0 ≤ leading then
      ds.take (leading.toNat + 1) ++ '.' :: ds.drop (leading.toNat + 1)
    else ['0', '.'] ++ List.replicate (-leading - 1).toNat '0' ++ ds
  else
    let point := if ds.length = 1 then ds else ds.take 1 ++ '.' :: ds.drop 1
    point ++ 'e' :: integerChars leading

/-- A number as it is written. -/
def Number.chars : Number → List Char
  | .integer i => integerChars i
  | .real negative size =>
    (if negative then ['-'] else []) ++ decimalChars size.shortest

end Courier.Json
