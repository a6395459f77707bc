/-
Scanning numbers. The digits of a number are gathered into a significand of
64 bits. Digits that no longer fit are not rounded into it: before the
point each of them raises the exponent by one, behind the point they are
dropped. An exponent has to fit 31 bits; one that does not makes the number
zero or, when it grows, too large.
-/
import Courier.Json.Scan

namespace Courier.Json

open Courier.Number (Double)

/-- The first number that does not fit a significand. -/
def significandLimit : Nat := UInt64.size

/-- The first number that does not fit an exponent. -/
def exponentLimit : Nat := 0x80000000

/-- Appends digits to `n` as long as it stays below the limit; also counts them. -/
def gather (limit n count : Nat) : Input → Nat × Nat × Input
  | [] => (n, count, [])
  | b :: rest =>
    if isDigit b ∧ n * 10 + digitValue b < limit then
      gather limit (n * 10 + digitValue b) (count + 1) rest
    else (n, count, b :: rest)

/-- The double `significand * 10 ^ exponent`. -/
def scaled (negative : Bool) (significand : Nat) (exponent : Int) (rest : Input) :
    Except Fault (Number × Input) :=
  match Double.ofDecimal significand exponent with
  | some size => .ok (.real negative size, rest)
  | none => .error .malformed

/-- Scans what follows the letter of an exponent; `start` is added to it. -/
def scanExponent (negative : Bool) (significand : Nat) (start : Int) (bs : Input) :
    Except Fault (Number × Input) :=
  let (down, bs) : Bool × Input :=
    match bs with
    | b :: rest =>
      if b = byte '+' then (false, rest) else if b = byte '-' then (true, rest) else (false, bs)
    | [] => (false, [])
  match bs with
  | [] => .error .cutShort
  | b :: rest =>
    if isDigit b then
      let (e, _, rest) := gather exponentLimit (digitValue b) 0 rest
      if digitNext rest then
        if significand ≠ 0 ∧ down = false then .error .malformed
        else .ok (.real negative .zero, skipDigits rest)
      else scaled negative significand (if down then start - e else start + e) rest
    else .error .malformed

/-- Whether the letter of an exponent comes next; gives what follows it. -/
def exponentNext? : Input → Option Input
  | b :: rest => if b = byte 'e' ∨ b = byte 'E' then some rest else none
  | [] => none

/-- Ends a number whose exponent is `exponent` so far. -/
def scanScale (negative : Bool) (significand : Nat) (exponent : Int) (bs : Input) :
    Except Fault (Number × Input) :=
  match exponentNext? bs with
  | some rest => scanExponent negative significand exponent rest
  | none => scaled negative significand exponent bs

/-- Scans what follows the point; `before` counts digits that were left out in
front of it. -/
def scanFraction (negative : Bool) (significand : Nat) (before : Nat) (bs : Input) :
    Except Fault (Number × Input) :=
  let (significand, count, rest) := gather significandLimit significand 0 bs
  if digitNext rest then scanScale negative significand (before - count) (skipDigits rest)
  else if count = 0 then .error (if rest.isEmpty then .cutShort else .malformed)
  else scanScale negative significand (before - count) rest

/-- An integer, or the double it is too large for. Minus zero is a double. -/
def integerOr (negative : Bool) (significand : Nat) (rest : Input) :
    Except Fault (Number × Input) :=
  if negative then
    if 0 < significand ∧ significand ≤ 0x8000000000000000 then .ok (.integer (-significand), rest)
    else scaled true significand 0 rest
  else .ok (.integer significand, rest)

/-- Scans what follows the digits of a significand that was gathered whole. -/
def scanSuffix (negative : Bool) (significand : Nat) (bs : Input) :
    Except Fault (Number × Input) :=
  match bs with
  | b :: rest =>
    if b = byte '.' then scanFraction negative significand 0 rest
    else
      match exponentNext? bs with
      | some rest => scanExponent negative significand 0 rest
      | none => integerOr negative significand bs
  | [] => integerOr negative significand []

/-- Scans what follows the digits of a significand that left out `before` digits. -/
def scanLongSuffix (negative : Bool) (significand before : Nat) (bs : Input) :
    Except Fault (Number × Input) :=
  match bs with
  | b :: rest =>
    if b = byte '.' then scanFraction negative significand before rest
    else scanScale negative significand before bs
  | [] => scaled negative significand before []

/-- Scans a number after its sign. No number but zero starts with a zero. -/
def scanUnsigned (negative : Bool) : Input → Except Fault (Number × Input)
  | [] => .error .cutShort
  | b :: rest =>
    if b = byte '0' then
      if digitNext rest then .error .malformed else scanSuffix negative 0 rest
    else if isDigit b then
      let (significand, _, rest) := gather significandLimit (digitValue b) 0 rest
      if digitNext rest then
        let after := skipDigits rest
        scanLongSuffix negative significand (rest.length - after.length) after
      else scanSuffix negative significand rest
    else .error .malformed

/-- Whether a number comes next. -/
def numberNext : Input → Bool
  | b :: _ => b == byte '-' || isDigit b
  | [] => false

/-- Scans a number. -/
def scanNumber : Input → Except Fault (Number × Input)
  | b :: rest => if b = byte '-' then scanUnsigned true rest else scanUnsigned false (b :: rest)
  | [] => .error .cutShort

end Courier.Json
