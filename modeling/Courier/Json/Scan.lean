/-
Reading from the left. A scanner takes the bytes that are left of a text
and gives a value with the bytes left after it, or the fault it met.
-/
import Courier.Json.Fault

namespace Courier.Json

/-- The bytes of a text, or what is left of them. -/
abbrev Input := List UInt8

/-- The byte of an ASCII character. -/
def byte (c : Char) : UInt8 := c.toUInt8

/-- White space of JSON: space, tab, line feed and carriage return. -/
def isSpace (b : UInt8) : Bool :=
  b == 0x20 || b == 0x09 || b == 0x0A || b == 0x0D

/-- Drops white space. -/
def skipSpace (bs : Input) : Input := bs.dropWhile isSpace

def isDigit (b : UInt8) : Bool := 0x30 ≤ b && b ≤ 0x39

def digitValue (b : UInt8) : Nat := b.toNat - 0x30

/-- Whether a digit comes next. -/
def digitNext : Input → Bool
  | b :: _ => isDigit b
  | [] => false

/-- Drops digits. -/
def skipDigits (bs : Input) : Input := bs.dropWhile isDigit

/-- Scans the given characters. -/
def scanWord : List Char → Input → Except Fault Input
  | [], bs => .ok bs
  | _ :: _, [] => .error .cutShort
  | c :: cs, b :: bs => if b = byte c then scanWord cs bs else .error .malformed

/-- Runs a scanner on a whole text: after the value only white space may come. -/
def readAll {α : Type} (scan : Input → Except Fault (α × Input)) (bytes : Input) :
    Except Fault α := do
  let (value, rest) ← scan bytes
  if (skipSpace rest).isEmpty then return value else throw .malformed

end Courier.Json
