/-
Text between quotes. Written: the quote, the backslash and the controls are
escaped, the five common controls with a letter, the others by number, and
everything else stands for itself. Read: any character may be escaped by
its UTF-16 units, in pairs where it needs two, and what the quotes enclose
must be well-formed UTF-8 once the escapes are replaced.
-/
import Courier.Json.Scan
import Courier.Text.Utf8

namespace Courier.Json

-- ============================================================ writing

/-- A digit of a hexadecimal number. -/
def hexDigit (n : Nat) : Char := Nat.digitChar n

/-- A character between quotes. -/
def literalChar (c : Char) : List Char :=
  if c = '"' then ['\\', '"']
  else if c = '\\' then ['\\', '\\']
  else if c = '\x08' then ['\\', 'b']
  else if c = '\t' then ['\\', 't']
  else if c = '\n' then ['\\', 'n']
  else if c = '\x0c' then ['\\', 'f']
  else if c = '\r' then ['\\', 'r']
  else if c.toNat < 0x20 then
    ['\\', 'u', '0', '0', hexDigit (c.toNat / 16), hexDigit (c.toNat % 16)]
  else [c]

/-- A text between quotes. -/
def literalChars (s : String) : List Char :=
  '"' :: s.toList.flatMap literalChar ++ ['"']

-- ============================================================ reading

/-- The byte that a backslash and a letter stand for. -/
def shortEscape (b : UInt8) : Option UInt8 :=
  if b = byte '"' then some 0x22
  else if b = byte '\\' then some 0x5C
  else if b = byte '/' then some 0x2F
  else if b = byte 'b' then some 0x08
  else if b = byte 'f' then some 0x0C
  else if b = byte 'n' then some 0x0A
  else if b = byte 'r' then some 0x0D
  else if b = byte 't' then some 0x09
  else none

/-- The value of a hexadecimal digit. -/
def hexValue (b : UInt8) : Option Nat :=
  if isDigit b then some (digitValue b)
  else if byte 'a' ≤ b ∧ b ≤ byte 'f' then some (b.toNat - 0x61 + 10)
  else if byte 'A' ≤ b ∧ b ≤ byte 'F' then some (b.toNat - 0x41 + 10)
  else none

/-- The unit that four hexadecimal digits name. -/
def hexUnit (a b c d : UInt8) : Option Nat := do
  let high := (← hexValue a) * 16 + (← hexValue b)
  let low := (← hexValue c) * 16 + (← hexValue d)
  return high * 256 + low

/-- Units that open a pair. -/
def opensPair (unit : Nat) : Bool := 0xD800 ≤ unit && unit ≤ 0xDBFF

/-- Units that close a pair. -/
def closesPair (unit : Nat) : Bool := 0xDC00 ≤ unit && unit ≤ 0xDFFF

/-- The character of a pair of units. -/
def pairChar (opening closing : Nat) : Char :=
  Char.ofNat (0x10000 + (opening - 0xD800) * 0x400 + (closing - 0xDC00))

/-- Puts bytes in front of what a scanner gave. -/
def prepend (front : List UInt8) (scanned : Except Fault (List UInt8 × Input)) :
    Except Fault (List UInt8 × Input) :=
  scanned.map fun (bytes, rest) => (front ++ bytes, rest)

/-- Scans the bytes up to the closing quote, escapes replaced. -/
def scanEnclosed : Input → Except Fault (List UInt8 × Input)
  | [] => .error .cutShort
  | b :: rest =>
    if b = byte '"' then .ok ([], rest)
    else if b = byte '\\' then
      match rest with
      | [] => .error .cutShort
      | e :: rest =>
        match shortEscape e with
        | some c => prepend [c] (scanEnclosed rest)
        | none =>
          if e = byte 'u' then
            match rest with
            | h₁ :: h₂ :: h₃ :: h₄ :: rest =>
              match hexUnit h₁ h₂ h₃ h₄ with
              | none => .error .malformed
              | some unit =>
                if closesPair unit then .error .malformed
                else if opensPair unit then
                  match rest with
                  | [] => .error .cutShort
                  | b :: rest =>
                    if b = byte '\\' then
                      match rest with
                      | [] => .error .cutShort
                      | e :: rest =>
                        if e = byte 'u' then
                          match rest with
                          | h₁ :: h₂ :: h₃ :: h₄ :: rest =>
                            match hexUnit h₁ h₂ h₃ h₄ with
                            | none => .error .malformed
                            | some unit' =>
                              if closesPair unit' then
                                prepend (String.utf8EncodeChar (pairChar unit unit'))
                                  (scanEnclosed rest)
                              else .error .malformed
                          | _ => .error .cutShort
                        else .error .malformed
                    else .error .malformed
                else prepend (String.utf8EncodeChar (Char.ofNat unit)) (scanEnclosed rest)
            | _ => .error .cutShort
          else .error .malformed
    else if b < 0x20 then .error .malformed
    else prepend [b] (scanEnclosed rest)

/-- Scans a text whose opening quote was taken. -/
def scanText (bs : Input) : Except Fault (String × Input) := do
  let (bytes, rest) ← scanEnclosed bs
  match Text.ofUtf8? bytes with
  | some s => return (s, rest)
  | none => throw .malformed

end Courier.Json
