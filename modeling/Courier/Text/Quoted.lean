/-
Quoted text, as error messages show the text they refuse. The quote and the
backslash are escaped, the four common controls have short escapes, and a
character without a glyph of its own is written by number in hexadecimal:
a reader of the message sees every character that is there.
-/
import Courier.Text.Quoted.Table
import Courier.Text.Ranges

namespace Courier.Text

/-- Whether quoted text writes a character by number. -/
def isGlyphless (c : Char) : Bool :=
  inRanges glyphlessRanges c

/-- One character inside quotes. -/
def quotedChar (c : Char) : List Char :=
  if c = '"' then ['\\', '"']
  else if c = '\\' then ['\\', '\\']
  else if c = '\x00' then ['\\', '0']
  else if c = '\t' then ['\\', 't']
  else if c = '\n' then ['\\', 'n']
  else if c = '\r' then ['\\', 'r']
  else if isGlyphless c then ['\\', 'u', '{'] ++ Nat.toDigits 16 c.toNat ++ ['}']
  else [c]

/-- A text between quotes. -/
def quoted (s : String) : String :=
  String.ofList ('"' :: s.toList.flatMap quotedChar ++ ['"'])

end Courier.Text
