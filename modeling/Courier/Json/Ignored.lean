/-
Passing over a value that nobody asked for. Its brackets have to match and
its pieces have to be well formed, but a text in it may hold any bytes and
any escaped units, a number may be of any size, and values may nest to any
depth: the brackets that are open are kept in a list.
-/
import Courier.Json.Number.Scan
import Courier.Json.Literal

namespace Courier.Json

/-- Passes over a text whose opening quote was taken. -/
def skipText : Input → Except Fault Input
  | [] => .error .cutShort
  | b :: rest =>
    if b = byte '"' then .ok rest
    else if b = byte '\\' then
      match rest with
      | [] => .error .cutShort
      | e :: rest =>
        if (shortEscape e).isSome then skipText rest
        else if e = byte 'u' then
          match rest with
          | h₁ :: h₂ :: h₃ :: h₄ :: rest =>
            if (hexUnit h₁ h₂ h₃ h₄).isSome then skipText rest else .error .malformed
          | _ => .error .cutShort
        else .error .malformed
    else if b < 0x20 then .error .malformed
    else skipText rest

/-- Passes over digits, of which there has to be one. -/
def skipSomeDigits (bs : Input) : Except Fault Input :=
  if digitNext bs then .ok (skipDigits bs) else .error .malformed

/-- Passes over an exponent, if there is one. -/
def skipExponent (bs : Input) : Except Fault Input :=
  match exponentNext? bs with
  | none => .ok bs
  | some (b :: rest) =>
    if b = byte '+' ∨ b = byte '-' then skipSomeDigits rest else skipSomeDigits (b :: rest)
  | some [] => .error .malformed

/-- Passes over a fraction and an exponent, if they are there. -/
def skipFraction : Input → Except Fault Input
  | b :: rest =>
    if b = byte '.' then do skipExponent (← skipSomeDigits rest)
    else skipExponent (b :: rest)
  | [] => .ok []

/-- Passes over a number after its sign. -/
def skipUnsigned : Input → Except Fault Input
  | b :: rest =>
    if b = byte '0' then
      if digitNext rest then .error .malformed else skipFraction rest
    else if isDigit b then skipFraction (skipDigits rest)
    else .error .malformed
  | [] => .error .malformed

/-- An open bracket. -/
inductive Bracket where
  | list
  | object
  deriving DecidableEq, Repr

/-- The byte that closes a bracket. -/
def Bracket.close : Bracket → UInt8
  | list => byte ']'
  | object => byte '}'

/-- Where a value is passed over. -/
inductive Place where
  /-- A value has to come. -/
  | value
  /-- A bracket was opened: its first entry or its end has to come. -/
  | opened
  /-- A value inside a bracket ended: a comma or the end has to come. -/
  | after
  deriving DecidableEq, Repr

/-- Passes over the name and the colon in front of an entry, where the bracket
asks for them. -/
def skipName : Bracket → Input → Except Fault Input
  | .list, bs => .ok bs
  | .object, bs =>
    match skipSpace bs with
    | [] => .error .cutShort
    | b :: rest =>
      if b = byte '"' then do
        match skipSpace (← skipText rest) with
        | [] => throw .cutShort
        | c :: rest => if c = byte ':' then return rest else throw .malformed
      else .error .malformed

/-- Passes over a scalar or opens a bracket. -/
def skipStart : Input → Except Fault (Option Bracket × Input)
  | [] => .error .cutShort
  | b :: rest =>
    if b = byte '[' then .ok (some .list, rest)
    else if b = byte '{' then .ok (some .object, rest)
    else (fun rest => (none, rest)) <$>
      if b = byte '"' then skipText rest
      else if b = byte 'n' then scanWord ['u', 'l', 'l'] rest
      else if b = byte 't' then scanWord ['r', 'u', 'e'] rest
      else if b = byte 'f' then scanWord ['a', 'l', 's', 'e'] rest
      else if b = byte '-' then skipUnsigned rest
      else if isDigit b then skipUnsigned (b :: rest)
      else .error .malformed

/-- Passes over what is left of a value with these brackets open, innermost
first. Every second step takes a byte, which `fuel` relies on. -/
def skipFrom : Nat → Place → List Bracket → Input → Except Fault Input
  | 0, _, _, _ => .error .cutShort
  | fuel + 1, .value, stack, bs => do
    match ← skipStart (skipSpace bs) with
    | (some bracket, rest) => skipFrom fuel .opened (bracket :: stack) rest
    | (none, rest) => skipFrom fuel .after stack rest
  | _ + 1, _, [], bs => .ok bs
  | fuel + 1, place, bracket :: stack, bs =>
    match skipSpace bs with
    | [] => .error .cutShort
    | b :: rest =>
      if b = bracket.close then skipFrom fuel .after stack rest
      else if place = .opened then do
        skipFrom fuel .value (bracket :: stack) (← skipName bracket (b :: rest))
      else if b = byte ',' then do
        skipFrom fuel .value (bracket :: stack) (← skipName bracket rest)
      else .error .malformed

/-- Passes over a value. -/
def skipValue (bs : Input) : Except Fault Input :=
  skipFrom (2 * bs.length + 2) .value [] bs

end Courier.Json
