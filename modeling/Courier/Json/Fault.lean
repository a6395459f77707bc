/-
What can be wrong with a JSON text that is read for a given purpose. The
text is read from the left and the first thing wrong decides, so a text has
one fault: it ends too early, it is malformed, or it is well formed so far
and holds something else than what is read for.
-/
import Courier.Json.Number
import Courier.Text.Quoted

namespace Courier.Json

/-- What was found where something else was expected. -/
inductive Found where
  | null
  | boolean (b : Bool)
  | number (n : Number)
  | text (s : String)
  | sequence
  | map
  deriving DecidableEq, Repr

/-- How a message names what was found. -/
def Found.message : Found → String
  | null => "null"
  | boolean b => "boolean `" ++ (if b then "true" else "false") ++ "`"
  | number (.integer i) => "integer `" ++ String.ofList (integerChars i) ++ "`"
  | number n => "floating point `" ++ String.ofList n.chars ++ "`"
  | text s => "string " ++ Text.quoted s
  | sequence => "sequence"
  | map => "map"

/-- How a well-formed text differs from what it is read for. -/
inductive Mismatch where
  | wrongType (found : Found) (expected : String)
  | outOfRange (value : Int) (expected : String)
  | missingField (name : String)
  | duplicateField (name : String)
  | wrongLength (length : Nat) (expected : String)
  deriving DecidableEq, Repr

/-- The text a mismatch is reported with. -/
def Mismatch.message : Mismatch → String
  | wrongType found expected => "invalid type: " ++ found.message ++ ", expected " ++ expected
  | outOfRange value expected =>
    "invalid value: integer `" ++ String.ofList (integerChars value) ++ "`, expected " ++ expected
  | missingField name => "missing field `" ++ name ++ "`"
  | duplicateField name => "duplicate field `" ++ name ++ "`"
  | wrongLength length expected =>
    "invalid length " ++ String.ofList (digits length) ++ ", expected " ++ expected

/-- Why a text cannot be read. -/
inductive Fault where
  /-- The text ends before the value does. -/
  | cutShort
  /-- The text is no JSON, or nests too deeply, or a number in it is too large. -/
  | malformed
  /-- The text holds something else than what it is read for. -/
  | mismatch (m : Mismatch)
  deriving DecidableEq, Repr

end Courier.Json
