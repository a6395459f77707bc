/-
JSON values. The entries of an object are a list, in the order they are
written; reading sorts them by name and keeps the last of two entries with
one name, so a value that was read has its entries in order.

Values nest at most 127 deep when they are read.
-/
import Courier.Json.Ignored
import Courier.KeyedList

namespace Courier.Json

/-- A JSON value. -/
inductive Value where
  | null
  | boolean (b : Bool)
  | number (n : Number)
  | text (s : String)
  | list (items : List Value)
  | object (entries : List (String × Value))
  deriving Inhabited, Repr

-- ============================================================ writing

mutual

/-- A value in its compact form. -/
def Value.chars : Value → List Char
  | .null => ['n', 'u', 'l', 'l']
  | .boolean true => ['t', 'r', 'u', 'e']
  | .boolean false => ['f', 'a', 'l', 's', 'e']
  | .number n => n.chars
  | .text s => literalChars s
  | .list items => '[' :: itemsChars items ++ [']']
  | .object entries => '{' :: entriesChars entries ++ ['}']

/-- Values with commas between them. -/
def itemsChars : List Value → List Char
  | [] => []
  | [v] => v.chars
  | v :: rest => v.chars ++ ',' :: itemsChars rest

/-- Entries with commas between them. -/
def entriesChars : List (String × Value) → List Char
  | [] => []
  | [(k, v)] => literalChars k ++ ':' :: v.chars
  | (k, v) :: rest => literalChars k ++ ':' :: v.chars ++ ',' :: entriesChars rest

end

/-- The compact text of a value. -/
def Value.render (v : Value) : String := String.ofList v.chars

/-- The bytes of the compact text of a value. -/
def Value.bytes (v : Value) : List UInt8 := Text.utf8Bytes v.render

-- ============================================================ reading

/-- One more than the greatest depth of values that are read. -/
def depthLimit : Nat := 128

/-- The colon between a name and its value. -/
def scanColon (bs : Input) : Except Fault Input :=
  match skipSpace bs with
  | [] => .error .cutShort
  | b :: rest => if b = byte ':' then .ok rest else .error .malformed

/-- A value that is no list and no object. -/
def scanScalar : Input → Except Fault (Value × Input)
  | [] => .error .cutShort
  | b :: rest =>
    if b = byte 'n' then (Value.null, ·) <$> scanWord ['u', 'l', 'l'] rest
    else if b = byte 't' then (Value.boolean true, ·) <$> scanWord ['r', 'u', 'e'] rest
    else if b = byte 'f' then (Value.boolean false, ·) <$> scanWord ['a', 'l', 's', 'e'] rest
    else if b = byte '"' then (fun (s, rest) => (Value.text s, rest)) <$> scanText rest
    else if numberNext (b :: rest) then
      (fun (n, rest) => (Value.number n, rest)) <$> scanNumber (b :: rest)
    else .error .malformed

mutual

/-- Scans a value that may nest `depth - 1` deep; `fuel` bounds the steps. -/
def scanValue : Nat → Nat → Input → Except Fault (Value × Input)
  | 0, _, _ => .error .cutShort
  | fuel + 1, depth, bs =>
    match skipSpace bs with
    | [] => .error .cutShort
    | b :: rest =>
      if b = byte '[' then
        if depth ≤ 1 then .error .malformed
        else (fun (items, rest) => (Value.list items, rest)) <$>
          scanItems fuel (depth - 1) true [] rest
      else if b = byte '{' then
        if depth ≤ 1 then .error .malformed
        else (fun (entries, rest) => (Value.object entries, rest)) <$>
          scanEntries fuel (depth - 1) true [] rest
      else scanScalar (b :: rest)

/-- Scans the rest of a list after the items `done`, last first. -/
def scanItems : Nat → Nat → Bool → List Value → Input → Except Fault (List Value × Input)
  | 0, _, _, _, _ => .error .cutShort
  | fuel + 1, depth, first, done, bs =>
    match skipSpace bs with
    | [] => .error .cutShort
    | b :: rest =>
      if b = byte ']' then .ok (done.reverse, rest)
      else if first then do
        let (v, rest) ← scanValue fuel depth (b :: rest)
        scanItems fuel depth false (v :: done) rest
      else if b = byte ',' then do
        let (v, rest) ← scanValue fuel depth rest
        scanItems fuel depth false (v :: done) rest
      else .error .malformed

/-- Scans the rest of an object after the entries `done`. -/
def scanEntries : Nat → Nat → Bool → List (String × Value) → Input →
    Except Fault (List (String × Value) × Input)
  | 0, _, _, _, _ => .error .cutShort
  | fuel + 1, depth, first, done, bs =>
    match skipSpace bs with
    | [] => .error .cutShort
    | b :: rest =>
      if b = byte '}' then .ok (done, rest)
      else if first then scanEntry fuel depth done (b :: rest)
      else if b = byte ',' then scanEntry fuel depth done rest
      else .error .malformed

/-- Scans an entry and the rest of its object. -/
def scanEntry : Nat → Nat → List (String × Value) → Input →
    Except Fault (List (String × Value) × Input)
  | 0, _, _, _ => .error .cutShort
  | fuel + 1, depth, done, bs =>
    match skipSpace bs with
    | [] => .error .cutShort
    | b :: rest =>
      if b = byte '"' then do
        let (k, rest) ← scanText rest
        let (v, rest) ← scanValue fuel depth (← scanColon rest)
        scanEntries fuel depth false (KeyedList.put k v done) rest
      else .error .malformed

end

/-- Reads a whole text as a value. -/
def Value.ofBytes (bytes : List UInt8) : Except Fault Value :=
  readAll (scanValue (3 * bytes.length + 3) depthLimit) bytes

end Courier.Json
