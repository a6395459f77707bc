/-
Records with fixed fields, as JSON texts hold them. A shape names the
record and lists its fields; a row holds one value for each field. One
reader and one writer serve every shape.

A row is written as an object with its fields in order. It is read from an
object, whose entries may come in any order and among others that are
passed over, or from a list of the values in order. A field with a default
may be absent, in a list only together with all fields behind it.
-/
import Courier.Json.Value

namespace Courier.Json

/-- Word sizes of whole-number fields. -/
inductive Word where
  | u16
  | u32
  | u64
  /-- The size of something in memory. -/
  | size
  deriving DecidableEq, Repr

/-- What a message calls a word. -/
def Word.name : Word → String
  | u16 => "u16"
  | u32 => "u32"
  | u64 => "u64"
  | size => "usize"

/-- What a field holds. -/
inductive Kind where
  | text
  | word (w : Word)
  deriving DecidableEq, Repr

/-- What a message calls a kind. -/
def Kind.name : Kind → String
  | text => "a string"
  | word w => w.name

/-- The values of a kind. -/
abbrev Kind.Carrier : Kind → Type
  | .text => String
  | .word .u16 => UInt16
  | .word .u32 => UInt32
  | .word .u64 => UInt64
  | .word .size => UInt64

/-- A whole number as a word, if it fits. -/
def Word.ofInt? : (w : Word) → Int → Option (Kind.word w).Carrier
  | .u16, i => if 0 ≤ i ∧ i < UInt16.size then some (UInt16.ofNat i.toNat) else none
  | .u32, i => if 0 ≤ i ∧ i < UInt32.size then some (UInt32.ofNat i.toNat) else none
  | .u64, i => if 0 ≤ i ∧ i < UInt64.size then some (UInt64.ofNat i.toNat) else none
  | .size, i => if 0 ≤ i ∧ i < UInt64.size then some (UInt64.ofNat i.toNat) else none

/-- The whole number in a word. -/
def Word.toNat : (w : Word) → (Kind.word w).Carrier → Nat
  | .u16, v => UInt16.toNat v
  | .u32, v => UInt32.toNat v
  | .u64, v => UInt64.toNat v
  | .size, v => UInt64.toNat v

/-- A word that was written is read back. -/
theorem Word.ofInt?_toNat (w : Word) (v : (Kind.word w).Carrier) :
    w.ofInt? (w.toNat v) = some v := by
  cases w with
  | u16 => have := UInt16.toNat_lt v; simp [ofInt?, toNat]; omega
  | u32 => have := UInt32.toNat_lt v; simp [ofInt?, toNat]; omega
  | u64 => have := UInt64.toNat_lt v; simp [ofInt?, toNat]; omega
  | size => have := UInt64.toNat_lt v; simp [ofInt?, toNat]; omega

/-- A field of a record. -/
structure Field where
  name : String
  kind : Kind
  default : Option kind.Carrier

/-- A kind of record. -/
structure Shape where
  name : String
  fields : List Field

/-- One value for each field. -/
def Row : List Field → Type
  | [] => Unit
  | f :: fs => f.kind.Carrier × Row fs

/-- The values met so far. -/
def Draft : List Field → Type
  | [] => Unit
  | f :: fs => Option f.kind.Carrier × Draft fs

-- ============================================================ writing

/-- A value of a field as JSON. -/
def Kind.toValue : (k : Kind) → k.Carrier → Value
  | .text, s => .text s
  | .word w, v => .number (.integer (w.toNat v))

/-- The entries of a row. -/
def Row.entries : (fs : List Field) → Row fs → List (String × Value)
  | [], _ => []
  | f :: fs, (v, row) => (f.name, f.kind.toValue v) :: entries fs row

/-- A row as JSON. -/
def Shape.toValue (shape : Shape) (row : Row shape.fields) : Value :=
  .object (Row.entries shape.fields row)

-- ============================================================ reading

/-- What is wrong with a value of another type. The value is read as far as the
message needs it, and is at fault itself if that fails. -/
def wrongType (expected : String) (bs : Input) : Fault :=
  let mismatch (found : Found) : Fault := .mismatch (.wrongType found expected)
  match bs with
  | [] => .cutShort
  | b :: rest =>
    if b = byte '[' then mismatch .sequence
    else if b = byte '{' then mismatch .map
    else
      match scanScalar (b :: rest) with
      | .error fault => fault
      | .ok (.null, _) => mismatch .null
      | .ok (.boolean v, _) => mismatch (.boolean v)
      | .ok (.number n, _) => mismatch (.number n)
      | .ok (.text s, _) => mismatch (.text s)
      | .ok (.list _, _) => mismatch .sequence
      | .ok (.object _, _) => mismatch .map

/-- Scans a value of a field. -/
def Kind.scan (k : Kind) (bs : Input) : Except Fault (k.Carrier × Input) :=
  match k, skipSpace bs with
  | _, [] => .error .cutShort
  | .text, b :: rest =>
    if b = byte '"' then scanText rest else .error (wrongType (Kind.name .text) (b :: rest))
  | .word w, b :: rest =>
    if numberNext (b :: rest) then
      match scanNumber (b :: rest) with
      | .error fault => .error fault
      | .ok (.integer i, rest) =>
        match w.ofInt? i with
        | some v => .ok (v, rest)
        | none => .error (.mismatch (.outOfRange i w.name))
      | .ok (.real negative size, _) =>
        .error (.mismatch (.wrongType (.number (.real negative size)) w.name))
    else .error (wrongType w.name (b :: rest))

/-- No field met. -/
def Draft.empty : (fs : List Field) → Draft fs
  | [] => ()
  | _ :: fs => (none, empty fs)

/-- Scans the value behind a name, with its colon, into the field of that name;
none when no field has it. A field met before is refused first. -/
def Draft.fill? : (fs : List Field) → Draft fs → String → Input →
    Option (Except Fault (Draft fs × Input))
  | [], _, _, _ => none
  | f :: fs, (met, draft), name, bs =>
    if name = f.name then
      some <|
        if met.isSome then .error (.mismatch (.duplicateField name))
        else do
          let (v, rest) ← f.kind.scan (← scanColon bs)
          return ((some v, draft), rest)
    else
      (fill? fs draft name bs).map fun scanned =>
        (fun (draft, rest) => ((met, draft), rest)) <$> scanned

/-- The row of a draft, absent fields at their defaults. -/
def Draft.complete : (fs : List Field) → Draft fs → Except Fault (Row fs)
  | [], _ => .ok ()
  | f :: fs, (met, draft) =>
    match met, f.default with
    | some v, _ => (v, ·) <$> complete fs draft
    | none, some v => (v, ·) <$> complete fs draft
    | none, none => .error (.mismatch (.missingField f.name))

/-- Scans the entries of an object after its opening bracket. -/
def scanObject (fs : List Field) : Nat → Bool → Draft fs → Input →
    Except Fault (Row fs × Input)
  | 0, _, _, _ => .error .cutShort
  | fuel + 1, first, draft, bs =>
    match skipSpace bs with
    | [] => .error .cutShort
    | b :: rest =>
      if b = byte '}' then (·, rest) <$> draft.complete fs
      else if first ∨ b = byte ',' then
        match skipSpace (if first then b :: rest else rest) with
        | [] => .error .cutShort
        | q :: rest =>
          if q = byte '"' then do
            let (name, rest) ← scanText rest
            match draft.fill? fs name rest with
            | some scanned =>
              let (draft, rest) ← scanned
              scanObject fs fuel false draft rest
            | none => scanObject fs fuel false draft (← skipValue (← scanColon rest))
          else .error .malformed
      else .error .malformed

/-- The fields behind the end of a list, at their defaults; `met` came before. -/
def Row.defaults (expected : String) : (fs : List Field) → Nat → Except Fault (Row fs)
  | [], _ => .ok ()
  | f :: fs, met =>
    match f.default with
    | some v => (v, ·) <$> defaults expected fs (met + 1)
    | none => .error (.mismatch (.wrongLength met expected))

/-- The closing bracket of a list whose values were all taken. -/
def scanListEnd (bs : Input) : Except Fault Input :=
  match skipSpace bs with
  | [] => .error .cutShort
  | b :: rest => if b = byte ']' then .ok rest else .error .malformed

/-- Scans the values of a list for the given fields; `met` came before. -/
def scanList (expected : String) : (fs : List Field) → Nat → Input →
    Except Fault (Row fs × Input)
  | [], _, bs => ((), ·) <$> scanListEnd bs
  | f :: fs, met, bs =>
    match skipSpace bs with
    | [] => .error .cutShort
    | b :: rest =>
      if b = byte ']' then (·, rest) <$> Row.defaults expected (f :: fs) met
      else if met = 0 ∨ b = byte ',' then do
        let after := if met = 0 then b :: rest else rest
        match skipSpace after with
        | [] => throw .cutShort
        | c :: _ =>
          if c = byte ']' then throw .malformed
          else
            let (v, rest) ← f.kind.scan after
            let (row, rest) ← scanList expected fs (met + 1) rest
            return ((v, row), rest)
      else .error .malformed

/-- What a message calls a shape. -/
def Shape.title (shape : Shape) : String := "struct " ++ shape.name

/-- What a message calls a list of the values of a shape. -/
def Shape.listTitle (shape : Shape) : String :=
  shape.title ++ " with " ++ String.ofList (digits shape.fields.length)
    ++ (if shape.fields.length = 1 then " element" else " elements")

/-- Scans a record. -/
def Shape.scan (shape : Shape) (bs : Input) : Except Fault (Row shape.fields × Input) :=
  match skipSpace bs with
  | [] => .error .cutShort
  | b :: rest =>
    if b = byte '[' then scanList shape.listTitle shape.fields 0 rest
    else if b = byte '{' then
      scanObject shape.fields (rest.length + 1) true (Draft.empty shape.fields) rest
    else .error (wrongType shape.title (b :: rest))

/-- Reads a whole text as a record. -/
def Shape.ofBytes (shape : Shape) (bytes : List UInt8) : Except Fault (Row shape.fields) :=
  readAll shape.scan bytes

end Courier.Json
