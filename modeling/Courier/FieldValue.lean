/-
Field values: what a broker lets declarations and message headers carry.
The numeric sizes are told apart, because a broker does, and so are short
texts, long texts and byte arrays. A long text is a sequence of bytes and
need not be UTF-8. A single or double number is the bits that it is sent as,
so every one is among them: fractions, infinities, both zeros and those that
are no numbers.

Values are compared as they are sent. Two numbers that are equal but have other
bits are two values, as a broker holds it that compares two declarations.

The entries of a table ascend by key.
-/
import Courier.KeyedList
import Courier.Text.Utf8

namespace Courier

/-- A value of a header or an argument. -/
inductive FieldValue where
  | boolean (b : Bool)
  | int8 (n : Int8)
  | uint8 (n : UInt8)
  | int16 (n : Int16)
  | uint16 (n : UInt16)
  | int32 (n : Int32)
  | uint32 (n : UInt32)
  | int64 (n : Int64)
  | single (bits : UInt32)
  | double (bits : UInt64)
  | decimal (scale : UInt8) (value : UInt32)
  | shortText (s : String)
  | longText (bytes : List UInt8)
  | byteArray (bytes : List UInt8)
  | timestamp (t : UInt64)
  | void
  | list (items : List FieldValue)
  | table (entries : List (String × FieldValue))
  deriving Repr

namespace FieldValue

-- ============================================================= equality

mutual

/-- Whether two values are the same one, of the same size and the same bits. -/
def same : FieldValue → FieldValue → Bool
  | boolean a, boolean b => a == b
  | int8 a, int8 b => a == b
  | uint8 a, uint8 b => a == b
  | int16 a, int16 b => a == b
  | uint16 a, uint16 b => a == b
  | int32 a, int32 b => a == b
  | uint32 a, uint32 b => a == b
  | int64 a, int64 b => a == b
  | single a, single b => a == b
  | double a, double b => a == b
  | decimal a v, decimal b w => a == b && v == w
  | shortText a, shortText b => a == b
  | longText a, longText b => a == b
  | byteArray a, byteArray b => a == b
  | timestamp a, timestamp b => a == b
  | void, void => true
  | list a, list b => sameItems a b
  | table a, table b => sameEntries a b
  | _, _ => false

def sameItems : List FieldValue → List FieldValue → Bool
  | [], [] => true
  | x :: xs, y :: ys => same x y && sameItems xs ys
  | _, _ => false

def sameEntries : List (String × FieldValue) → List (String × FieldValue) → Bool
  | [], [] => true
  | (k, x) :: xs, (l, y) :: ys => k == l && same x y && sameEntries xs ys
  | _, _ => false

end

mutual

/-- Comparing finds out whether values are the same. -/
theorem same_iff : ∀ a b : FieldValue, same a b = true ↔ a = b
  | list a, b => by cases b <;> simp [same, sameItems_iff a]
  | table a, b => by cases b <;> simp [same, sameEntries_iff a]
  | boolean _, b | int8 _, b | uint8 _, b | int16 _, b | uint16 _, b | int32 _, b | uint32 _, b
  | int64 _, b | single _, b | double _, b | decimal _ _, b | shortText _, b | longText _, b
  | byteArray _, b | timestamp _, b | void, b => by cases b <;> simp [same]

/-- Lists of values are compared item by item. -/
theorem sameItems_iff : ∀ a b : List FieldValue, sameItems a b = true ↔ a = b
  | [], b => by cases b <;> simp [sameItems]
  | x :: xs, [] => by simp [sameItems]
  | x :: xs, y :: ys => by simp [sameItems, same_iff x, sameItems_iff xs]

/-- Tables are compared entry by entry, each with its key. -/
theorem sameEntries_iff : ∀ a b : List (String × FieldValue), sameEntries a b = true ↔ a = b
  | [], b => by cases b <;> simp [sameEntries]
  | _ :: _, [] => by simp [sameEntries]
  | (k, x) :: xs, (l, y) :: ys => by
    simp [sameEntries, same_iff x, sameEntries_iff xs, and_assoc]

end

instance : DecidableEq FieldValue := fun a b => decidable_of_iff _ (same_iff a b)

-- ============================================================== contents

/-- A long text of characters. -/
def text (s : String) : FieldValue := .longText (Text.utf8Bytes s)

/-- The items of a list. -/
def items? : FieldValue → Option (List FieldValue)
  | list items => some items
  | _ => none

/-- The entries of a table. -/
def entries? : FieldValue → Option (List (String × FieldValue))
  | table entries => some entries
  | _ => none

/-- The number in a value of 16 bits or more, taken as 64 bits. -/
def count? : FieldValue → Option Int64
  | int64 n => some n
  | int32 n => some n.toInt64
  | uint32 n => some (.ofNat n.toNat)
  | int16 n => some n.toInt64
  | uint16 n => some (.ofNat n.toNat)
  | _ => none

end FieldValue

end Courier
