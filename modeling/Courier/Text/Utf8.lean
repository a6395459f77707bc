/-
Text out of bytes, in two ways. A payload that must be text is read
strictly: every byte has to belong to a well-formed UTF-8 sequence. A
payload that is only shown, in a log line, is read leniently: each
ill-formed piece becomes one replacement character, where a piece is the
longest run of bytes that could have begun a sequence.
-/
namespace Courier.Text

/-- The bytes of a text in UTF-8. -/
def utf8Bytes (s : String) : List UInt8 :=
  s.toUTF8.data.toList

/-- The text that bytes spell, if they are well-formed UTF-8. -/
def ofUtf8? (bytes : List UInt8) : Option String :=
  String.fromUTF8? ⟨bytes.toArray⟩

/-- Text in UTF-8 reads back as itself. -/
@[simp] theorem ofUtf8?_utf8Bytes (s : String) : ofUtf8? (utf8Bytes s) = some s := by
  have h : (⟨(utf8Bytes s).toArray⟩ : ByteArray) = s.toUTF8 := by simp [utf8Bytes]
  simp [ofUtf8?, h, String.fromUTF8?, String.isValidUTF8, String.fromUTF8]

/-- Bytes that spell a text are that text's bytes. -/
theorem utf8Bytes_of_ofUtf8? {bytes : List UInt8} {s : String}
    (h : ofUtf8? bytes = some s) : utf8Bytes s = bytes := by
  simp only [ofUtf8?, String.fromUTF8?, Option.dite_none_right_eq_some, Option.some.injEq] at h
  obtain ⟨_, rfl⟩ := h
  simp [utf8Bytes, String.fromUTF8]

-- ==================================================== lenient reading

/-- The character that stands for an ill-formed piece. -/
def replacement : Char := Char.ofNat 0xFFFD

/-- The value of the continuation bytes `10xxxxxx`, after a leading value. -/
def withTails (lead : Nat) (tails : List UInt8) : Nat :=
  tails.foldl (fun acc b => acc * 64 + (b.toNat - 0x80)) lead

/-- Whether a byte continues a sequence. -/
def isTail (b : UInt8) : Bool := 0x80 ≤ b && b ≤ 0xBF

/-- Whether `second` may follow `first` at the start of a sequence of three or
four bytes: the ranges leave out overlong forms, surrogates and numbers past
the last code point. -/
def isSecond (first second : UInt8) : Bool :=
  if first == 0xE0 then 0xA0 ≤ second && second ≤ 0xBF
  else if first == 0xED then 0x80 ≤ second && second ≤ 0x9F
  else if first == 0xF0 then 0x90 ≤ second && second ≤ 0xBF
  else if first == 0xF4 then 0x80 ≤ second && second ≤ 0x8F
  else isTail second

/-- Length of the sequence that a byte starts; none for a byte that starts none. -/
def sequenceLength (first : UInt8) : Option Nat :=
  if first < 0x80 then some 1
  else if 0xC2 ≤ first && first ≤ 0xDF then some 2
  else if 0xE0 ≤ first && first ≤ 0xEF then some 3
  else if 0xF0 ≤ first && first ≤ 0xF4 then some 4
  else none

/-- How many bytes after `first` fit the sequence of length `length` it starts. -/
def fittingTails (first : UInt8) (length : Nat) : List UInt8 → Nat
  | [] => 0
  | b :: rest =>
    if length ≤ 1 || !(if length == 2 then isTail b else isSecond first b) then 0
    else 1 + ((rest.take (length - 2)).takeWhile isTail).length

/-- The characters of bytes read leniently; `fuel` bounds the characters. -/
def lossyChars : Nat → List UInt8 → List Char
  | 0, _ => []
  | _, [] => []
  | fuel + 1, b :: rest =>
    match sequenceLength b with
    | none => replacement :: lossyChars fuel rest
    | some length =>
      let fit := fittingTails b length rest
      if fit + 1 == length then
        let lead := b.toNat % (if length == 1 then 128 else 1 <<< (7 - length))
        Char.ofNat (withTails lead (rest.take fit)) :: lossyChars fuel (rest.drop fit)
      else replacement :: lossyChars fuel (rest.drop fit)

/-- The text that bytes show, ill-formed pieces replaced. -/
def lossy (bytes : List UInt8) : String :=
  String.ofList (lossyChars bytes.length bytes)

end Courier.Text
