/-
Blank text. A name or a setting counts as given only when something of it
is left after the white space around it is taken off, so a text is blank
exactly when it holds nothing but white space. White space is the Unicode
property of that name: 25 characters, the ASCII six among them, while the
zero-width space and the byte-order mark are not white space.
-/
namespace Courier.Text

/-- The Unicode property White_Space. -/
def isWhiteSpace (c : Char) : Bool :=
  let n := c.toNat
  (0x9 ≤ n && n ≤ 0xD) || n == 0x20 || n == 0x85 || n == 0xA0 || n == 0x1680
    || (0x2000 ≤ n && n ≤ 0x200A) || n == 0x2028 || n == 0x2029 || n == 0x202F
    || n == 0x205F || n == 0x3000

/-- Whether a text holds nothing but white space. -/
def isBlank (s : String) : Bool :=
  s.toList.all isWhiteSpace

/-- ASCII's notion of white space is part of the property. -/
theorem isWhiteSpace_of_isWhitespace {c : Char} (h : c.isWhitespace = true) :
    isWhiteSpace c = true := by
  simp only [Char.isWhitespace, Bool.or_eq_true, decide_eq_true_eq] at h
  rcases h with ((rfl | rfl) | rfl) | rfl <;> decide

/-- The empty text is blank. -/
@[simp] theorem isBlank_empty : isBlank "" = true := by
  simp [isBlank]

/-- A text is blank when every character of it is white space. -/
theorem isBlank_iff {s : String} :
    isBlank s = true ↔ ∀ c ∈ s.toList, isWhiteSpace c = true := by
  simp [isBlank]

end Courier.Text
