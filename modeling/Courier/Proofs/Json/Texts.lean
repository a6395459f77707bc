/-
Text between quotes, written and read back. What is written for a
character is one of three things: a backslash and a letter, a backslash
and the number of a control, or the bytes of the character itself. Each is
scanned back into the bytes of that character (`scanEnclosed_literalChar`),
whatever follows, so the induction over a text needs no case of its own.

The bytes of a character past ASCII are all 0x80 or more. None of them is
taken for a quote, a backslash or a control, so the scanner passes them on
one by one and never has to know where a character ends.
-/
import Courier.Json.Literal

namespace Courier.Json

-- ================================================ statement vocabulary

/-- The bytes of characters, as they are written. -/
def spelled (cs : List Char) : Input := cs.flatMap String.utf8EncodeChar

/-- Bytes that stand for themselves between quotes. -/
def StandsForItself (b : UInt8) : Prop := b ≠ byte '"' ∧ b ≠ byte '\\' ∧ ¬ b < 0x20

-- ==================================================== bytes as written

@[simp] theorem spelled_nil : spelled [] = [] := rfl

@[simp] theorem spelled_append (cs ds : List Char) :
    spelled (cs ++ ds) = spelled cs ++ spelled ds := by
  simp [spelled]

/-- The byte of a character of ASCII has its number. -/
theorem toNat_byte {c : Char} (ascii : c.toNat < 0x80) : (byte c).toNat = c.toNat := by
  apply UInt8.toNat_ofNat_of_lt'
  change c.toNat < 0x100
  omega

/-- Different characters of ASCII have different bytes. -/
theorem byte_ne {c d : Char} (ascii : c.toNat < 0x80) (ascii' : d.toNat < 0x80)
    (differ : c ≠ d) : byte c ≠ byte d := by
  intro same
  have numbers : (byte c).toNat = (byte d).toNat := congrArg UInt8.toNat same
  rw [toNat_byte ascii, toNat_byte ascii'] at numbers
  exact differ (Char.toNat_inj.1 numbers)

/-- A character of ASCII is one byte. -/
theorem utf8EncodeChar_of_ascii {c : Char} (ascii : c.toNat < 0x80) :
    String.utf8EncodeChar c = [byte c] := by
  have single : c.utf8Size = 1 := by
    rw [Char.utf8Size_eq_one_iff, UInt32.le_iff_toNat_le]
    exact Nat.le_of_lt_succ ascii
  exact String.utf8EncodeChar_eq_singleton single

theorem spelled_cons {c : Char} (ascii : c.toNat < 0x80) (cs : List Char) :
    spelled (c :: cs) = byte c :: spelled cs := by
  simp [spelled, utf8EncodeChar_of_ascii ascii]

theorem utf8Bytes_ofList (cs : List Char) :
    Text.utf8Bytes (String.ofList cs) = spelled cs := by
  simp [Text.utf8Bytes, List.utf8Encode, List.data_toByteArray, spelled]

/-- A text has the bytes of its characters. -/
theorem utf8Bytes_eq_spelled (s : String) : Text.utf8Bytes s = spelled s.toList := by
  rw [← utf8Bytes_ofList, String.ofList_toList]

/-- No byte from 0x80 on is a quote, a backslash or a control. -/
theorem standsForItself_of_high {n : Nat} (high : 0x80 ≤ n) (fits : n < 0x100) :
    StandsForItself (UInt8.ofNat n) := by
  have value : (UInt8.ofNat n).toNat = n := UInt8.toNat_ofNat_of_lt' fits
  refine ⟨fun quote => ?_, fun backslash => ?_, fun control => ?_⟩
  · rw [quote, show (byte '"').toNat = 0x22 from rfl] at value
    omega
  · rw [backslash, show (byte '\\').toNat = 0x5C from rfl] at value
    omega
  · rw [UInt8.lt_iff_toNat_lt, value, show (0x20 : UInt8).toNat = 0x20 from rfl] at control
    omega

/-- Past ASCII, every byte of a character stands for itself. -/
theorem standsForItself_of_wide {c : Char} {b : UInt8} (wide : 0x80 ≤ c.toNat)
    (h : b ∈ String.utf8EncodeChar c) : StandsForItself b := by
  have long : ¬ c.val.toNat ≤ 0x7F := by
    change 0x80 ≤ c.val.toNat at wide
    omega
  simp only [String.utf8EncodeChar, if_neg long] at h
  -- Two, three or four bytes: a leading one from 0xC0 on, then bytes from 0x80 on.
  split at h
  · simp only [List.mem_cons, List.not_mem_nil, or_false] at h
    rcases h with rfl | rfl <;> apply standsForItself_of_high <;> omega
  · split at h
    · simp only [List.mem_cons, List.not_mem_nil, or_false] at h
      rcases h with rfl | rfl | rfl <;> apply standsForItself_of_high <;> omega
    · simp only [List.mem_cons, List.not_mem_nil, or_false] at h
      rcases h with rfl | rfl | rfl | rfl <;> apply standsForItself_of_high <;> omega

-- ===================================================== one step each

theorem prepend_nil (scanned : Except Fault (List UInt8 × Input)) :
    prepend [] scanned = scanned := by
  cases scanned with
  | error fault => rfl
  | ok got => rfl

theorem prepend_prepend (front next : List UInt8)
    (scanned : Except Fault (List UInt8 × Input)) :
    prepend front (prepend next scanned) = prepend (front ++ next) scanned := by
  cases scanned with
  | error fault => rfl
  | ok got => simp [prepend, Except.map]

/-- The closing quote ends the text. -/
theorem scanEnclosed_quote (rest : Input) :
    scanEnclosed (byte '"' :: rest) = .ok ([], rest) := by
  rw [scanEnclosed.eq_def]
  simp

/-- A backslash and a letter stand for one byte. -/
theorem scanEnclosed_letter {letter b : UInt8} (escape : shortEscape letter = some b)
    (rest : Input) :
    scanEnclosed (byte '\\' :: letter :: rest) = prepend [b] (scanEnclosed rest) := by
  have other : byte '\\' ≠ byte '"' := by decide
  rw [scanEnclosed.eq_def]
  simp only [if_neg other, if_true, escape]

/-- A backslash and the number of a unit that is no half of a pair stand for
the character of that number. -/
theorem scanEnclosed_numbered {h₁ h₂ h₃ h₄ : UInt8} {unit : Nat}
    (number : hexUnit h₁ h₂ h₃ h₄ = some unit) (whole : unit < 0xD800) (rest : Input) :
    scanEnclosed (byte '\\' :: byte 'u' :: h₁ :: h₂ :: h₃ :: h₄ :: rest)
      = prepend (String.utf8EncodeChar (Char.ofNat unit)) (scanEnclosed rest) := by
  have other : byte '\\' ≠ byte '"' := by decide
  have letter : shortEscape (byte 'u') = none := by decide
  have opens : opensPair unit = false := by
    simp only [opensPair, Bool.and_eq_false_iff, decide_eq_false_iff_not]
    omega
  have closes : closesPair unit = false := by
    simp only [closesPair, Bool.and_eq_false_iff, decide_eq_false_iff_not]
    omega
  rw [scanEnclosed.eq_def]
  simp only [if_neg other, if_true, letter, number, opens, closes, Bool.false_eq_true, if_false]

theorem scanEnclosed_plain {b : UInt8} (plain : StandsForItself b) (rest : Input) :
    scanEnclosed (b :: rest) = prepend [b] (scanEnclosed rest) := by
  obtain ⟨quote, backslash, control⟩ := plain
  rw [scanEnclosed.eq_def]
  simp only [if_neg quote, if_neg backslash, if_neg control]

/-- Bytes that stand for themselves are passed on. -/
theorem scanEnclosed_plains {bs : List UInt8} (plain : ∀ b ∈ bs, StandsForItself b)
    (rest : Input) : scanEnclosed (bs ++ rest) = prepend bs (scanEnclosed rest) := by
  induction bs with
  | nil => rw [List.nil_append, prepend_nil]
  | cons b bs ih =>
      obtain ⟨plain, others⟩ := List.forall_mem_cons.1 plain
      rw [List.cons_append, scanEnclosed_plain plain, ih others, prepend_prepend]
      rfl

-- ==================================================== one character

/-- A digit of a hexadecimal number has its value. -/
theorem hexValue_hexDigit : ∀ n < 16, hexValue (byte (hexDigit n)) = some n := by
  decide

theorem hexDigit_ascii : ∀ n < 16, (hexDigit n).toNat < 0x80 := by
  decide

/-- The number that is written for a control names that control. -/
theorem hexUnit_control {c : Char} (control : c.toNat < 0x20) :
    hexUnit (byte '0') (byte '0') (byte (hexDigit (c.toNat / 16)))
      (byte (hexDigit (c.toNat % 16))) = some c.toNat := by
  have zero : hexValue (byte '0') = some 0 := by decide
  have high : hexValue (byte (hexDigit (c.toNat / 16))) = some (c.toNat / 16) :=
    hexValue_hexDigit _ (by omega)
  have low : hexValue (byte (hexDigit (c.toNat % 16))) = some (c.toNat % 16) :=
    hexValue_hexDigit _ (by omega)
  have parts : c.toNat / 16 * 16 + c.toNat % 16 = c.toNat := by omega
  simp [hexUnit, zero, high, low, parts]

/-- A character that is written as itself has no byte of another meaning. -/
theorem standsForItself_of_plain {c : Char} (quote : c ≠ '"') (backslash : c ≠ '\\')
    (control : ¬ c.toNat < 0x20) {b : UInt8} (h : b ∈ String.utf8EncodeChar c) :
    StandsForItself b := by
  by_cases ascii : c.toNat < 0x80
  · rw [utf8EncodeChar_of_ascii ascii, List.mem_singleton] at h
    subst h
    refine ⟨byte_ne ascii (by decide) quote, byte_ne ascii (by decide) backslash, fun low => ?_⟩
    rw [UInt8.lt_iff_toNat_lt, toNat_byte ascii] at low
    exact control low
  · exact standsForItself_of_wide (by omega) h

/-- How a character is written: with a letter, with its number, or as itself. -/
theorem literalChar_cases (c : Char) :
    (∃ d : Char, literalChar c = ['\\', d] ∧ d.toNat < 0x80 ∧ c.toNat < 0x80
        ∧ shortEscape (byte d) = some (byte c))
      ∨ (c.toNat < 0x20 ∧ literalChar c
          = ['\\', 'u', '0', '0', hexDigit (c.toNat / 16), hexDigit (c.toNat % 16)])
      ∨ (literalChar c = [c] ∧ ∀ b ∈ String.utf8EncodeChar c, StandsForItself b) := by
  by_cases quote : c = '"'
  · exact .inl ⟨'"', by subst quote; decide⟩
  by_cases backslash : c = '\\'
  · exact .inl ⟨'\\', by subst backslash; decide⟩
  by_cases backspace : c = '\x08'
  · exact .inl ⟨'b', by subst backspace; decide⟩
  by_cases tab : c = '\t'
  · exact .inl ⟨'t', by subst tab; decide⟩
  by_cases newline : c = '\n'
  · exact .inl ⟨'n', by subst newline; decide⟩
  by_cases feed : c = '\x0c'
  · exact .inl ⟨'f', by subst feed; decide⟩
  by_cases carriage : c = '\r'
  · exact .inl ⟨'r', by subst carriage; decide⟩
  right
  simp only [literalChar, if_neg quote, if_neg backslash, if_neg backspace, if_neg tab,
    if_neg newline, if_neg feed, if_neg carriage]
  by_cases control : c.toNat < 0x20
  · exact .inl ⟨control, if_pos control⟩
  · exact .inr ⟨if_neg control, fun b h => standsForItself_of_plain quote backslash control h⟩

/-- What is written for a character is read as that character. -/
theorem scanEnclosed_literalChar (c : Char) (rest : Input) :
    scanEnclosed (spelled (literalChar c) ++ rest)
      = prepend (String.utf8EncodeChar c) (scanEnclosed rest) := by
  obtain ⟨d, written, letter, ascii, escape⟩ | ⟨control, written⟩ | ⟨written, plain⟩ :=
    literalChar_cases c
  · rw [written, spelled_cons (by decide), spelled_cons letter, utf8EncodeChar_of_ascii ascii]
    exact scanEnclosed_letter escape rest
  · rw [written, spelled_cons (by decide), spelled_cons (by decide), spelled_cons (by decide),
      spelled_cons (by decide), spelled_cons (hexDigit_ascii _ (by omega)),
      spelled_cons (hexDigit_ascii _ (by omega))]
    have whole : c.toNat < 0xD800 := by omega
    have read := scanEnclosed_numbered (hexUnit_control control) whole rest
    rw [Char.ofNat_toNat] at read
    exact read
  · have itself : spelled [c] = String.utf8EncodeChar c := by simp [spelled]
    rw [written, itself]
    exact scanEnclosed_plains plain rest

-- ============================================================ a text

/-- A literal without its quotes is scanned up to the closing one. -/
theorem scanEnclosed_literal (cs : List Char) (rest : Input) :
    scanEnclosed (spelled (cs.flatMap literalChar) ++ byte '"' :: rest)
      = .ok (spelled cs, rest) := by
  induction cs with
  | nil => exact scanEnclosed_quote rest
  | cons c cs ih =>
      calc scanEnclosed (spelled ((c :: cs).flatMap literalChar) ++ byte '"' :: rest)
          = scanEnclosed (spelled (literalChar c)
              ++ (spelled (cs.flatMap literalChar) ++ byte '"' :: rest)) := by
            rw [List.flatMap_cons, spelled_append, List.append_assoc]
        _ = prepend (String.utf8EncodeChar c) (.ok (spelled cs, rest)) := by
            rw [scanEnclosed_literalChar, ih]
        _ = .ok (spelled (c :: cs), rest) := rfl

/-- A text that was written is read back, whatever follows it. -/
theorem scanText_literal (s : String) (rest : Input) :
    scanText (spelled (s.toList.flatMap literalChar) ++ byte '"' :: rest) = .ok (s, rest) := by
  have valid : Text.ofUtf8? (spelled s.toList) = some s := by
    rw [← utf8Bytes_eq_spelled, Text.ofUtf8?_utf8Bytes]
  rw [scanText, scanEnclosed_literal]
  simp only [bind, Except.bind, valid]
  rfl

/-- A literal is the opening quote and what follows it. -/
theorem spelled_literalChars (s : String) :
    spelled (literalChars s)
      = byte '"' :: (spelled (s.toList.flatMap literalChar) ++ [byte '"']) := by
  rw [literalChars, List.cons_append, spelled_cons (by decide), spelled_append,
    spelled_cons (by decide), spelled_nil]

end Courier.Json
