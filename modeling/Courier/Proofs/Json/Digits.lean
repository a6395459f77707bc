/-
Whole numbers, written and read back. The digits of a number below 2^64
are gathered one by one; the number they have spelled so far never passes
the number itself (`le_ofDigitChars`), so the significand never overflows
and none of them is left out. A number reads back as an integer only if
nothing behind it goes on with the number: `EndsNumber` says what that is.
-/
import Courier.Json.Number.Scan
import Courier.Proofs.Json.Texts

namespace Courier.Json

-- ================================================ statement vocabulary

/-- Nothing here goes on with a whole number: no digit, no point and no exponent. -/
def EndsNumber (rest : Input) : Prop :=
  digitNext rest = false ∧ rest.head? ≠ some (byte '.') ∧ exponentNext? rest = none

-- ========================================================= the digits

/-- A digit is a character of ASCII, from `0` to `9`. -/
theorem toNat_of_isDigit {c : Char} (digit : c.isDigit = true) :
    0x30 ≤ c.toNat ∧ c.toNat ≤ 0x39 := by
  simp only [Char.isDigit, Bool.and_eq_true, decide_eq_true_eq, ge_iff_le,
    UInt32.le_iff_toNat_le] at digit
  exact digit

theorem ascii_of_isDigit {c : Char} (digit : c.isDigit = true) : c.toNat < 0x80 := by
  have high := (toNat_of_isDigit digit).2
  omega

/-- The byte of a digit is a digit. -/
theorem isDigit_byte {c : Char} (digit : c.isDigit = true) : isDigit (byte c) = true := by
  obtain ⟨low, high⟩ := toNat_of_isDigit digit
  have value : (byte c).toNat = c.toNat := toNat_byte (ascii_of_isDigit digit)
  simp only [isDigit, Bool.and_eq_true, decide_eq_true_eq, UInt8.le_iff_toNat_le, value]
  exact ⟨low, high⟩

theorem digitValue_byte {c : Char} (digit : c.isDigit = true) :
    digitValue (byte c) = c.toNat - '0'.toNat := by
  rw [digitValue, toNat_byte (ascii_of_isDigit digit)]
  rfl

theorem isDigit_of_mem_digits {n : Nat} {c : Char} (h : c ∈ digits n) : c.isDigit = true :=
  Nat.isDigit_of_mem_toDigits (by decide) (by decide) h

/-- White space is no digit. -/
theorem isSpace_of_isDigit {b : UInt8} (digit : isDigit b = true) : isSpace b = false := by
  cases space : isSpace b with
  | false => rfl
  | true =>
      simp only [isSpace, Bool.or_eq_true, beq_iff_eq] at space
      obtain ((rfl | rfl) | rfl) | rfl := space <;> exact absurd digit (by decide)

theorem endsNumber_cons {b : UInt8} (digit : isDigit b = false) (point : b ≠ byte '.')
    (exponent : ¬(b = byte 'e' ∨ b = byte 'E')) (rest : Input) : EndsNumber (b :: rest) :=
  ⟨digit, fun same => point (Option.some.inj same), if_neg exponent⟩

/-- No number but zero starts with a zero. -/
theorem digits_leading {n : Nat} (positive : 0 < n) :
    ∃ d cs, digits n = d :: cs ∧ d ≠ '0' := by
  induction n using Nat.strongRecOn with
  | ind n ih =>
      by_cases small : n < 10
      · refine ⟨n.digitChar, [], Nat.toDigits_of_lt_base small, fun zero => ?_⟩
        have value := Nat.toNat_digitChar_of_lt_ten small
        rw [zero, show '0'.toNat = 48 from rfl] at value
        omega
      · obtain ⟨d, cs, leading, other⟩ := ih (n / 10) (by omega) (by omega)
        refine ⟨d, cs ++ [(n % 10).digitChar], ?_, other⟩
        rw [digits, Nat.toDigits_of_base_le (by decide) (by omega)]
        change digits (n / 10) ++ _ = _
        rw [leading, List.cons_append]

-- ========================================================== gathering

/-- More digits never make a number smaller. -/
theorem le_ofDigitChars (cs : List Char) (n : Nat) : n ≤ Nat.ofDigitChars 10 cs n := by
  induction cs generalizing n with
  | nil => exact Nat.le_refl n
  | cons c cs ih =>
      calc n ≤ 10 * n + (c.toNat - '0'.toNat) := by omega
        _ ≤ Nat.ofDigitChars 10 cs (10 * n + (c.toNat - '0'.toNat)) := ih _
        _ = Nat.ofDigitChars 10 (c :: cs) n := Nat.ofDigitChars_cons.symm

/-- Digits that spell a number below the limit are all gathered into it. -/
theorem gather_digits {limit n count : Nat} {cs : List Char} {rest : Input}
    (all : ∀ c ∈ cs, c.isDigit = true) (fits : Nat.ofDigitChars 10 cs n < limit)
    (ends : digitNext rest = false) :
    gather limit n count (spelled cs ++ rest)
      = (Nat.ofDigitChars 10 cs n, count + cs.length, rest) := by
  induction cs generalizing n count with
  | nil =>
      cases rest with
      | nil => rfl
      | cons b rest =>
          have last : isDigit b = false := ends
          rw [spelled_nil, List.nil_append, gather]
          simp only [last, Bool.false_eq_true, false_and, if_false]
          rfl
  | cons c cs ih =>
      obtain ⟨digit, others⟩ := List.forall_mem_cons.1 all
      have spells : n * 10 + digitValue (byte c) = 10 * n + (c.toNat - '0'.toNat) := by
        rw [digitValue_byte digit, Nat.mul_comm]
      rw [Nat.ofDigitChars_cons] at fits ⊢
      have below : 10 * n + (c.toNat - '0'.toNat) < limit :=
        Nat.lt_of_le_of_lt (le_ofDigitChars cs _) fits
      rw [spelled_cons (ascii_of_isDigit digit), List.cons_append, gather, spells,
        if_pos ⟨isDigit_byte digit, below⟩, ih others fits, List.length_cons]
      simp only [Nat.add_assoc, Nat.add_comm 1]

-- ============================================================ a number

/-- A whole number ends where nothing goes on with it. -/
theorem scanSuffix_of_endsNumber {rest : Input} (ends : EndsNumber rest) (n : Nat) :
    scanSuffix false n rest = .ok (.integer n, rest) := by
  obtain ⟨-, point, exponent⟩ := ends
  cases rest with
  | nil => rfl
  | cons b rest =>
      have other : b ≠ byte '.' := fun same => point (congrArg some same)
      simp only [scanSuffix, if_neg other, exponent]
      rfl

/-- The digits of a number are scanned as that number. -/
theorem scanUnsigned_digits {n : Nat} (fits : n < UInt64.size) {rest : Input}
    (ends : EndsNumber rest) :
    scanUnsigned false (spelled (digits n) ++ rest) = .ok (.integer n, rest) := by
  by_cases zero : n = 0
  · subst zero
    have only : spelled (digits 0) = [byte '0'] := by decide
    rw [only, List.singleton_append, scanUnsigned]
    simp only [if_true, ends.1, Bool.false_eq_true, if_false]
    exact scanSuffix_of_endsNumber ends 0
  · obtain ⟨d, cs, leading, other⟩ := digits_leading (Nat.pos_of_ne_zero zero)
    have all : ∀ c ∈ d :: cs, c.isDigit = true := fun c h =>
      isDigit_of_mem_digits (leading ▸ h)
    obtain ⟨digit, others⟩ := List.forall_mem_cons.1 all
    have ascii : d.toNat < 0x80 := ascii_of_isDigit digit
    have noZero : byte d ≠ byte '0' := byte_ne ascii (by decide) other
    have value : Nat.ofDigitChars 10 cs (digitValue (byte d)) = n := by
      have whole : Nat.ofDigitChars 10 (digits n) 0 = n := Nat.ofDigitChars_ten_toDigits
      rw [leading, Nat.ofDigitChars_cons, Nat.mul_zero, Nat.zero_add] at whole
      rw [digitValue_byte digit, whole]
    have gathered : gather significandLimit (digitValue (byte d)) 0 (spelled cs ++ rest)
        = (n, cs.length, rest) := by
      rw [gather_digits others (value.symm ▸ fits) ends.1, value, Nat.zero_add]
    rw [leading, spelled_cons ascii, List.cons_append, scanUnsigned, if_neg noZero,
      if_pos (isDigit_byte digit), gathered]
    simp only [ends.1, Bool.false_eq_true, if_false]
    exact scanSuffix_of_endsNumber ends n

/-- A number has a digit in front. -/
theorem spelled_digits (n : Nat) : ∃ b bs, spelled (digits n) = b :: bs ∧ isDigit b = true := by
  obtain ⟨d, cs, leading⟩ := List.exists_cons_of_ne_nil (Nat.toDigits_ne_nil (b := 10) (n := n))
  have digit : d.isDigit = true := by
    apply isDigit_of_mem_digits (n := n)
    rw [digits, leading]
    exact List.mem_cons_self
  refine ⟨byte d, spelled cs, ?_, isDigit_byte digit⟩
  rw [digits, leading, spelled_cons (ascii_of_isDigit digit)]

/-- A whole number of 64 bits that was written is read back. -/
theorem scanNumber_digits {n : Nat} (fits : n < UInt64.size) {rest : Input}
    (ends : EndsNumber rest) :
    scanNumber (spelled (digits n) ++ rest) = .ok (.integer n, rest) := by
  have unsigned := scanUnsigned_digits fits ends
  obtain ⟨b, bs, written, digit⟩ := spelled_digits n
  have noSign : b ≠ byte '-' := by
    rintro rfl
    exact absurd digit (by decide)
  rw [written, List.cons_append] at unsigned ⊢
  rw [scanNumber, if_neg noSign, unsigned]

end Courier.Json
