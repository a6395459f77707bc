/-
Texts in the order of their characters are in the order of their bytes. Of two
characters the greater one is encoded behind the other whatever follows them:
where their encodings are of one length they are told apart by the digits of
their code points, and otherwise by their first bytes, because the more bytes
there are the greater the first one is (`utf8EncodeChar_append_lt`). So texts
that part at two characters part at two bytes, in the same direction, and as the
order is total nothing else has to be looked at.
-/
import Courier.Proofs.Json.Texts

namespace Courier.Text

open Courier.Json

/-- Bytes are compared as their numbers, the first ones first. -/
theorem ofNat_cons_lt_iff {m n : Nat} (hm : m < 0x100) (hn : n < 0x100) {s t : List UInt8} :
    UInt8.ofNat m :: s < UInt8.ofNat n :: t ↔ m < n ∨ m = n ∧ s < t := by
  rw [List.cons_lt_cons_iff, UInt8.lt_iff_toNat_lt, ← UInt8.toNat_inj,
    UInt8.toNat_ofNat_of_lt' hm, UInt8.toNat_ofNat_of_lt' hn]

/-- The digits of a code point to base 64 are taken off one by one. -/
theorem div_powers (m : Nat) :
    m / 4096 = m / 64 / 64 ∧ m / 262144 = m / 64 / 64 / 64 := by
  rw [Nat.div_div_eq_div_mul, Nat.div_div_eq_div_mul]
  exact ⟨rfl, rfl⟩

/-- A greater character has greater bytes, whatever follows. -/
theorem utf8EncodeChar_append_lt {c d : Char} (lt : c < d) (s t : List UInt8) :
    String.utf8EncodeChar c ++ s < String.utf8EncodeChar d ++ t := by
  have order : c.val.toNat < d.val.toNat := lt
  have bound : d.val.toNat < 0x110000 := by
    have valid := d.valid
    rcases valid with below | ⟨-, above⟩
    · omega
    · exact above
  simp only [String.utf8EncodeChar]
  generalize c.val.toNat = m at *
  generalize d.val.toNat = n at *
  simp only [(div_powers m).1, (div_powers m).2, (div_powers n).1, (div_powers n).2]
  -- One case for each two lengths; where they differ the first bytes decide.
  repeat' split
  all_goals
    simp (disch := omega) only [List.cons_append, List.nil_append, ofNat_cons_lt_iff]
    omega

/-- Of two texts, the greater one has the greater bytes. -/
theorem spelled_lt_spelled {cs ds : List Char} (lt : cs < ds) : spelled cs < spelled ds := by
  induction cs generalizing ds with
  | nil =>
      cases ds with
      | nil => exact absurd lt (List.not_lt_nil _)
      | cons d ds =>
          have lead : spelled (d :: ds) = String.utf8EncodeChar d ++ spelled ds := rfl
          obtain ⟨b, bs, bytes⟩ := List.exists_cons_of_ne_nil (String.utf8EncodeChar_ne_nil (c := d))
          rw [lead, bytes]
          exact List.nil_lt_cons b _
  | cons c cs ih =>
      cases ds with
      | nil => exact absurd lt (List.not_lt_nil _)
      | cons d ds =>
          rcases List.cons_lt_cons_iff.1 lt with first | ⟨rfl, rest⟩
          · exact utf8EncodeChar_append_lt first _ _
          · exact List.append_left_lt (ih rest)

/-- The order of texts is the order of their bytes. -/
theorem utf8Bytes_lt_iff {s t : String} : utf8Bytes s < utf8Bytes t ↔ s < t := by
  have mono {s t : String} (lt : s < t) : utf8Bytes s < utf8Bytes t := by
    rw [utf8Bytes_eq_spelled, utf8Bytes_eq_spelled]
    exact spelled_lt_spelled (String.lt_iff.1 lt)
  constructor
  · intro bytes
    refine Classical.byContradiction fun not_lt => ?_
    by_cases same : t = s
    · rw [same] at bytes
      exact List.lt_irrefl _ bytes
    · have gt : t < s := Std.lt_of_le_of_ne (String.not_lt.1 not_lt) same
      exact List.lt_asymm bytes (mono gt)
  · exact mono

end Courier.Text
