/-
Lower-casing is done once and for all. A character in lower case is one that
lower-casing leaves alone wherever it stands (`IsSmall`), a text of such
characters stays as it is, and lower-casing gives such characters only. So the
texts that are somebody's lower case are those that are their own
(`lowercase_eq_self_iff`).

What there is to prove is a property of the table: no run moves a character to
one that a run moves, the dotted I included. The alphabets in which the two
cases alternate lie across each other, so it does not do to compare where the
runs begin and end; of a run with step two, what matters is also which
neighbour it moves (`run_settles`).
-/
import Courier.Text.Lowercase

namespace Courier.Text

-- ===================================================== statement vocabulary

/-- A character that lower-casing leaves alone, wherever it stands. -/
def IsSmall (c : Char) : Prop := c ≠ 'Σ' ∧ lowercaseChar c = [c]

instance (c : Char) : Decidable (IsSmall c) := inferInstanceAs (Decidable (_ ∧ _))

/-- Whether a run moves a code point. -/
def moves (n : Nat) (run : Nat × Nat × Nat × Int) : Bool :=
  run.1 ≤ n && n ≤ run.2.1 && (n - run.1) % run.2.2.1 == 0

/-- Whether a run may move a code point from `low` to `high`, or from `low` on
every second one up to `high`, if they are `alternate`. -/
def meets (low high : Nat) (alternate : Bool) (run : Nat × Nat × Nat × Int) : Bool :=
  Nat.ble low run.2.1 && Nat.ble run.1 high
    && !(alternate && run.2.2.1 == 2 && (low + run.1) % 2 == 1)

/-- The characters that have a lower case of their own: the dotted I, and those
that the runs move. -/
def capitals : List (Nat × Nat × Nat × Int) := (0x130, 0x130, 1, 0) :: lowercaseRuns

-- ================================================================ the table

/-- What a run moves to is in none of the runs. -/
theorem lowercaseRuns_clear : (lowercaseRuns.all fun run =>
    !capitals.any (meets (run.1 + run.2.2.2).toNat (run.2.1 + run.2.2.2).toNat
      (run.2.2.1 == 2 || run.1 == run.2.1))) = true := by decide +kernel

/-- No run moves below zero. -/
theorem lowercaseRuns_above : ∀ run ∈ lowercaseRuns, 0 ≤ run.1 + run.2.2.2 := by
  decide +kernel

/-- What a run has moved, no run moves again. -/
theorem run_settles {run : Nat × Nat × Nat × Int} (member : run ∈ lowercaseRuns) {n : Nat}
    (moved : moves n run = true) {other : Nat × Nat × Nat × Int} (capital : other ∈ capitals) :
    moves (n + run.2.2.2).toNat other = false := by
  have above := lowercaseRuns_above run member
  have clear := List.all_eq_true.1 lowercaseRuns_clear run member
  rw [Bool.not_eq_true', List.any_eq_false] at clear
  have apart := clear other capital
  rw [Bool.eq_false_iff]
  intro again
  simp only [moves, Bool.and_eq_true, decide_eq_true_eq, beq_iff_eq] at moved again
  obtain ⟨⟨first, last⟩, step⟩ := moved
  obtain ⟨⟨first', last'⟩, step'⟩ := again
  refine apart ?_
  simp only [meets, Bool.and_eq_true, Nat.ble_eq]
  refine ⟨⟨by omega, by omega⟩, ?_⟩
  -- Every second code point from the first one has the parity of the first one.
  rw [Bool.not_eq_true', Bool.eq_false_iff]
  intro alternate
  simp only [Bool.and_eq_true, Bool.or_eq_true, beq_iff_eq] at alternate
  obtain ⟨⟨two | single, two'⟩, odd⟩ := alternate
  · rw [two] at step
    rw [two'] at step'
    omega
  · rw [two'] at step'
    omega

-- =========================================================== one character

variable {c d : Char}

/-- A character is the dotted I, or is moved by a run, or stays. -/
theorem lowercaseChar_cases (c : Char) :
    c.toNat = 0x130 ∧ lowercaseChar c = ['i', Char.ofNat 0x307]
      ∨ (∃ run ∈ lowercaseRuns, moves c.toNat run = true
        ∧ lowercaseChar c = [Char.ofNat (c.toNat + run.2.2.2).toNat])
      ∨ lowercaseChar c = [c] := by
  by_cases dotted : c.toNat = 0x130
  · exact .inl ⟨dotted, by rw [lowercaseChar, if_pos dotted]⟩
  · simp only [lowercaseChar, if_neg dotted]
    split
    next found =>
      exact .inr (.inl ⟨_, List.mem_of_find?_eq_some found, List.find?_some found, rfl⟩)
    next => exact .inr (.inr rfl)

/-- What is no capital stays. -/
theorem isSmall_of_not_moves (small : ∀ run ∈ capitals, moves c.toNat run = false) :
    IsSmall c := by
  have stays : lowercaseChar c = [c] := by
    rcases lowercaseChar_cases c with ⟨dotted, -⟩ | ⟨run, member, moved, -⟩ | stays
    · have capital := small _ List.mem_cons_self
      rw [dotted] at capital
      cases capital
    · rw [small run (List.mem_cons_of_mem _ member)] at moved
      cases moved
    · exact stays
  refine ⟨?_, stays⟩
  rintro rfl
  exact absurd stays (by decide)

/-- The lower case of a character is in lower case. -/
theorem isSmall_of_mem_lowercaseChar (lower : d ∈ lowercaseChar c) : IsSmall d := by
  rcases lowercaseChar_cases c with ⟨-, dotted⟩ | ⟨run, member, moved, same⟩ | stays
  · rw [dotted, List.mem_cons, List.mem_singleton] at lower
    rcases lower with rfl | rfl
    · decide
    · decide
  · rw [same, List.mem_singleton] at lower
    subst lower
    -- A code point that is no character would be taken for the first one.
    by_cases valid : (c.toNat + run.2.2.2).toNat.isValidChar
    · refine isSmall_of_not_moves fun other capital => ?_
      have number : (Char.ofNat (c.toNat + run.2.2.2).toNat).toNat
          = (c.toNat + run.2.2.2).toNat := by
        rw [Char.ofNat, dif_pos valid]
        rfl
      rw [number]
      exact run_settles member moved capital
    · rw [Char.ofNat, dif_neg valid]
      decide
  · rw [stays, List.mem_singleton] at lower
    subst lower
    refine ⟨?_, stays⟩
    rintro rfl
    exact absurd stays (by decide)

-- ================================================================== texts

/-- A lower-cased text is in lower case, whatever is in front of it. -/
theorem isSmall_of_mem_lowercaseAfter {before cs : List Char}
    (lower : d ∈ lowercaseAfter before cs) : IsSmall d := by
  induction cs generalizing before with
  | nil => cases lower
  | cons c rest ih =>
      rw [lowercaseAfter, List.mem_append] at lower
      rcases lower with here | later
      · split at here
        · rw [List.mem_singleton] at here
          subst here
          split <;> decide
        · exact isSmall_of_mem_lowercaseChar here
      · exact ih later

/-- A text in lower case stays as it is. -/
theorem lowercaseAfter_of_isSmall {cs : List Char} (small : ∀ c ∈ cs, IsSmall c)
    (before : List Char) : lowercaseAfter before cs = cs := by
  induction cs generalizing before with
  | nil => rfl
  | cons c rest ih =>
      obtain ⟨⟨notSigma, stays⟩, others⟩ := List.forall_mem_cons.1 small
      rw [lowercaseAfter, if_neg notSigma, stays, ih others]
      rfl

theorem lowercase_lowercase (s : String) : lowercase (lowercase s) = lowercase s := by
  rw [lowercase, ← String.toList_inj, String.toList_ofList]
  apply lowercaseAfter_of_isSmall
  intro c member
  rw [lowercase, String.toList_ofList] at member
  exact isSmall_of_mem_lowercaseAfter member

/-- The texts that are their own lower case are those that some text has. -/
theorem lowercase_eq_self_iff {s : String} : lowercase s = s ↔ ∃ t, lowercase t = s := by
  constructor
  · intro own
    exact ⟨s, own⟩
  · rintro ⟨t, rfl⟩
    exact lowercase_lowercase t

end Courier.Text
