/-
The counts that a message comes with. How often a delivery was attempted is
read from its headers, and whoever publishes a message writes its headers:
the count can be any number of 64 bits, below zero as well. It then meets a
subtraction, from the retries granted, or an addition, of one.

# In range

`failure_within_iff` says for which counts both of these stay in 64 bits and
give an outcome that makes sense, at most the retries granted and at least
one attempt: for all from zero on but the greatest. A count below zero is a
retry with more attempts left than the cycle grants, or with a number left
that went round the 64 bits; the greatest count went round as well. Only a
count of 64 bits does that; the narrower ones are far from the limits
(`fits_of_narrow`).

# Round the cycle

A broker that counts one more each time leads a message from a count `a` to
the number of retries `r`, so it is processed at most `r - a + 1` times
(`Course.length_le_of_counted`), and exactly so often if it always fails
(`exists_course_of_failing`). From a count below zero these are more than
the `r + 1` times that a cycle stands for.
-/
import Mathlib.Algebra.Group.Int.Defs
import Mathlib.Algebra.Group.Nat.Defs
import Courier.Proofs.Delivery.Elsewhere

namespace Courier

variable {s : Subscription} {c : Cycle} {queue : String} {calls : Nat} {d : Delivery}
  {cancelled : Bool} {a : Int64}

-- ================================================ statement vocabulary

/-- Signed words of 64 bits hold a number. -/
def FitsInt64 (n : Int) : Prop := Int64.minValue.toInt ≤ n ∧ n ≤ Int64.maxValue.toInt

instance (n : Int) : Decidable (FitsInt64 n) := inferInstanceAs (Decidable (_ ∧ _))

/-- The number that a failure after some attempts is settled with, as it is
without a limit: the attempts left, or the attempts made with this one. -/
def Cycle.exactCount (c : Cycle) (attempts : Int64) : Int :=
  if attempts < c.retries then c.retries.toInt - attempts.toInt else attempts.toInt + 1

/-- A retry has an attempt left and no more than were granted; a delivery that
is dropped was attempted. -/
def Outcome.IsWithin (granted : Nat) : Outcome → Prop
  | handled => True
  | retry left => 1 ≤ left.toInt ∧ left.toInt ≤ granted
  | dropped attempts => 1 ≤ attempts.toInt

/-- The same delivery with a count of attempts on record. -/
def Delivery.counting (d : Delivery) (n : Int64) : Delivery :=
  let record : FieldValue := .list [.table [(deathCountKey, .int64 n)]]
  { d with headers := some ((d.headers.getD .empty).set deathHeader record) }

/-- The same payload again, with a count that is one higher. -/
def Counted (d d' : Delivery) : Prop :=
  d'.payload = d.payload ∧ earlierAttempts d'.headers = earlierAttempts d.headers + 1

-- ========================================================== 64-bit words

theorem fitsInt64_iff {n : Int} : FitsInt64 n ↔ -2 ^ 63 ≤ n ∧ n ≤ 2 ^ 63 - 1 := by
  unfold FitsInt64
  rw [Int64.toInt_minValue, Int64.toInt_maxValue]

/-- A number that fits does not go round. -/
theorem FitsInt64.bmod_eq {n : Int} (fits : FitsInt64 n) : n.bmod (2 ^ 64) = n := by
  obtain ⟨low, high⟩ := fitsInt64_iff.1 fits
  exact Int.bmod_eq_of_le (by omega) (by omega)

/-- A number past the greatest one, but not past it twice, goes round once. -/
theorem bmod_eq_sub {n : Int} (low : 2 ^ 63 ≤ n) (high : n < 2 ^ 64 + 2 ^ 63) :
    n.bmod (2 ^ 64) = n - 2 ^ 64 := by
  have shifted : (n - 2 ^ 64).bmod (2 ^ 64) = n.bmod (2 ^ 64) := Int.sub_bmod_right ..
  rw [← shifted]
  exact Int.bmod_eq_of_le (by omega) (by omega)

theorem Cycle.toInt_retries (c : Cycle) : c.retries.toInt = c.maxRetryCount.toNat := by
  have fits := c.maxRetryCount.toNat_lt_size
  unfold UInt32.size at fits
  exact Int64.toInt_ofNat_of_lt (by omega)

theorem Cycle.lt_retries_iff (c : Cycle) (a : Int64) :
    a < c.retries ↔ a.toInt < c.maxRetryCount.toNat := by
  rw [Int64.lt_iff_toInt_lt, c.toInt_retries]

theorem Cycle.retries_lt (c : Cycle) : (c.maxRetryCount.toNat : Int) < 2 ^ 32 := by
  have fits := c.maxRetryCount.toNat_lt_size
  unfold UInt32.size at fits
  omega

-- ============================================================ the record

/-- Every count of 64 bits can be written into the headers of a message. -/
theorem earlierAttempts_counting (d : Delivery) (n : Int64) :
    earlierAttempts (d.counting n).headers = n := by
  simp [Delivery.counting, earlierAttempts, deathCount?, FieldValue.items?, FieldValue.entries?,
    FieldValue.count?, KeyedList.get?]

/-- A count of less than 64 bits is far from the limits. -/
theorem FieldValue.count?_of_narrow {value : FieldValue} (narrow : ∀ n, value ≠ .int64 n)
    (count : value.count? = some a) : -2 ^ 31 ≤ a.toInt ∧ a.toInt < 2 ^ 32 := by
  cases value with
  | int64 n => exact absurd rfl (narrow n)
  | int32 n =>
      cases count
      have low := Int32.le_toInt n
      have high := Int32.toInt_lt n
      rw [Int32.toInt_toInt64]
      omega
  | int16 n =>
      cases count
      have low := Int16.le_toInt n
      have high := Int16.toInt_lt n
      rw [Int16.toInt_toInt64]
      omega
  | uint32 n =>
      cases count
      have high := n.toNat_lt
      rw [Int64.toInt_ofNat_of_lt (by omega)]
      omega
  | uint16 n =>
      cases count
      have high := n.toNat_lt
      rw [Int64.toInt_ofNat_of_lt (by omega)]
      omega
  | _ => cases count

-- ========================================================= one settlement

/-- A failure that has retries before it. -/
theorem outcomeOfFailure_retry (few : a.toInt < c.maxRetryCount.toNat) :
    ∃ left, outcomeOfFailure (some c) a = .retry left
      ∧ left.toInt = (c.maxRetryCount.toNat - a.toInt : Int).bmod (2 ^ 64)
      ∧ c.exactCount a = c.maxRetryCount.toNat - a.toInt := by
  have few := (c.lt_retries_iff a).2 few
  refine ⟨c.retries - a, ?_, ?_, ?_⟩
  · exact if_pos few
  · rw [Int64.toInt_sub, c.toInt_retries]
  · rw [Cycle.exactCount, if_pos few, c.toInt_retries]

/-- A failure that used the retries up. -/
theorem outcomeOfFailure_dropped (many : c.maxRetryCount.toNat ≤ a.toInt) :
    ∃ attempts, outcomeOfFailure (some c) a = .dropped attempts
      ∧ attempts.toInt = (a.toInt + 1).bmod (2 ^ 64)
      ∧ c.exactCount a = a.toInt + 1 := by
  have many : ¬ a < c.retries := by
    rw [c.lt_retries_iff]
    omega
  refine ⟨a + 1, ?_, ?_, ?_⟩
  · exact if_neg many
  · rw [Int64.toInt_add, Int64.toInt_one]
  · rw [Cycle.exactCount, if_neg many]

/-- The outcome of a failed delivery of a subscription with a cycle. -/
theorem Subscription.consume_failed (cycle : s.deadLetter = some c)
    (failed : s.handler.succeeds calls d.payload cancelled = false) :
    (s.consume queue calls d cancelled).1.outcome
      = outcomeOfFailure (some c) (earlierAttempts d.headers) := by
  rw [s.consume_outcome_eq, failed, cycle]
  exact if_neg Bool.false_ne_true

theorem ne_maxValue_iff : a ≠ Int64.maxValue ↔ a.toInt < 2 ^ 63 - 1 := by
  have least := Int64.toInt_lt a
  rw [Ne, ← Int64.toInt_inj, Int64.toInt_maxValue]
  omega

theorem Cycle.fits_exactCount_iff (c : Cycle) (a : Int64) :
    FitsInt64 (c.exactCount a)
      ↔ c.maxRetryCount.toNat - a.toInt ≤ 2 ^ 63 - 1 ∧ a ≠ Int64.maxValue := by
  have granted := c.retries_lt
  have low := Int64.le_toInt a
  have high := Int64.toInt_lt a
  rw [fitsInt64_iff, ne_maxValue_iff]
  by_cases few : a.toInt < c.maxRetryCount.toNat
  · obtain ⟨_, _, _, exact⟩ := outcomeOfFailure_retry few
    rw [exact]
    omega
  · obtain ⟨_, _, _, exact⟩ := outcomeOfFailure_dropped (Int.not_lt.1 few)
    rw [exact]
    omega

/-- Where the record of a message does not count in 64 bits, settling it stays
in them. -/
theorem fits_of_narrow {headers : Option Arguments} (c : Cycle)
    (narrow : ∀ entry n, (deathRecord headers).head? = some entry →
      entry.field? deathCountKey ≠ some (.int64 n)) :
    FitsInt64 (c.exactCount (earlierAttempts headers)) := by
  have granted := c.retries_lt
  rw [earlierAttempts_eq, c.fits_exactCount_iff, ne_maxValue_iff]
  cases count : (deathRecord headers).head?.bind deathsOf? with
  | none =>
      show _ - Int64.toInt 0 ≤ _ ∧ Int64.toInt 0 < _
      rw [Int64.toInt_zero]
      omega
  | some a =>
      obtain ⟨entry, first, count⟩ := Option.bind_eq_some_iff.1 count
      obtain ⟨value, field, count⟩ := Option.bind_eq_some_iff.1 count
      have other : ∀ n, value ≠ .int64 n := by
        rintro n rfl
        exact narrow entry n first field
      obtain ⟨low, high⟩ := FieldValue.count?_of_narrow other count
      show _ - a.toInt ≤ _ ∧ a.toInt < _
      omega

/-- What a failure comes to that has retries before it: the attempts left, or
that number less the whole range of the words where it does not fit. -/
theorem outcomeOfFailure_of_lt (few : a.toInt < c.maxRetryCount.toNat) :
    ∃ left, outcomeOfFailure (some c) a = .retry left
      ∧ (FitsInt64 (c.exactCount a) → left.toInt = c.maxRetryCount.toNat - a.toInt)
      ∧ (¬ FitsInt64 (c.exactCount a) →
          left.toInt = c.maxRetryCount.toNat - a.toInt - 2 ^ 64) := by
  have granted := c.retries_lt
  have low := Int64.le_toInt a
  obtain ⟨left, outcome, wrapped, exact⟩ := outcomeOfFailure_retry few
  refine ⟨left, outcome, ?_, ?_⟩
  · intro fits
    rw [exact] at fits
    rw [wrapped, fits.bmod_eq]
  · intro past
    rw [exact, fitsInt64_iff] at past
    rw [wrapped]
    exact bmod_eq_sub (by omega) (by omega)

/-- What a failure comes to that used the retries up. -/
theorem outcomeOfFailure_of_le (many : c.maxRetryCount.toNat ≤ a.toInt) :
    ∃ attempts, outcomeOfFailure (some c) a = .dropped attempts
      ∧ (FitsInt64 (c.exactCount a) → attempts.toInt = a.toInt + 1)
      ∧ (¬ FitsInt64 (c.exactCount a) → attempts = Int64.minValue) := by
  have high := Int64.toInt_lt a
  obtain ⟨attempts, outcome, wrapped, exact⟩ := outcomeOfFailure_dropped many
  refine ⟨attempts, outcome, ?_, ?_⟩
  · intro fits
    rw [exact] at fits
    rw [wrapped, fits.bmod_eq]
  · intro past
    rw [exact, fitsInt64_iff] at past
    rw [← Int64.toInt_inj, wrapped, bmod_eq_sub (by omega) (by omega), Int64.toInt_minValue]
    omega

/-- A failure with retries before it is in range for the counts from zero on. -/
theorem within_iff_of_lt (few : a.toInt < c.maxRetryCount.toNat) :
    FitsInt64 (c.exactCount a) ∧ (outcomeOfFailure (some c) a).IsWithin c.maxRetryCount.toNat
      ↔ 0 ≤ a.toInt := by
  have granted := c.retries_lt
  obtain ⟨left, outcome, exact, -⟩ := outcomeOfFailure_of_lt few
  have range : (Outcome.retry left).IsWithin c.maxRetryCount.toNat
      ↔ 1 ≤ left.toInt ∧ left.toInt ≤ c.maxRetryCount.toNat := Iff.rfl
  rw [outcome, range]
  constructor
  · rintro ⟨fits, -, most⟩
    rw [exact fits] at most
    omega
  · intro counted
    have fits : FitsInt64 (c.exactCount a) := by
      rw [c.fits_exactCount_iff, ne_maxValue_iff]
      omega
    rw [exact fits]
    exact ⟨fits, by omega, by omega⟩

/-- A failure that used the retries up is in range for all counts but the
greatest. -/
theorem within_iff_of_le (many : c.maxRetryCount.toNat ≤ a.toInt) :
    FitsInt64 (c.exactCount a) ∧ (outcomeOfFailure (some c) a).IsWithin c.maxRetryCount.toNat
      ↔ a ≠ Int64.maxValue := by
  have fits_iff := c.fits_exactCount_iff a
  obtain ⟨attempts, outcome, exact, -⟩ := outcomeOfFailure_of_le many
  have range : (Outcome.dropped attempts).IsWithin c.maxRetryCount.toNat
      ↔ 1 ≤ attempts.toInt := Iff.rfl
  rw [outcome, range]
  constructor
  · rintro ⟨fits, -⟩
    exact (fits_iff.1 fits).2
  · intro other
    have fits := fits_iff.2 ⟨by omega, other⟩
    rw [exact fits]
    exact ⟨fits, by omega⟩

/-- A failed delivery is settled within 64 bits and in range exactly for the
counts from zero on but the greatest. As long as the exact number fits it is
the one reported, so a count below zero is granted more attempts than the
cycle grants; past that it is a retry with a number that went round, and for
the greatest count the least number of attempts. -/
theorem failure_within_iff (cycle : s.deadLetter = some c)
    (failed : s.handler.succeeds calls d.payload cancelled = false)
    (read : earlierAttempts d.headers = a) :
    ∃ o, (s.consume queue calls d cancelled).1.outcome = o
      ∧ (FitsInt64 (c.exactCount a) ∧ o.IsWithin c.maxRetryCount.toNat
          ↔ 0 ≤ a.toInt ∧ a ≠ Int64.maxValue)
      ∧ (a.toInt < c.maxRetryCount.toNat → ∃ left, o = .retry left
          ∧ (FitsInt64 (c.exactCount a) → left.toInt = c.maxRetryCount.toNat - a.toInt)
          ∧ (¬ FitsInt64 (c.exactCount a) →
              left.toInt = c.maxRetryCount.toNat - a.toInt - 2 ^ 64))
      ∧ (c.maxRetryCount.toNat ≤ a.toInt → ∃ attempts, o = .dropped attempts
          ∧ (FitsInt64 (c.exactCount a) → attempts.toInt = a.toInt + 1)
          ∧ (¬ FitsInt64 (c.exactCount a) → attempts = Int64.minValue)) := by
  have granted := c.retries_lt
  refine ⟨_, rfl, ?_⟩
  rw [s.consume_failed cycle failed, read, ne_maxValue_iff]
  rcases Int.lt_or_le a.toInt c.maxRetryCount.toNat with few | many
  · refine ⟨(within_iff_of_lt few).trans ?_, fun _ => outcomeOfFailure_of_lt few,
      fun many => absurd few (Int.not_lt.2 many)⟩
    omega
  · refine ⟨(within_iff_of_le many).trans ?_, fun few => absurd few (Int.not_lt.2 many),
      fun _ => outcomeOfFailure_of_le many⟩
    rw [ne_maxValue_iff]
    omega

/-- With two retries granted, one less than none is retried with three attempts left. -/
theorem failure_within_of_belowZero :
    ∃ d : Delivery, failingTwice.deadLetter = some { maxRetryCount := 2 }
      ∧ failingTwice.handler.succeeds 0 d.payload false = false
      ∧ earlierAttempts d.headers = -1
      ∧ ∃ left, (failingTwice.consume "orders" 0 d false).1.outcome = .retry left
        ∧ left.toInt = 3 := by
  let d : Delivery := ({ tag := 0, payload := [] } : Delivery).counting (-1)
  have read : earlierAttempts d.headers = -1 := earlierAttempts_counting ..
  obtain ⟨o, outcome, -, retried, -⟩ :=
    @failure_within_iff failingTwice _ "orders" 0 d false (-1) rfl rfl read
  obtain ⟨left, rfl, exact, -⟩ := retried (by decide)
  exact ⟨d, rfl, rfl, read, left, outcome, exact (by decide)⟩

/-- Not every count leads to an outcome in range, and not every count can be
settled within 64 bits. -/
theorem counts_out_of_range :
    (¬ ∀ (s : Subscription) (c : Cycle) (queue : String) (calls : Nat) (d : Delivery)
        (cancelled : Bool), s.deadLetter = some c → c.check = .ok () →
        s.handler.succeeds calls d.payload cancelled = false →
        (s.consume queue calls d cancelled).1.outcome.IsWithin c.maxRetryCount.toNat)
    ∧ ¬ ∀ (s : Subscription) (c : Cycle) (calls : Nat) (d : Delivery) (cancelled : Bool),
        s.deadLetter = some c → c.check = .ok () →
        s.handler.succeeds calls d.payload cancelled = false →
        FitsInt64 (c.exactCount (earlierAttempts d.headers)) := by
  let d : Delivery := { tag := 0, payload := [] }
  constructor
  · intro within
    have most := (within failingTwice { maxRetryCount := 2 } "orders" 0 (d.counting (-1)) false
      rfl rfl rfl).2
    exact absurd most (by decide)
  · intro fits
    have all := fits failingTwice { maxRetryCount := 2 } 0 (d.counting Int64.maxValue) false
      rfl rfl rfl
    rw [earlierAttempts_counting, Cycle.fits_exactCount_iff] at all
    exact all.2 rfl

-- ======================================================= round the cycle

theorem lt_of_isRetry (cycle : s.deadLetter = some c)
    (retried : (s.consume queue calls d cancelled).1.outcome.isRetry = true) :
    (earlierAttempts d.headers).toInt < c.maxRetryCount.toNat := by
  refine Int.not_le.1 fun many => ?_
  obtain ⟨attempts, dropped, -⟩ := outcomeOfFailure_of_le many
  rw [s.consume_outcome_eq, cycle, dropped] at retried
  split at retried
  next => cases retried
  next => cases retried

/-- A message that comes back after a retry counts one more. -/
theorem Counted.toInt_eq {d' : Delivery} (counted : Counted d d')
    (few : (earlierAttempts d.headers).toInt < c.maxRetryCount.toNat) :
    (earlierAttempts d'.headers).toInt = (earlierAttempts d.headers).toInt + 1 := by
  have granted := c.retries_lt
  have low := Int64.le_toInt (earlierAttempts d.headers)
  rw [counted.2, Int64.toInt_add, Int64.toInt_one]
  exact (fitsInt64_iff.2 ⟨by omega, by omega⟩ : FitsInt64 _).bmod_eq

/-- A message is processed at most as often as it takes its count to come to
the retries, and once more. -/
theorem Course.length_le_of_counted (cycle : s.deadLetter = some c)
    {ds : List (Delivery × Bool)} (course : Course Counted s queue calls ds) :
    ∀ {d : Delivery} {cancelled : Bool}, ds.head? = some (d, cancelled) →
      ds.length ≤ (c.maxRetryCount.toNat - (earlierAttempts d.headers).toInt).toNat + 1 := by
  induction course with
  | once =>
      intro d cancelled first
      exact Nat.le_add_left ..
  | again retried back course ih =>
      intro d cancelled first
      cases first
      have few := lt_of_isRetry cycle retried
      have rest := ih rfl
      rw [back.toInt_eq few] at rest
      rw [List.length_cons]
      omega

theorem exists_course_of_failing (cycle : s.deadLetter = some c)
    (fails : ∀ call payload cancelled, s.handler.succeeds call payload cancelled = false)
    (n : Nat) : ∀ (calls : Nat) (d : Delivery),
      (earlierAttempts d.headers).toInt + n = c.maxRetryCount.toNat →
      ∃ ds, Course Counted s queue calls ds ∧ ds.head? = some (d, false) ∧ ds.length = n + 1 := by
  induction n with
  | zero => exact fun calls d _ => ⟨_, .once d false, rfl, rfl⟩
  | succ n ih =>
      intro calls d room
      have few : (earlierAttempts d.headers).toInt < c.maxRetryCount.toNat := by omega
      have retried : (s.consume queue calls d false).1.outcome.isRetry = true := by
        obtain ⟨left, outcome, -⟩ := outcomeOfFailure_of_lt few
        rw [s.consume_failed cycle (fails ..), outcome]
        rfl
      have back : Counted d (d.counting (earlierAttempts d.headers + 1)) :=
        ⟨rfl, earlierAttempts_counting ..⟩
      obtain ⟨ds, course, first, length⟩ := ih (s.consume queue calls d false).2
        (d.counting (earlierAttempts d.headers + 1)) (by rw [back.toInt_eq few]; omega)
      cases ds with
      | nil => cases first
      | cons x rest =>
          cases first
          exact ⟨_, .again retried back course, rfl, by rw [List.length_cons, length]⟩

end Courier
