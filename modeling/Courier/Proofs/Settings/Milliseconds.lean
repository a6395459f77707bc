/-
Settings that are accepted, and what is accepted of them once they were
written and read back. They are looked at to the nanosecond: a span has to be
some time. They are written in whole milliseconds, of which 64 bits are kept.

So there are two ways to lose a span. Less than a millisecond is written as
no time, and what is past 64 bits goes round, to no time where it is a
multiple of 2^64 milliseconds and to some other span elsewhere. A span that is
at least a millisecond long and below 2^64 milliseconds is cut to whole
milliseconds, which leaves it accepted (`reaccepted_iff_isKept`); every
other one is refused when it is read or is a wrong one
(`lost_in_milliseconds`).
-/
import Courier.Proofs.Settings.Rereading

namespace Courier

-- ===================================================== statement vocabulary

/-- Spans that differ by less than a millisecond. -/
def Span.Near (d e : Span) : Prop :=
  d.nanoseconds < e.nanoseconds + nanosPerMilli ∧ e.nanoseconds < d.nanoseconds + nanosPerMilli

/-- What is left of a span that is written and read. -/
def Span.kept (d : Span) : Span := .ofMillis d.millis64

/-- A span of a millisecond at least, and below 2^64 of them. -/
def Span.IsKept (d : Span) : Prop := nanosPerMilli ≤ d.nanoseconds ∧ d.millis < UInt64.size

instance (d : Span) : Decidable d.IsKept := inferInstanceAs (Decidable (_ ∧ _))

/-- What becomes of accepted settings whose span is written as `d` and read as
`d'`, where `again` is what their check says then. -/
structure Span.Reaccepted (d d' : Span) (again : Except Failure Unit) (refusal : String) :
    Prop where
  /-- Of the milliseconds, the low 64 bits are left. -/
  rest : d'.nanoseconds = d.millis % UInt64.size * nanosPerMilli
  accepted_iff : again = .ok () ↔ ¬ UInt64.size ∣ d.millis
  refused : UInt64.size ∣ d.millis → again = .error (.invalidConfiguration refusal)
  near_iff : d'.Near d ↔ d.millis < UInt64.size
  /-- The spans for which all is well. -/
  isKept_iff : again = .ok () ∧ d'.Near d ↔ d.IsKept

-- ==================================================================== spans

namespace Span

variable {d : Span}

/-- The milliseconds go round at 2^64. -/
theorem nanoseconds_kept (d : Span) :
    d.kept.nanoseconds = d.millis % UInt64.size * nanosPerMilli := by
  show (UInt64.ofNat d.millis).toNat * nanosPerMilli = _
  rw [UInt64.toNat_ofNat']

theorem isZero_eq_false_iff : d.isZero = false ↔ 0 < d.nanoseconds := by
  rw [isZero, beq_eq_false_iff_ne, Nat.pos_iff_ne_zero]

/-- Some time is left unless the milliseconds are a multiple of 2^64; none at all
is the first such multiple. -/
theorem isZero_kept_iff : d.kept.isZero = false ↔ ¬ UInt64.size ∣ d.millis := by
  have unit : 0 < nanosPerMilli := by decide
  rw [isZero_eq_false_iff, nanoseconds_kept, Nat.mul_pos_iff_of_pos_right unit,
    Nat.pos_iff_ne_zero, Ne, Nat.dvd_iff_mod_eq_zero]

/-- Less than a millisecond is lost unless the milliseconds go round. -/
theorem near_kept_iff : d.kept.Near d ↔ d.millis < UInt64.size := by
  have parts := d.millis_add_nanosBelowMilli
  have below : d.nanosBelowMilli < nanosPerMilli := Nat.mod_lt _ (by decide)
  rw [Near, nanoseconds_kept]
  constructor
  · rintro ⟨-, near⟩
    refine Nat.lt_of_not_ge fun past => ?_
    -- What went round is a whole millisecond short at least.
    have short : d.millis % UInt64.size + 1 ≤ d.millis := by
      have lt : d.millis % UInt64.size < UInt64.size := Nat.mod_lt _ (by decide)
      omega
    have scaled := Nat.mul_le_mul_right nanosPerMilli short
    rw [Nat.add_mul, Nat.one_mul] at scaled
    omega
  · intro fits
    rw [Nat.mod_eq_of_lt fits]
    omega

theorem isKept_iff : d.IsKept ↔ ¬ UInt64.size ∣ d.millis ∧ d.millis < UInt64.size := by
  have whole : nanosPerMilli ≤ d.nanoseconds ↔ 0 < d.millis :=
    (Nat.div_pos_iff.trans (and_iff_right (by decide))).symm
  rw [IsKept, whole]
  constructor
  · rintro ⟨some, fits⟩
    exact ⟨Nat.not_dvd_of_pos_of_lt some fits, fits⟩
  · rintro ⟨rest, fits⟩
    refine ⟨Nat.pos_of_ne_zero fun none => rest ?_, fits⟩
    rw [none]
    exact Nat.dvd_zero _

/-- Where a check has only to refuse a span of no time, what is left of the span
decides. -/
theorem reaccepted (d : Span) (refusal : String) :
    d.Reaccepted d.kept (refuseIf d.kept.isZero refusal) refusal where
  rest := d.nanoseconds_kept
  accepted_iff := refuseIf_eq_ok_iff.trans isZero_kept_iff
  refused gone := by
    have none : d.kept.isZero = true :=
      eq_true_of_ne_false fun rest => isZero_kept_iff.1 rest gone
    rw [none]
    rfl
  near_iff := near_kept_iff
  isKept_iff := by rw [refuseIf_eq_ok_iff, isZero_kept_iff, near_kept_iff, isKept_iff]

end Span

namespace Settings

-- ================================================================= settings

/-- All settings can be read back; of their spans, what is kept. -/
theorem Connection.read_kept (c : Connection) :
    Connection.ofBytes c.toJson.bytes = .ok { c with retryTimeout := c.retryTimeout.kept } :=
  Json.Shape.reread (by decide) c.ofRow_toRow

theorem Producer.read_kept (p : Producer) :
    Producer.ofBytes p.toJson.bytes = .ok { p with attemptDelay := p.attemptDelay.kept } :=
  Json.Shape.reread (by decide) p.ofRow_toRow

/-- Of accepted settings with another timeout, the timeout is all there is to check. -/
theorem Connection.check_of_valid {c : Connection} (valid : c.check = .ok ()) (d : Span) :
    { c with retryTimeout := d }.check
      = refuseIf d.isZero "retry timeout must be greater than 0" := by
  obtain ⟨host, virtualHost, user, password, port, -⟩ := check_eq_ok_iff.1 valid
  simp only [check, required, host, virtualHost, user, password, beq_eq_false_iff_ne.2 port]
  rfl

theorem Producer.check_of_valid {p : Producer} (valid : p.check = .ok ()) (d : Span) :
    { p with attemptDelay := d }.check
      = refuseIf d.isZero "attempt delay must be greater than 0" := by
  obtain ⟨length, -⟩ := check_eq_ok_iff.1 valid
  simp only [check, beq_eq_false_iff_ne.2 length]
  rfl

-- ========================================================== the main result

/-- Accepted settings can be written and read back, and nothing of them changes
but their span, to its milliseconds modulo 2^64. They are accepted again and
their span is less than a millisecond off exactly if it was a millisecond at
least and below 2^64 of them. -/
theorem reaccepted_iff_isKept (c : Connection) (p : Producer) :
    (c.check = .ok () → ∃ d : Span,
      Connection.ofBytes c.toJson.bytes = .ok { c with retryTimeout := d }
        ∧ c.retryTimeout.Reaccepted d { c with retryTimeout := d }.check
          "retry timeout must be greater than 0")
    ∧ (p.check = .ok () → ∃ d : Span,
      Producer.ofBytes p.toJson.bytes = .ok { p with attemptDelay := d }
        ∧ p.attemptDelay.Reaccepted d { p with attemptDelay := d }.check
          "attempt delay must be greater than 0") := by
  constructor
  · intro valid
    refine ⟨c.retryTimeout.kept, c.read_kept, ?_⟩
    rw [Connection.check_of_valid valid]
    exact c.retryTimeout.reaccepted _
  · intro valid
    refine ⟨p.attemptDelay.kept, p.read_kept, ?_⟩
    rw [Producer.check_of_valid valid]
    exact p.attemptDelay.reaccepted _

/-- Settings with a timeout of almost three milliseconds. -/
def impatient : Connection where
  retryTimeout := .ofNanoseconds 2999999

/-- Settings with the longest delay there is. -/
def patient : Producer where
  maxPoolLength := 1
  attemptDelay := .ofNanoseconds spanLimit

/-- The first are accepted again, with a timeout of two milliseconds; the others
too, but with a delay that is another one. -/
theorem reaccepted_of_impatient :
    impatient.check = .ok () ∧ impatient.retryTimeout.IsKept
      ∧ (∃ c, Connection.ofBytes impatient.toJson.bytes = .ok c ∧ c.check = .ok ()
        ∧ c.retryTimeout.nanoseconds = 2000000 ∧ c.retryTimeout.Near impatient.retryTimeout)
      ∧ patient.check = .ok () ∧ ¬ patient.attemptDelay.IsKept
      ∧ ∃ p, Producer.ofBytes patient.toJson.bytes = .ok p ∧ p.check = .ok ()
        ∧ ¬ p.attemptDelay.Near patient.attemptDelay := by
  have kept : impatient.retryTimeout.IsKept := by decide
  have long : ¬ patient.attemptDelay.millis < UInt64.size := by decide
  obtain ⟨connection, producer⟩ := reaccepted_iff_isKept impatient patient
  obtain ⟨timeout, read, again⟩ := connection rfl
  obtain ⟨delay, read', again'⟩ := producer rfl
  obtain ⟨accepted, near⟩ := again.isKept_iff.2 kept
  exact ⟨rfl, kept, ⟨_, read, accepted, again.rest, near⟩, rfl, fun kept => long kept.2, _, read',
    again'.accepted_iff.2 (by decide), fun near => long (again'.near_iff.1 near)⟩

/-- Settings with a timeout of half a millisecond. -/
def restless : Connection where
  retryTimeout := .ofNanoseconds 500000

/-- Settings with a delay of 2^64 milliseconds. -/
def everlasting : Producer where
  maxPoolLength := 1
  attemptDelay := .ofNanoseconds (UInt64.size * nanosPerMilli)

/-- Both are accepted and written with no time, and refused when they are read. -/
theorem lost_in_milliseconds :
    restless.check = .ok ()
      ∧ (∃ c, Connection.ofBytes restless.toJson.bytes = .ok c
        ∧ c.check = .error (.invalidConfiguration "retry timeout must be greater than 0"))
      ∧ everlasting.check = .ok ()
      ∧ ∃ p, Producer.ofBytes everlasting.toJson.bytes = .ok p
        ∧ p.check = .error (.invalidConfiguration "attempt delay must be greater than 0")
        ∧ ¬ p.attemptDelay.Near everlasting.attemptDelay := by
  refine ⟨rfl, ⟨_, restless.read_kept, rfl⟩, rfl, _, everlasting.read_kept, rfl, ?_⟩
  exact fun near => absurd (Span.near_kept_iff.1 near) (by decide)

end Settings

end Courier
