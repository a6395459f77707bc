/-
Dead-letter cycles. A delivery that fails is rejected into the start
exchange, waits in the error queue for the delay of the cycle, and leaves
it by the end exchange, back into the main queue. A delivery goes round at
most so many times as the cycle grants retries.

A broker keeps the delay as a 32-bit number of milliseconds, so a delay
that needs more is refused.
-/
import Courier.Span
import Courier.Topology.Exchange
import Courier.Topology.Queue

namespace Courier

open Courier.Topology

/-- A retry cycle, with the declarations that override the generated ones. -/
structure Cycle where
  delay : Span := .ofMillis 300000
  maxRetryCount : UInt32 := 10
  startExchange : Option Exchange := none
  endExchange : Option Exchange := none
  errorQueue : Option Queue := none
  errorQueueBinding : Option QueueBinding := none
  mainQueueBinding : Option QueueBinding := none

namespace Cycle

/-- The longest delay in whole milliseconds. -/
def greatestDelay : Nat := 0x7fffffff

/-- Checks the delay and the retries. -/
def check (c : Cycle) : Except Failure Unit := do
  refuseIf c.delay.isZero "dead letter delay must be greater than 0"
  refuseIf (greatestDelay < c.delay.millis) "dead letter delay does not fit a queue ttl"
  refuseIf (c.maxRetryCount == 0) "dead letter max retry count must be at least 1"

/-- The cycle itself, if it passes its check. -/
def build (c : Cycle) : Except Failure Cycle := do
  c.check
  return c

theorem check_eq_ok_iff {draft : Cycle} : draft.check = .ok ()
    ↔ 0 < draft.delay.nanoseconds ∧ draft.delay.millis ≤ greatestDelay
      ∧ draft.maxRetryCount ≠ 0 := by
  rw [check, refuseIf_bind_eq_ok_iff, refuseIf_bind_eq_ok_iff, refuseIf_eq_ok_iff, Span.isZero,
    beq_eq_false_iff_ne, beq_eq_false_iff_ne, decide_eq_false_iff_not, Nat.not_lt,
    Nat.pos_iff_ne_zero]

/-- A cycle is built as it is, if there is some delay that fits and a retry. -/
theorem build_eq_ok_iff {draft c : Cycle} : draft.build = .ok c
    ↔ (0 < draft.delay.nanoseconds ∧ draft.delay.millis ≤ greatestDelay
      ∧ draft.maxRetryCount ≠ 0) ∧ c = draft := by
  rw [← check_eq_ok_iff]
  constructor
  · intro built
    obtain ⟨_, checked, same⟩ := bind_eq_ok_iff.1 built
    cases same
    exact ⟨checked, rfl⟩
  · rintro ⟨checked, rfl⟩
    exact bind_eq_ok_iff.2 ⟨(), checked, rfl⟩

/-- The delay of a cycle that was built fits. -/
theorem millis_le_of_build {draft c : Cycle} (built : draft.build = .ok c) :
    c.delay.millis ≤ greatestDelay := by
  obtain ⟨⟨-, fits, -⟩, rfl⟩ := build_eq_ok_iff.1 built
  exact fits

end Cycle

end Courier
