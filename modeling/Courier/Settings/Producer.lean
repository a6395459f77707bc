/-
How an instance publishes: how many channels it may use at once, and how a
publish that fails is tried again.
-/
import Courier.Json.Shape
import Courier.Required
import Courier.Span

namespace Courier.Settings

/-- Settings of the publishing side of an instance. -/
structure Producer where
  /-- Ceiling of the channels in use. -/
  maxPoolLength : UInt64
  /-- How many times a failed publish is repeated. -/
  maxRetryCount : UInt32 := 0
  /-- Delay between two attempts. -/
  attemptDelay : Span := .ofMillis 100
  deriving DecidableEq, Repr

namespace Producer

/-- Checks the pool and the delay. -/
def check (p : Producer) : Except Failure Unit := do
  refuseIf (p.maxPoolLength == 0) "the maximum number of producers must be at least 1"
  refuseIf p.attemptDelay.isZero "attempt delay must be greater than 0"

theorem check_eq_ok_iff {p : Producer} : p.check = .ok () ↔
    p.maxPoolLength ≠ 0 ∧ p.attemptDelay.isZero = false := by
  simp only [check, refuseIf_bind_eq_ok_iff, refuseIf_eq_ok_iff, beq_eq_false_iff_ne]

/-- The record that holds producer settings. -/
def shape : Json.Shape where
  name := "ProducerConfig"
  fields := [
    ⟨"max_pool_length", .word .size, none⟩,
    ⟨"max_retry_count", .word .u32, some (0 : UInt32)⟩,
    ⟨"attempt_delay_ms", .word .u64, some (100 : UInt64)⟩]

def ofRow : Json.Row shape.fields → Producer
  | (length, count, millis, ()) => ⟨length, count, .ofMillis millis⟩

/-- Settings as a record; the delay is written in milliseconds. -/
def toRow (p : Producer) : Json.Row shape.fields :=
  (p.maxPoolLength, p.maxRetryCount, p.attemptDelay.millis64, ())

/-- Reads settings from a JSON text. -/
def ofBytes (bytes : List UInt8) : Except Json.Fault Producer :=
  ofRow <$> shape.ofBytes bytes

/-- Settings as JSON. -/
def toJson (p : Producer) : Json.Value := shape.toValue p.toRow

/-- Only the delay is changed by writing and reading: it is cut to whole
milliseconds, of which the low 64 bits are kept. -/
theorem ofRow_toRow (p : Producer) :
    ofRow p.toRow = { p with attemptDelay := .ofMillis p.attemptDelay.millis64 } := rfl

end Producer

end Courier.Settings
