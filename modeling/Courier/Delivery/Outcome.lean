/-
What becomes of a delivery once it was handled. A failed one is retried as
long as the cycle of its subscription grants it: with `r` retries, the one
that failed after `a` earlier attempts goes round if `a < r`. Without a
cycle, or with the retries used up, it is dropped.

Attempts are counted in 64-bit words, which wrap.
-/
import Courier.Cycle
import Courier.Handler
import Courier.Log

namespace Courier

/-- What becomes of a delivery. -/
inductive Outcome where
  | handled
  /-- Failed, and goes round the cycle. -/
  | retry (attemptsLeft : Int64)
  /-- Failed, and is lost. -/
  | dropped (attempts : Int64)
  deriving DecidableEq, Repr

/-- The retries of a cycle, as a count. -/
def Cycle.retries (c : Cycle) : Int64 := .ofNat c.maxRetryCount.toNat

/-- The outcome of a delivery that failed after `attempts` earlier attempts. -/
def outcomeOfFailure (cycle : Option Cycle) (attempts : Int64) : Outcome :=
  match cycle with
  | some c =>
    if attempts < c.retries then .retry (c.retries - attempts) else .dropped (attempts + 1)
  | none => .dropped (attempts + 1)

/-- The outcome of a delivery whose handling gave that result. -/
def outcomeOf (cycle : Option Cycle) (attempts : Int64) :
    Except HandlingError Unit → Outcome
  | .ok () => .handled
  | .error _ => outcomeOfFailure cycle attempts

/-- How a log shows the error of a handling. -/
def HandlingError.logged : HandlingError → LogValue
  | unreadable fault => .fault fault
  | reported reason => .text reason

/-- What is logged of an outcome and the error behind it. -/
def Outcome.failureLog (error : HandlingError) : Outcome → List LogEvent
  | handled => []
  | retry left => [{
      level := .warn
      target := .consumer
      message := "error whiling handling msg, sending to the dead-letter cycle"
      values := [("error", error.logged), ("attempts_left", .number left.toInt)] }]
  | dropped attempts => [{
      level := .error
      target := .consumer
      message := "error whiling handling msg, no retry left, message lost"
      values := [("error", error.logged), ("attempts", .number attempts.toInt)] }]

/-- What is logged of a handling. -/
def outcomeLog (cycle : Option Cycle) (attempts : Int64)
    (result : Except HandlingError Unit) : List LogEvent :=
  match result with
  | .ok () => []
  | .error e => (outcomeOf cycle attempts result).failureLog e

end Courier
