/-
Trying again. Two things are tried more than once: connecting, as long as
the broker is not reachable, and publishing, whatever goes wrong. Each is
tried once and then as many times more as its settings grant, with the
same wait between two attempts and none after the last.

What the two have in common is a `Persistence`: how often a failed attempt
is repeated, which failures are, and what is logged. What comes of it is a
`Trial`: the result of the last attempt made, and all that was done for it,
in order. The results of the attempts are given by their number, from 0, so
that nothing is assumed about the attempts themselves.
-/
import Courier.Log
import Courier.Settings.Connection
import Courier.Settings.Producer

namespace Courier

-- ============================================================== trials

/-- Something done for a result. -/
inductive TrialStep where
  | attempt (number : Nat)
  | wait (span : Span)
  | log (event : LogEvent)
  deriving DecidableEq, Repr

namespace TrialStep

def isAttempt : TrialStep → Bool
  | attempt _ => true
  | _ => false

def isLog : TrialStep → Bool
  | log _ => true
  | _ => false

def wait? : TrialStep → Option Span
  | wait span => some span
  | _ => none

def log? : TrialStep → Option LogEvent
  | log event => some event
  | _ => none

end TrialStep

/-- What attempts came to. -/
structure Trial (α : Type) where
  result : Except Failure α
  steps : List TrialStep

namespace Trial

variable {α : Type}

/-- The last attempt. -/
def last (k : Nat) (result : Except Failure α) (logs : List LogEvent) : Trial α :=
  ⟨result, .attempt k :: logs.map .log⟩

/-- A failed attempt, what is logged of it, a wait, and what came after. -/
def again (k : Nat) (event : LogEvent) (wait : Span) (rest : Trial α) : Trial α :=
  ⟨rest.result, .attempt k :: .log event :: .wait wait :: rest.steps⟩

/-- The number of attempts. -/
def attempts (t : Trial α) : Nat := t.steps.countP (·.isAttempt)

def logs (t : Trial α) : List LogEvent := t.steps.filterMap (·.log?)

/-- How long the waits last, in milliseconds. -/
def elapsed (t : Trial α) : Nat :=
  (t.steps.filterMap (·.wait?)).foldr (fun wait sum => wait.waitMillis + sum) 0

end Trial

/-- How an attempt that failed is made again. -/
structure Persistence (α : Type) where
  /-- How many times it is made again. -/
  limit : UInt32
  /-- The wait before that. -/
  wait : Span
  /-- What is logged of a failure after which the attempt is made again, when it
  was made again that many times before; none for one after which it is not. -/
  again : Failure → Option (UInt32 → LogEvent)
  /-- What is logged of the last attempt. -/
  ended : Except Failure α → List LogEvent

namespace Persistence

variable {α : Type}

/-- Below the limit the count does not go round. -/
theorem toNat_succ_of_lt {retried limit : UInt32} (h : retried < limit) :
    (retried + 1).toNat = retried.toNat + 1 := by
  have fits := limit.toNat_lt
  rw [UInt32.lt_iff_toNat_lt] at h
  rw [UInt32.toNat_add, UInt32.toNat_one]
  omega

/-- Goes on with attempt `k`, when attempts were made again `retried` times. -/
def goOn (r : Persistence α) (attempt : Nat → Except Failure α) (k : Nat)
    (retried : UInt32) : Trial α :=
  match attempt k with
  | .ok a => .last k (.ok a) (r.ended (.ok a))
  | .error f =>
    match r.again f with
    | none => .last k (.error f) (r.ended (.error f))
    | some event =>
      if h : retried < r.limit then
        .again k (event retried) r.wait (r.goOn attempt (k + 1) (retried + 1))
      else .last k (.error f) (r.ended (.error f))
termination_by r.limit.toNat - retried.toNat
decreasing_by
  have counted := toNat_succ_of_lt h
  rw [UInt32.lt_iff_toNat_lt] at h
  omega

/-- Makes an attempt, and makes it again where it fails. -/
def trial (r : Persistence α) (attempt : Nat → Except Failure α) : Trial α :=
  r.goOn attempt 0 0

end Persistence

-- ========================================================== connecting

/-- What is logged of a connection. -/
def connectedLog (instanceName : String) (c : Settings.Connection) : LogEvent where
  level := .info
  target := .connection
  message := "successfully connected"
  values := [("instance", .text instanceName), ("config", .text c.display)]

/-- What is logged of a failed attempt with `left` more to come. -/
def reconnectLog (instanceName : String) (c : Settings.Connection) (reason : String)
    (left : Nat) : LogEvent where
  level := .warn
  target := .connection
  message := "failure to connect, trying again"
  values := [
    ("error", .text reason),
    ("instance", .text instanceName),
    ("attempts_left", .number left),
    ("retry_in_ms", .number c.retryTimeout.millis64.toNat)]

/-- What is logged of the last failed attempt. -/
def noAttemptsLeftLog (instanceName : String) (c : Settings.Connection) (reason : String) :
    LogEvent where
  level := .error
  target := .connection
  message := "failure to connect, no attempts left"
  values := [
    ("error", .text reason),
    ("instance", .text instanceName),
    ("config", .text c.display)]

/-- How connecting is tried again: only a broker that is not reachable is. -/
def reconnecting (α : Type) (instanceName : String) (c : Settings.Connection) :
    Persistence α where
  limit := c.maxReconnectCount
  wait := c.retryTimeout
  again
    | .brokerUnreachable reason => some fun retried =>
      reconnectLog instanceName c reason (c.maxReconnectCount - retried).toNat
    | _ => none
  ended
    | .ok _ => [connectedLog instanceName c]
    | .error (.brokerUnreachable reason) => [noAttemptsLeftLog instanceName c reason]
    | .error _ => []

/-- Connects. -/
def connectTrial {α : Type} (instanceName : String) (c : Settings.Connection)
    (attempt : Nat → Except Failure α) : Trial α :=
  (reconnecting α instanceName c).trial attempt

-- ========================================================== publishing

/-- What is logged of the failed attempt before retry number `retry`. -/
def republishLog (p : Settings.Producer) (f : Failure) (retry : Nat) : LogEvent where
  level := .warn
  target := .producer
  message := "failure to publish, trying again"
  values := [
    ("error", .text f.message),
    ("retry", .number retry),
    ("max_retry_count", .number p.maxRetryCount.toNat)]

/-- How publishing is tried again: after every failure. -/
def republishing (p : Settings.Producer) : Persistence Unit where
  limit := p.maxRetryCount
  wait := p.attemptDelay
  again f := some fun retried => republishLog p f (retried + 1).toNat
  ended _ := []

/-- Publishes. -/
def publishTrial (p : Settings.Producer) (attempt : Nat → Except Failure Unit) :
    Trial Unit :=
  (republishing p).trial attempt

end Courier
