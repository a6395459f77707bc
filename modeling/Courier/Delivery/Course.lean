/-
The course of a message: the deliveries by which it comes to a
subscription, one after another. Each delivery but the first follows a
processing that ended in a retry; what the message comes back with is up to
the broker and is given as a relation between two deliveries.

The plainest broker counts. A message that was never dead-lettered has no
record of it; each time it comes back, the count of its record is one
higher. `Redelivered` is that broker.
-/
import Courier.Delivery.Consumption

namespace Courier

-- ============================================================ the record

/-- The headers record that many deaths: there is no record, or its first
entry has that count. -/
inductive Deaths : Nat → Option Arguments → Prop
  | unrecorded {headers : Option Arguments} :
      headers.bind (·.get? deathHeader) = none → Deaths 0 headers
  | counted {n : Nat} {headers : Option Arguments} {death : List (String × FieldValue)}
      {others : List FieldValue} :
      headers.bind (·.get? deathHeader) = some (.list (.table death :: others)) →
      KeyedList.get? deathCountKey death = some (.int64 (.ofNat n)) →
      Deaths n headers

/-- The same delivery with that many deaths on record. -/
def Delivery.recording (d : Delivery) (n : Nat) : Delivery :=
  let record : FieldValue := .list [.table [(deathCountKey, .int64 (.ofNat n))]]
  { d with headers := some ((d.headers.getD .empty).set deathHeader record) }

/-- The same payload again, with one more death on record. -/
def Redelivered (d d' : Delivery) : Prop :=
  d'.payload = d.payload ∧ ∃ n, Deaths n d.headers ∧ Deaths (n + 1) d'.headers

-- ============================================================ the course

/-- Whether a delivery goes round the cycle. -/
def Outcome.isRetry : Outcome → Bool
  | retry _ => true
  | _ => false

/-- The deliveries of one message to a subscription, each with its own
cancellation, when `calls` messages were handled before. -/
inductive Course (returns : Delivery → Delivery → Prop) (s : Subscription) (queue : String) :
    Nat → List (Delivery × Bool) → Prop
  | once {calls : Nat} (d : Delivery) (cancelled : Bool) :
      Course returns s queue calls [(d, cancelled)]
  | again {calls : Nat} {d d' : Delivery} {cancelled cancelled' : Bool}
      {rest : List (Delivery × Bool)} :
      (s.consume queue calls d cancelled).1.outcome.isRetry = true → returns d d' →
      Course returns s queue (s.consume queue calls d cancelled).2 ((d', cancelled') :: rest) →
      Course returns s queue calls ((d, cancelled) :: (d', cancelled') :: rest)

/-- The retries that the cycle of a subscription grants; none without one. -/
def Subscription.retries (s : Subscription) : Nat :=
  match s.deadLetter with
  | some c => c.maxRetryCount.toNat
  | none => 0

-- =========================================================== the handler

/-- Whether a payload can be read as a message. -/
def Handler.reads (h : Handler) (payload : List UInt8) : Bool :=
  (h.format.read payload).toBool

/-- Whether the message of a call is handled well: it can be read, a handler
is built for it, and that handler ends well. -/
def Handler.succeeds (h : Handler) (call : Nat) (payload : List UInt8) (cancelled : Bool) : Bool :=
  match h.format.read payload with
  | .error _ => false
  | .ok message =>
    match h.perform call message cancelled with
    | .handled _ .done => true
    | _ => false

/-- The call in which a handler was built, or could not be, if an event shows
that. -/
def HandlerEvent.built? : HandlerEvent → Option Nat
  | handle call _ => some call
  | factory call => some call
  | rested _ => none

/-- The calls in which a consumption had a handler built. -/
def Consumption.built (c : Consumption) : List Nat := c.handling.events.filterMap (·.built?)

end Courier
