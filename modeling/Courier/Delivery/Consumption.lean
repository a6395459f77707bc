/-
One delivery of a subscription from its arrival to its settlement. What a
consumption shows falls into two parts, before and after the pause that
the handler may make; without a pause both come at once.
-/
import Courier.Delivery.Attempts
import Courier.Delivery.Settlement
import Courier.Subscription

namespace Courier

/-- The consumption of one delivery. -/
structure Consumption where
  attempts : Int64
  /-- Logged at arrival. -/
  received : LogEvent
  handling : Handling
  outcome : Outcome
  /-- Logged when the handling has ended. -/
  decided : List LogEvent
  settled : Settled

/-- What is logged of a delivery at its arrival. -/
def receivedLog (queue : String) (s : Subscription) (d : Delivery) : LogEvent where
  level := .debug
  target := .consumer
  message := "message received"
  values := [
    ("queue", .text queue),
    ("message_type", .text s.messageType),
    ("delivery_tag", .number d.tag.toNat),
    ("payload", .text (Text.lossy d.payload)),
    ("attempts", .number (earlierAttempts d.headers).toInt)]

/-- Consumes a delivery when `calls` messages were handled before; also gives
the number of messages handled up to and with this one. -/
def Subscription.consume (s : Subscription) (queue : String) (calls : Nat) (d : Delivery)
    (cancelled : Bool) : Consumption × Nat :=
  let attempts := earlierAttempts d.headers
  let (handling, calls) := s.handler.handle calls d.payload cancelled
  let outcome := outcomeOf s.deadLetter attempts handling.result
  ({ attempts := attempts
     received := receivedLog queue s d
     handling := handling
     outcome := outcome
     decided := outcomeLog s.deadLetter attempts handling.result
     settled := settle queue d outcome }, calls)

/-- What is logged of a delivery that could not be settled. -/
def consumeFailureLog (queue : String) (f : Failure) : LogEvent where
  level := .error
  target := .consumer
  message := "error consume msg"
  values := [("error", .text f.message), ("queue", .text queue)]

/-- What is logged of a settlement, and of its failure. -/
def Consumption.settlementLogs (c : Consumption) (queue : String) : List LogEvent :=
  c.settled.logs ++
    match c.settled.result with
    | .ok () => []
    | .error f => [consumeFailureLog queue f]

/-- Consumes deliveries one after another, each with its own cancellation. -/
def Subscription.consumeAll (s : Subscription) (queue : String) (calls : Nat) :
    List (Delivery × Bool) → List Consumption
  | [] => []
  | (d, cancelled) :: rest =>
    let (c, calls) := s.consume queue calls d cancelled
    c :: s.consumeAll queue calls rest

/-- All that is shown of a handling. -/
def Handling.events (h : Handling) : List HandlerEvent := h.shown ++ h.shownLater

/-- All that is logged of a consumption. -/
def Consumption.logs (c : Consumption) : List LogEvent :=
  c.received :: c.decided ++ c.settled.logs

end Courier
