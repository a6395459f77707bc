/-
Subscriptions: what an instance consumes, with how many deliveries in
process at once, and the handler for them. A subscription to an exchange
consumes it through a queue of its consumer group and may have a
dead-letter cycle and overrides of what is declared for it; a subscription
to a queue takes the queue as it is.
-/
import Courier.Cycle
import Courier.Handler

namespace Courier

open Courier.Topology

/-- What may be overridden for a subscription to an exchange. -/
structure ExchangeOptions where
  exchange : Option Exchange := none
  queue : Option Queue := none
  binding : Option QueueBinding := none
  deadLetter : Option Cycle := none

/-- What kind of object is subscribed to. -/
inductive Source where
  | exchange (options : ExchangeOptions)
  | queue

/-- A subscription to the object `name`. -/
structure Subscription where
  name : String
  maxParallelism : UInt16
  source : Source
  handler : Handler

namespace Subscription

/-- The subscribed exchange is named by the subscription, so a name that its
override carries is dropped. -/
def withoutExchangeName : Source → Source
  | .exchange options =>
    .exchange { options with exchange := options.exchange.map fun e => { e with name := none } }
  | .queue => .queue

/-- Checks the name and the parallelism. -/
def check (s : Subscription) : Except Failure Unit := do
  required "subscription name" s.name
  refuseIf (s.maxParallelism == 0) "the max degree of parallelism cannot be less than 1"

/-- The subscription as it is used, if it passes its check. -/
def build (s : Subscription) : Except Failure Subscription := do
  s.check
  return { s with source := withoutExchangeName s.source }

/-- The name of the messages. -/
def messageType (s : Subscription) : String := s.handler.format.typeName

/-- The cycle of a subscription; only one to an exchange has one. -/
def deadLetter (s : Subscription) : Option Cycle :=
  match s.source with
  | .exchange options => options.deadLetter
  | .queue => none

end Subscription

end Courier
