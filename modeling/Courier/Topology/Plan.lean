/-
The plan of a subscription: the operations that set up what it consumes
from, in order, and the queue it consumes.

A subscription to a queue declares the queue. One to an exchange declares
the exchange, a main queue and the binding between them. A dead-letter
cycle adds its start and end exchange, the error queue between them and
the binding of the main queue to the end exchange, and two generated
arguments close it: the main queue rejects into the start exchange, the
error queue expires into the end exchange once the delay is over.

Exchanges come before the queues whose arguments name them, and a queue
comes before its bindings. Each object follows its own override; where an
object is referred to, it is by the name it is declared with.
-/
import Courier.Settings.Consumer
import Courier.Subscription
import Courier.Topology.Names
import Courier.Topology.Operation

namespace Courier.Topology

/-- The argument that names where a queue sends rejected and expired messages. -/
def deadLetterExchangeKey : String := "x-dead-letter-exchange"

/-- The argument that holds how long messages stay in a queue. -/
def messageTtlKey : String := "x-message-ttl"

/-- An exchange declared by its override, or by the defaults. -/
def exchangeOr (override : Option Exchange) (name : String) : Exchange :=
  match override with
  | some e => e.withDefaultName name
  | none => .named name

/-- A queue declared by its override, or by the defaults, with generated arguments. -/
def queueOr (override : Option Queue) (name : String) (generated : Arguments) : Queue :=
  (override.getD .template).filledIn name generated

/-- A binding by its override, or with the defaults. -/
def bindingOr (override : Option QueueBinding) (queue exchange : String) : QueueBinding :=
  (override.getD .template).joining queue exchange

/-- What a subscription needs set up, and the queue it consumes. -/
structure Plan where
  queue : String
  operations : List Operation

/-- The objects of a dead-letter cycle. -/
structure CycleObjects where
  startExchange : Exchange
  endExchange : Exchange
  errorQueue : Queue
  /-- Between the error queue and the start exchange. -/
  errorBinding : QueueBinding
  /-- Between the main queue and the end exchange. -/
  returnBinding : QueueBinding
  /-- What the main queue is declared with to enter the cycle. -/
  mainArguments : Arguments

/-- A name that was given, or the generated one. -/
def Queue.nameOr (q : Option Queue) (name : String) : String :=
  (q.bind (·.name)).getD name

/-- The objects of the cycle of an exchange, around the main queue of that name. -/
def cycleObjects (c : Cycle) (group exchange mainQueue : String) : CycleObjects :=
  let startName := startExchangeName group exchange
  let endName := endExchangeName group exchange
  let errorName := errorQueueName group exchange
  let startExchange := exchangeOr c.startExchange startName
  let endExchange := exchangeOr c.endExchange endName
  let ttl : FieldValue := .int32 (.ofNat c.delay.millis)
  let errorArguments := Arguments.ofList
    [(messageTtlKey, ttl), (deadLetterExchangeKey, .text (endExchange.name.getD endName))]
  let errorQueue := queueOr c.errorQueue errorName errorArguments
  { startExchange := startExchange
    endExchange := endExchange
    errorQueue := errorQueue
    errorBinding :=
      bindingOr c.errorQueueBinding (errorQueue.name.getD errorName)
        (startExchange.name.getD startName)
    returnBinding := bindingOr c.mainQueueBinding mainQueue (endExchange.name.getD endName)
    mainArguments := Arguments.ofList
      [(deadLetterExchangeKey, .text (startExchange.name.getD startName))] }

/-- The operations in front of the main queue. -/
def CycleObjects.before (o : CycleObjects) : List Operation :=
  [.declareExchange o.startExchange, .declareExchange o.endExchange,
    .declareQueue o.errorQueue, .bindQueue o.errorBinding]

/-- The operations right behind the main queue. -/
def CycleObjects.after (o : CycleObjects) : List Operation := [.bindQueue o.returnBinding]

namespace Plan

/-- The plan of a subscription to an exchange. -/
def ofExchange (exchange : String) (options : ExchangeOptions) (group : String) : Plan :=
  let mainQueue := Queue.nameOr options.queue (mainQueueName group exchange)
  let cycle := options.deadLetter.map fun c => cycleObjects c group exchange mainQueue
  let mainArguments := (cycle.map (·.mainArguments)).getD .empty
  { queue := mainQueue
    operations :=
      .declareExchange (exchangeOr options.exchange exchange)
        :: (cycle.map (·.before)).getD []
        ++ .declareQueue (queueOr options.queue mainQueue mainArguments)
        :: (cycle.map (·.after)).getD []
        ++ [.bindQueue (bindingOr options.binding mainQueue exchange)] }

/-- The plan of a subscription to a queue. -/
def ofQueue (queue : String) : Plan :=
  { queue := queue, operations := [.declareQueue (.named queue)] }

/-- The plan of a subscription. -/
def ofSubscription (s : Subscription) (settings : Settings.Consumer) : Plan :=
  match s.source with
  | .exchange options => ofExchange s.name options settings.group
  | .queue => ofQueue s.name

end Plan

end Courier.Topology
