/-
Operations that an instance asks for once, right after it has connected.
They may be given in any order and are asked for by kind: exchanges,
queues, queue bindings, exchange bindings, each kind in the order given.
Every object has to be named.
-/
import Courier.Topology.Operation

namespace Courier.Topology

/-- Init operations by kind. -/
structure Init where
  exchanges : List Exchange := []
  queues : List Queue := []
  queueBindings : List QueueBinding := []
  exchangeBindings : List ExchangeBinding := []

namespace Init

/-- Adds an operation. -/
def add (i : Init) : Operation → Init
  | .declareExchange e => { i with exchanges := i.exchanges ++ [e] }
  | .declareQueue q => { i with queues := i.queues ++ [q] }
  | .bindQueue b => { i with queueBindings := i.queueBindings ++ [b] }
  | .bindExchange b => { i with exchangeBindings := i.exchangeBindings ++ [b] }

/-- The init operations of a list of operations. -/
def ofList (ops : List Operation) : Init := ops.foldl add {}

/-- Whether there are none. -/
def isEmpty (i : Init) : Bool :=
  i.exchanges.isEmpty && i.queues.isEmpty && i.queueBindings.isEmpty && i.exchangeBindings.isEmpty

/-- The operations in the order they are asked for. -/
def ordered (i : Init) : List Operation :=
  i.exchanges.map .declareExchange ++ i.queues.map .declareQueue
    ++ i.queueBindings.map .bindQueue ++ i.exchangeBindings.map .bindExchange

/-- Every object has to be named. -/
def check (i : Init) : Except Failure Unit := do
  refuseIf (i.exchanges.any (·.name.isNone)) "an init exchange declaration must be named"
  refuseIf (i.queues.any (·.name.isNone)) "an init queue declaration must be named"
  refuseIf (i.queueBindings.any fun b => b.queue.isNone || b.exchange.isNone)
    "an init queue binding must name its queue and exchange"

/-- The operations themselves, if they pass the check. -/
def build (i : Init) : Except Failure Init := do
  i.check
  return i

end Init

end Courier.Topology
