/-
What a broker is asked to set up: exchanges and queues are declared, queues
and exchanges are bound. An operation can be asked for only when all its
objects have names; `call` gives the names it is asked for with, or says
which kind of object has none.
-/
import Courier.Topology.Exchange
import Courier.Topology.Queue

namespace Courier.Topology

/-- One declaration or binding. -/
inductive Operation where
  | declareExchange (e : Exchange)
  | declareQueue (q : Queue)
  | bindQueue (b : QueueBinding)
  | bindExchange (b : ExchangeBinding)

/-- The names an operation is asked for with. -/
inductive Call where
  | declareExchange (name : String)
  | declareQueue (name : String)
  | bindQueue (queue exchange key : String)
  | bindExchange (destination source key : String)
  deriving DecidableEq, Repr

/-- The failure to report when the broker refuses a call. -/
def Call.refusal : Call → Failure
  | declareExchange name => .exchangeRefused name
  | declareQueue name => .queueRefused name
  | bindQueue queue exchange _ => .queueBindingRefused exchange queue
  | bindExchange destination source _ => .exchangeBindingRefused source destination

/-- A name that has to be there. -/
def givenName (name : Option String) (what : String) : Except Failure String :=
  match name with
  | some name => .ok name
  | none => .error (.invalidConfiguration (what ++ " without a name"))

/-- The call of an operation. -/
def Operation.call : Operation → Except Failure Call
  | declareExchange e => return .declareExchange (← givenName e.name "exchange")
  | declareQueue q => return .declareQueue (← givenName q.name "queue")
  | bindQueue b => do
    let queue ← givenName b.queue "queue binding"
    let exchange ← givenName b.exchange "queue binding"
    return .bindQueue queue exchange b.routingKey
  | bindExchange b => return .bindExchange b.destination b.source b.routingKey

/-- An operation all of whose objects have names. -/
def Operation.Named (op : Operation) : Prop := ∃ call, op.call = .ok call

end Courier.Topology
