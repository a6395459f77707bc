/-
The broker at the other end of a channel, as far as topology and routing
go: what was declared and bound on it, where a message goes that is
published to an exchange, and what becomes of the copies in the queues.

A declaration makes an object that is not there yet, and is accepted for
one that is there if it asks for the same. A binding needs both its ends.

A fanout exchange passes every message on over all its bindings. What other
kinds do depends on the message, and is left open (`Choice`). However many
ways lead to a queue, it gets one copy.

A copy that is rejected, and not to be queued again, goes to the exchange
that the arguments of its queue name, and so does one that expires, which
only happens in a queue with a time to live. Without such an exchange it is
lost. Rejecting and expiring may happen to any copy in a queue, in any
order.
-/
import Courier.Topology.Channel
import Courier.Topology.Plan

namespace Courier

/-- The characters of a long text. -/
def FieldValue.text? : FieldValue → Option String
  | longText bytes => Text.ofUtf8? bytes
  | _ => none

namespace Topology

-- ============================================================ the objects

/-- Whether a declaration asks for an exchange as it is. -/
def Exchange.agrees (e known : Exchange) : Bool :=
  e.kind == known.kind && e.durable == known.durable && e.autoDelete == known.autoDelete
    && e.arguments.entries == known.arguments.entries

/-- Whether a declaration asks for a queue as it is. -/
def Queue.agrees (q known : Queue) : Bool :=
  q.durable == known.durable && q.exclusive == known.exclusive
    && q.autoDelete == known.autoDelete && q.arguments.entries == known.arguments.entries

/-- Where a queue sends the copies that leave it otherwise than by being
acknowledged. -/
def Queue.deadLetterExchange? (q : Queue) : Option String :=
  (q.arguments.get? deadLetterExchangeKey).bind FieldValue.text?

/-- Whether copies stay in a queue for a limited time. -/
def Queue.expires (q : Queue) : Bool := (q.arguments.get? messageTtlKey).isSome

/-- What was set up on a broker, in order. -/
structure Broker where
  exchanges : List Exchange := []
  queues : List Queue := []
  queueBindings : List QueueBinding := []
  exchangeBindings : List ExchangeBinding := []

/-- How exchanges choose that are not fanout: whether one passes the message
of that number on over a binding with that key and these arguments. -/
abbrev Choice := Exchange → String → Arguments → Nat → Bool

namespace Broker

def exchange? (b : Broker) (name : String) : Option Exchange :=
  b.exchanges.find? (·.name == some name)

def queue? (b : Broker) (name : String) : Option Queue :=
  b.queues.find? (·.name == some name)

def hasExchange (b : Broker) (name : String) : Bool := (b.exchange? name).isSome

def hasQueue (b : Broker) (name : String) : Bool := (b.queue? name).isSome

/-- What a broker answers to an operation, and what is set up on it then. -/
def ask (b : Broker) : Operation → Bool × Broker
  | .declareExchange e =>
    match e.name.bind b.exchange? with
    | some known => (e.agrees known, b)
    | none => (true, { b with exchanges := b.exchanges ++ [e] })
  | .declareQueue q =>
    match q.name.bind b.queue? with
    | some known => (q.agrees known, b)
    | none => (true, { b with queues := b.queues ++ [q] })
  | .bindQueue x =>
    if x.queue.any b.hasQueue && x.exchange.any b.hasExchange then
      (true, { b with queueBindings := b.queueBindings ++ [x] })
    else (false, b)
  | .bindExchange x =>
    if b.hasExchange x.destination && b.hasExchange x.source then
      (true, { b with exchangeBindings := b.exchangeBindings ++ [x] })
    else (false, b)

/-- The channel to a broker. -/
def channel : Channel Broker where
  ask := ask

-- ================================================================ routing

/-- Whether an exchange passes a message on over a binding. -/
def passes (b : Broker) (chooses : Choice) (source key : String) (arguments : Arguments)
    (message : Nat) : Bool :=
  (b.exchange? source).any fun e => e.kind == .fanout || chooses e key arguments message

/-- The exchanges that a message gets to from one, over at most so many
bindings between exchanges. -/
def reached (b : Broker) (chooses : Choice) (message : Nat) : Nat → String → List String
  | 0, exchange => [exchange]
  | n + 1, exchange =>
    exchange :: (b.exchangeBindings.filter fun x =>
      x.source == exchange && b.passes chooses x.source x.routingKey x.arguments message).flatMap
        fun x => b.reached chooses message n x.destination

/-- The queues that get a copy of a message published to an exchange. -/
def routes (b : Broker) (chooses : Choice) (exchange : String) (message : Nat) : List String :=
  let exchanges := b.reached chooses message b.exchangeBindings.length exchange
  let bindings := b.queueBindings.filter fun x => x.exchange.any fun source =>
    exchanges.contains source && b.passes chooses source x.routingKey x.arguments message
  (bindings.filterMap (·.queue)).eraseDups

/-- The queues that get a copy of a message that leaves a queue otherwise
than by being acknowledged. -/
def deadLetters (b : Broker) (chooses : Choice) (queue : String) (message : Nat) : List String :=
  match (b.queue? queue).bind (·.deadLetterExchange?) with
  | some exchange => b.routes chooses exchange message
  | none => []

end Broker

-- ============================================================ the traffic

/-- The messages on a broker. They are known by their numbers, in the order
in which they were published. -/
structure Traffic where
  /-- The exchange each message was published to. -/
  published : List String := []
  /-- Queues with the messages they have a copy of. -/
  copies : List (String × Nat) := []
  /-- Messages of which a copy was acknowledged. -/
  acked : List Nat := []
  deriving DecidableEq, Repr

/-- What can happen to messages. -/
inductive TrafficMove where
  | publish (exchange : String)
  | reject (queue : String) (message : Nat)
  | expire (queue : String) (message : Nat)
  | ack (queue : String) (message : Nat)
  deriving DecidableEq, Repr

namespace Traffic

/-- The queues that have a copy of a message, one entry a copy. -/
def copiesOf (t : Traffic) (message : Nat) : List String :=
  (t.copies.filter (·.2 == message)).map (·.1)

/-- Takes a copy out of its queue and sends it where the queue says. -/
def deadLetter (t : Traffic) (b : Broker) (chooses : Choice) (queue : String) (message : Nat) :
    Traffic :=
  { t with
    copies := t.copies.erase (queue, message)
      ++ (b.deadLetters chooses queue message).map (·, message) }

/-- One move, if it is possible. -/
def step? (t : Traffic) (b : Broker) (chooses : Choice) : TrafficMove → Option Traffic
  | .publish exchange =>
    if b.hasExchange exchange then
      let message := t.published.length
      some { t with
        published := t.published ++ [exchange]
        copies := t.copies ++ (b.routes chooses exchange message).map (·, message) }
    else none
  | .reject queue message =>
    if t.copies.contains (queue, message) then some (t.deadLetter b chooses queue message)
    else none
  | .expire queue message =>
    if t.copies.contains (queue, message) && (b.queue? queue).any (·.expires) then
      some (t.deadLetter b chooses queue message)
    else none
  | .ack queue message =>
    if t.copies.contains (queue, message) then
      some { t with
        copies := t.copies.erase (queue, message)
        acked := t.acked ++ [message] }
    else none

/-- Traffic that can come about on a broker. -/
inductive Reachable (b : Broker) (chooses : Choice) : Traffic → Prop where
  | start : Reachable b chooses {}
  | step {t t' : Traffic} (m : TrafficMove) :
    Reachable b chooses t → t.step? b chooses m = some t' → Reachable b chooses t'

end Traffic

end Topology

end Courier
