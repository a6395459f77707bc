/-
Publications: what a publisher is asked to send, and what it hands to the
broker for it. A message goes to an exchange under a routing key, or
straight to a queue; in the second case the exchange has no name and the
queue's name is the routing key.

Whoever hands a message over gives it a random id, another one each time; the
id is left out here, since nothing looks at it. So where publications are said
to be the same, they are so but for their ids.
-/
import Courier.Blueprint.Instance
import Courier.Message
import Courier.TraceHeaders

namespace Courier

/-- Where a message is sent. -/
inductive Target where
  | exchange (name routingKey : String)
  | queue (name : String)
  deriving DecidableEq, Repr

namespace Target

/-- The exchange that a message is handed to. -/
def exchangeName : Target → String
  | exchange name _ => name
  | queue _ => ""

/-- The routing key that a message is handed over with. -/
def key : Target → String
  | exchange _ routingKey => routingKey
  | queue name => name

/-- Whether a message waits for the consumers to be ready first. Only then
are the queues of an exchange bound to it; a queue itself is taken to be
there already. -/
def isGated : Target → Bool
  | exchange _ _ => true
  | queue _ => false

end Target

/-- What a publisher is asked to send. -/
structure Posting where
  instanceName : String
  target : Target
  messageType : String
  /-- The payload, or why the message has none. -/
  body : Except Failure (List UInt8)

namespace Posting

variable {α : Type} [Message α]

/-- A message for an exchange of an instance, with a routing key. -/
def toExchange (instanceName : String) (m : α) (exchange routingKey : String) : Posting where
  instanceName := instanceName
  target := .exchange exchange routingKey
  messageType := Message.typeName α
  body := Message.encode m

/-- A message for an exchange of an instance. -/
def on (instanceName : String) (m : α) (exchange : String) : Posting :=
  toExchange instanceName m exchange ""

/-- A message for an exchange of the default instance. -/
def toDefault (m : α) (exchange : String) : Posting := on defaultInstanceName m exchange

/-- A message for a queue of an instance. -/
def toQueue (instanceName : String) (m : α) (queue : String) : Posting where
  instanceName := instanceName
  target := .queue queue
  messageType := Message.typeName α
  body := Message.encode m

end Posting

/-- A message as it is handed to the broker. -/
structure Publication where
  exchange : String
  routingKey : String
  contentType : String
  messageType : String
  headers : Arguments
  body : List UInt8

/-- The content type of every payload. -/
def jsonContentType : String := "application/json"

/-- The publication of a payload, within a trace of those entries. -/
def Posting.publication (p : Posting) (trace : List (String × String)) (body : List UInt8) :
    Publication where
  exchange := p.target.exchangeName
  routingKey := p.target.key
  contentType := jsonContentType
  messageType := p.messageType
  headers := TraceHeaders.inject trace
  body := body

end Courier
