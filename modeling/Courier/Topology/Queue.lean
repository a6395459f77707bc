/-
Queues and their bindings to exchanges. As with exchanges, a declaration
or a binding without names is a template, applied where its names are
known. A queue template is merged with generated arguments, over which its
own take precedence; a binding template carries a routing key and
arguments, and its names, if it has any, do not matter.
-/
import Courier.Arguments
import Courier.Required

namespace Courier.Topology

/-- The declaration of a queue. -/
structure Queue where
  name : Option String
  durable : Bool := true
  exclusive : Bool := false
  autoDelete : Bool := false
  arguments : Arguments := .empty

namespace Queue

/-- A queue that lasts, without arguments. -/
def named (name : String) : Queue := { name := some name }

/-- A template with the same defaults. -/
def template : Queue := { name := none }

/-- Sets one argument. -/
def withArgument (q : Queue) (k : String) (v : FieldValue) : Queue :=
  { q with arguments := q.arguments.set k v }

/-- A given name may not be blank. -/
def check (q : Queue) : Except Failure Unit := do
  if let some name := q.name then required "queue name" name

/-- The declaration itself, if it passes its check. -/
def build (q : Queue) : Except Failure Queue := do
  q.check
  return q

/-- The declaration of the queue `name` with generated arguments. The
template's own name and arguments take precedence. -/
def filledIn (q : Queue) (name : String) (generated : Arguments) : Queue :=
  { q with
    name := some (q.name.getD name)
    arguments := generated.merge q.arguments }

end Queue

/-- The binding of a queue to an exchange. -/
structure QueueBinding where
  queue : Option String
  exchange : Option String
  routingKey : String := ""
  arguments : Arguments := .empty

namespace QueueBinding

/-- A binding with the empty routing key and no arguments. -/
def between (queue exchange : String) : QueueBinding :=
  { queue := some queue, exchange := some exchange }

/-- A template with the same defaults. -/
def template : QueueBinding := { queue := none, exchange := none }

/-- Given names may not be blank. -/
def check (b : QueueBinding) : Except Failure Unit := do
  if let some queue := b.queue then required "queue name" queue
  if let some exchange := b.exchange then required "exchange name" exchange

/-- The binding itself, if it passes its check. -/
def build (b : QueueBinding) : Except Failure QueueBinding := do
  b.check
  return b

/-- The routing key and arguments of a template, between the given objects. -/
def joining (b : QueueBinding) (queue exchange : String) : QueueBinding :=
  { b with queue := some queue, exchange := some exchange }

end QueueBinding

end Courier.Topology
