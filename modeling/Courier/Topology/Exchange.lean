/-
Exchanges and their bindings to other exchanges. A declaration without a
name is a template: it says how an exchange is declared whose name comes
from where the template is used.
-/
import Courier.Arguments
import Courier.Required

namespace Courier.Topology

/-- How an exchange routes. -/
inductive ExchangeKind where
  | direct
  | fanout
  | topic
  | headers
  /-- A kind that a plugin of the broker provides. -/
  | custom (name : String)
  deriving DecidableEq, Repr

/-- The declaration of an exchange. -/
structure Exchange where
  name : Option String
  kind : ExchangeKind := .fanout
  durable : Bool := true
  autoDelete : Bool := false
  arguments : Arguments := .empty

namespace Exchange

/-- A fanout exchange that lasts, without arguments. -/
def named (name : String) : Exchange := { name := some name }

/-- A template with the same defaults. -/
def template : Exchange := { name := none }

/-- Sets one argument. -/
def withArgument (e : Exchange) (k : String) (v : FieldValue) : Exchange :=
  { e with arguments := e.arguments.set k v }

/-- A given name may not be blank, nor may the name of a custom kind. -/
def check (e : Exchange) : Except Failure Unit := do
  if let some name := e.name then required "exchange name" name
  if let .custom kind := e.kind then required "exchange type" kind

/-- The declaration itself, if it passes its check. -/
def build (e : Exchange) : Except Failure Exchange := do
  e.check
  return e

/-- The declaration under its own name, or under `name` if it has none. -/
def withDefaultName (e : Exchange) (name : String) : Exchange :=
  { e with name := some (e.name.getD name) }

end Exchange

/-- The binding of an exchange to a source it receives from. -/
structure ExchangeBinding where
  destination : String
  source : String
  routingKey : String := ""
  arguments : Arguments := .empty

namespace ExchangeBinding

/-- Both exchanges have to be named. -/
def check (b : ExchangeBinding) : Except Failure Unit := do
  required "destination exchange" b.destination
  required "source exchange" b.source

/-- The binding itself, if it passes its check. -/
def build (b : ExchangeBinding) : Except Failure ExchangeBinding := do
  b.check
  return b

end ExchangeBinding

end Courier.Topology
