/-
Log events. An event has a level, the component that reports it, a fixed
message and named values; what varies between two events of one kind is in
the values alone.
-/
import Courier.Json.Fault

namespace Courier

inductive LogLevel where
  | debug
  | info
  | warn
  | error
  deriving DecidableEq, Repr

/-- The name of a level in a log. -/
def LogLevel.name : LogLevel → String
  | debug => "debug"
  | info => "info"
  | warn => "warn"
  | error => "error"

/-- The component that reports an event. -/
inductive LogTarget where
  | connection
  | consumer
  | producer
  | registry
  | payload
  | traceHeaders
  deriving DecidableEq, Repr

/-- The name of a component in a log. -/
def LogTarget.name : LogTarget → String
  | connection => "amqp_relay::connection"
  | consumer => "amqp_relay::consumer"
  | producer => "amqp_relay::producer"
  | registry => "amqp_relay::registry"
  | payload => "amqp_relay::codec"
  | traceHeaders => "amqp_relay::otel"

/-- A value of an event. -/
inductive LogValue where
  | text (s : String)
  | number (n : Int)
  /-- Why a payload could not be read. -/
  | fault (f : Json.Fault)
  deriving DecidableEq, Repr

/-- One event. -/
structure LogEvent where
  level : LogLevel
  target : LogTarget
  message : String
  values : List (String × LogValue) := []
  deriving DecidableEq, Repr

end Courier
