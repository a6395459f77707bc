/-
How an instance consumes: the group that the names of its queues are
derived from, and how many deliveries it processes at once.
-/
import Courier.Json.Shape
import Courier.Required

namespace Courier.Settings

/-- Settings of the consuming side of an instance. -/
structure Consumer where
  group : String
  /-- Ceiling of the deliveries in process, over all subscriptions. -/
  maxParallelism : UInt16
  deriving DecidableEq, Repr

namespace Consumer

/-- Checks the group and the ceiling. -/
def check (c : Consumer) : Except Failure Unit := do
  required "consumer group" c.group
  refuseIf (c.maxParallelism == 0) "max degree of parallelism must be greater than 0"

/-- The record that holds consumer settings. -/
def shape : Json.Shape where
  name := "ConsumerConfig"
  fields := [⟨"consumer_group", .text, none⟩, ⟨"max_degree_of_parallelism", .word .u16, none⟩]

def ofRow : Json.Row shape.fields → Consumer
  | (group, maxParallelism, ()) => ⟨group, maxParallelism⟩

def toRow (c : Consumer) : Json.Row shape.fields := (c.group, c.maxParallelism, ())

/-- Reads settings from a JSON text. -/
def ofBytes (bytes : List UInt8) : Except Json.Fault Consumer :=
  ofRow <$> shape.ofBytes bytes

/-- Settings as JSON. -/
def toJson (c : Consumer) : Json.Value := shape.toValue c.toRow

/-- Writing and reading changes nothing. -/
theorem ofRow_toRow (c : Consumer) : ofRow c.toRow = c := rfl

end Consumer

end Courier.Settings
