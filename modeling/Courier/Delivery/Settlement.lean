/-
Settling a delivery with the broker, by one call: it is acknowledged when
it was handled or dropped, and rejected, not to be queued again, when it is
retried. The call fails if the delivery was settled before; then that is
logged and reported, and no second call is made.
-/
import Courier.Delivery.Outcome

namespace Courier

/-- A delivery as the broker hands it out. -/
structure Delivery where
  tag : UInt64
  payload : List UInt8
  headers : Option Arguments := none
  /-- Whether the broker still takes a settlement of it. -/
  unsettled : Bool := true

/-- A call that settles a delivery. -/
inductive Settlement where
  | ack
  /-- Rejects a delivery without having it queued again. -/
  | nack
  deriving DecidableEq, Repr

/-- The call that settles a delivery with that outcome. -/
def Outcome.settlement : Outcome → Settlement
  | handled => .ack
  | retry _ => .nack
  | dropped _ => .ack

/-- The failure to report of a settlement that was not taken. -/
def Settlement.refusal : Settlement → Failure
  | ack => .ackRefused
  | nack => .nackRefused

/-- What is logged of a settlement that was not taken. -/
def Settlement.refusalLog : Settlement → LogEvent
  | ack => { level := .error, target := .consumer, message := "error whiling ack msg" }
  | nack => { level := .error, target := .consumer, message := "error whiling nack msg" }

/-- A call to the broker that settles the delivery with a tag, and with
`multiple` all unsettled ones before it. -/
inductive SettlementCall where
  | ack (tag : UInt64) (multiple : Bool)
  | nack (tag : UInt64) (multiple requeue : Bool)
  deriving DecidableEq, Repr

/-- The call that settles one delivery, and no other. -/
def Settlement.call (tag : UInt64) : Settlement → SettlementCall
  | ack => .ack tag false
  | nack => .nack tag false false

/-- What is logged of a message that was handled and acknowledged. -/
def processedLog (queue : String) (tag : UInt64) : LogEvent where
  level := .info
  target := .consumer
  message := "message successfully processed"
  values := [("queue", .text queue), ("delivery_tag", .number tag.toNat)]

/-- A delivery while it is settled. -/
structure Settling where
  /-- Whether the broker still takes a settlement of it. -/
  unsettled : Bool
  /-- The calls made, in order, each with whether the broker took it. -/
  calls : List (SettlementCall × Bool) := []
  logs : List LogEvent := []

namespace Settling

/-- Makes a call, and gives whether the broker took it. It takes none after the first. -/
def issue (call : SettlementCall) : StateM Settling Bool := do
  let t ← get
  set { t with unsettled := false, calls := t.calls ++ [(call, t.unsettled)] }
  return t.unsettled

def log (event : LogEvent) : StateM Settling Unit :=
  modify fun t => { t with logs := t.logs ++ [event] }

/-- Makes the call for one delivery; that it was not taken is logged and
reported. -/
def attempt (tag : UInt64) (settlement : Settlement) : ExceptT Failure (StateM Settling) Unit := do
  unless ← issue (settlement.call tag) do
    log settlement.refusalLog
    throw settlement.refusal

/-- Settles a delivery from a queue. -/
def settle (queue : String) (tag : UInt64) : Outcome → ExceptT Failure (StateM Settling) Unit
  | .handled => do
    attempt tag .ack
    log (processedLog queue tag)
  | .retry _ => attempt tag .nack
  | .dropped _ => attempt tag .ack

end Settling

/-- What settling a delivery came to: the settlement decided on, the calls made
with their answers, the result, what was logged. -/
structure Settled where
  settlement : Settlement
  calls : List (SettlementCall × Bool)
  result : Except Failure Unit
  logs : List LogEvent

/-- Settles a delivery from a queue. -/
def settle (queue : String) (d : Delivery) (outcome : Outcome) : Settled :=
  let (result, t) := (Settling.settle queue d.tag outcome).run { unsettled := d.unsettled }
  { settlement := outcome.settlement, calls := t.calls, result := result, logs := t.logs }

end Courier
