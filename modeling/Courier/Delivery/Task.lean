/-
The tasks that consume deliveries, one a delivery. A task runs the handler,
then settles the delivery by one call, and ends. The handler has come to a
result before the call is made, whatever it did, and the task ends whether
or not the broker took the call.
-/
import Courier.Delivery.Consumption

namespace Courier

/-- What a task has come to. -/
inductive DeliveryPhase where
  /-- Handed on, and not begun. -/
  | waiting
  /-- The handler is at work. -/
  | handling (c : Consumption)
  /-- The handler has ended; the delivery is about to be settled. -/
  | settling (c : Consumption)
  /-- The delivery was settled; the task is about to give its permit back. -/
  | leaving (c : Consumption)
  | ended (c : Consumption)

/-- A task with its delivery. -/
structure DeliveryTask where
  delivery : Delivery
  phase : DeliveryPhase := .waiting

namespace DeliveryTask

/-- Whether a task has ended. -/
def isEnded (x : DeliveryTask) : Bool :=
  match x.phase with
  | .ended _ => true
  | _ => false

/-- Whether a task is under way; as long it has its permit. -/
def isRunning (x : DeliveryTask) : Bool := !x.isEnded

/-- Whether the handler of a task is at work. -/
def isHandling (x : DeliveryTask) : Bool :=
  match x.phase with
  | .handling _ => true
  | _ => false

/-- The call that a task has made. -/
def issued? (x : DeliveryTask) : Option Settlement :=
  match x.phase with
  | .leaving c | .ended c => some c.settled.settlement
  | _ => none

/-- Whether the broker took the call that a task has made. -/
def isSettled (x : DeliveryTask) : Bool :=
  match x.phase with
  | .leaving c | .ended c => c.settled.result.isOk
  | _ => false

end DeliveryTask

end Courier
