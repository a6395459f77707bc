/-
The consuming side of an instance. All its listeners share permits, as many
as deliveries of the instance may be processed at once. They share one
cancellation as well, which also reaches a listener that comes later.

# Permits

A listener that waits for a permit is assigned one when there is one, and
takes it when it goes on. It may see at that moment that it was cancelled
and take that way instead; then it gives the assigned permit back. The
permit it takes goes with the delivery it hands on, and comes back when the
task of the delivery ends.

# Prefetch

All listeners of an instance share one channel. A limit that is set on it
holds for every consumer that begins later: the broker leaves no more than
so many of its deliveries unsettled.
-/
import Courier.Delivery.Task
import Courier.Listener
import Courier.Subscription

namespace Courier

/-- A listener at the queue of a subscription. -/
structure Reader where
  subscription : Subscription
  queue : String
  /-- The limit that its consumer began with, if there is one. -/
  prefetch : Option UInt16 := none
  listener : Listener := {}
  /-- Whether a permit is there for the listener, which waits for one. -/
  assigned : Bool := false
  /-- How many of its messages were handled so far. -/
  calls : Nat := 0
  /-- The tasks of the deliveries handed on, in order. -/
  tasks : List DeliveryTask := []
  /-- The calls by which deliveries were settled, in the order in which they
  were made, each with the number of its task. -/
  issued : List (Nat × Settlement) := []

namespace Reader

def setPhase (r : Reader) (k : Nat) (phase : DeliveryPhase) : Reader :=
  { r with tasks := r.tasks.modify k ({ · with phase := phase }) }

/-- A delivery that was handed on gets a task. -/
def addTask (r : Reader) (d : Delivery) : Reader :=
  { r with tasks := r.tasks ++ [{ delivery := d }] }

/-- Notes the call by which task `k` settles its delivery. -/
def issue (r : Reader) (k : Nat) (call : Settlement) : Reader :=
  { r with issued := r.issued ++ [(k, call)] }

/-- How many deliveries of a reader are processed now. -/
def running (r : Reader) : Nat := r.tasks.countP (·.isRunning)

/-- How many handlers of a reader are at work now. -/
def handling (r : Reader) : Nat := r.tasks.countP (·.isHandling)

/-- Whether the listener has a permit, for a delivery it has not handed on. -/
def hasPermit (r : Reader) : Bool := r.assigned || r.listener.isAdmitted

/-- How many of the deliveries that a reader was given the broker does not
know to be settled. -/
def unsettled (r : Reader) : Nat := r.listener.taken.length - r.tasks.countP (·.isSettled)

/-- Whether nothing of a reader goes on any more. -/
def isIdle (r : Reader) : Bool := r.listener.ended?.isSome && r.tasks.all (·.isEnded)

end Reader

/-- The listeners of an instance. -/
structure Intake where
  permits : Nat
  cancelled : Bool := false
  /-- The limit for consumers that begin now. -/
  prefetch : Option UInt16 := none
  readers : List Reader := []

/-- What can happen to the listeners of an instance. -/
inductive IntakeMove where
  /-- A limit is set for the consumers that begin from now on. -/
  | limit (prefetch : UInt16)
  /-- A new listener. -/
  | register (s : Subscription) (queue : String)
  /-- A listener goes on. -/
  | listen (reader : Nat) (m : ListenerMove)
  /-- A permit is assigned to a listener. -/
  | assign (reader : Nat)
  /-- The task of a delivery goes on. -/
  | work (reader task : Nat)
  /-- The token is cancelled. -/
  | cancel

namespace Intake

def setReader (t : Intake) (n : Nat) (r : Reader) : Intake :=
  { t with readers := t.readers.set n r }

/-- Takes the permit away that is assigned to a reader. -/
def withdraw (t : Intake) (n : Nat) (r : Reader) : Intake :=
  { t.setReader n { r with assigned := false } with permits := t.permits + r.assigned.toNat }

/-- A listener goes on, if it can. It takes a permit only if one is assigned
to it, and gives that one back if it looks at the token instead. -/
def listen (t : Intake) (n : Nat) (m : ListenerMove) : Option Intake := do
  let r ← t.readers[n]?
  let next ← r.listener.step? m
  match m, r.listener.phase with
  | .look, _ => some (t.withdraw n { r with listener := next })
  | .grant, _ =>
    if r.assigned then some (t.setReader n { r with listener := next, assigned := false })
    else none
  | .spawn, .admitted d =>
    some (t.setReader n ({ r with listener := next }.addTask d))
  | .pend, _ | .take _, _ | .fail, _ | .finish, _ =>
    some (t.setReader n { r with listener := next })
  | _, _ => none

/-- A permit is assigned to a listener that waits for one. -/
def assign (t : Intake) (n : Nat) : Option Intake := do
  let r ← t.readers[n]?
  match r.listener.phase with
  | .admitting _ =>
    if 0 < t.permits && !r.assigned then
      some { t.setReader n { r with assigned := true } with permits := t.permits - 1 }
    else none
  | _ => none

/-- The task of a delivery goes on, if it can. The handler sees whether the
token is cancelled when it begins. -/
def work (t : Intake) (n k : Nat) : Option Intake := do
  let r ← t.readers[n]?
  let x ← r.tasks[k]?
  match x.phase with
  | .waiting =>
    let (c, calls) := r.subscription.consume r.queue r.calls x.delivery t.cancelled
    some (t.setReader n { r.setPhase k (.handling c) with calls := calls })
  | .handling c => some (t.setReader n (r.setPhase k (.settling c)))
  | .settling c =>
    some (t.setReader n ((r.setPhase k (.leaving c)).issue k c.settled.settlement))
  | .leaving c =>
    some { t.setReader n (r.setPhase k (.ended c)) with permits := t.permits + 1 }
  | .ended _ => none

/-- Cancels the token of every listener. -/
def cancel (t : Intake) : Intake :=
  { t with
    cancelled := true
    readers := t.readers.map fun r => { r with listener := r.listener.step .cancel } }

/-- A new listener, with the limit that is set. -/
def register (t : Intake) (s : Subscription) (queue : String) : Intake :=
  { t with
    readers := t.readers ++ [{
      subscription := s
      queue := queue
      prefetch := t.prefetch
      listener := { cancelled := t.cancelled } }] }

/-- Begins to consume a queue, with as many deliveries unsettled as the
subscription processes at once. -/
def consume (t : Intake) (s : Subscription) (queue : String) : Intake :=
  { t with prefetch := some s.maxParallelism }.register s queue

/-- One move, if it is possible. -/
def step? (t : Intake) : IntakeMove → Option Intake
  | .limit prefetch => some { t with prefetch := some prefetch }
  | .register s queue => some (t.register s queue)
  | .listen n m => t.listen n m
  | .assign n => t.assign n
  | .work n k => t.work n k
  | .cancel => some t.cancel

/-- Whether nothing goes on any more. -/
def isIdle (t : Intake) : Bool := t.readers.all Reader.isIdle

/-- How many listeners have a permit now. -/
def held (t : Intake) : Nat := t.readers.countP (·.hasPermit)

-- ================================================================= logs

/-- What is logged when a listener goes on. -/
def listenLogs (t : Intake) (n : Nat) (m : ListenerMove) : List LogEvent :=
  match t.readers[n]? with
  | none => []
  | some r =>
    match (r.listener.step? m).bind Listener.ended?, m with
    | some state, .fail =>
      [Listener.streamFailureLog r.queue, Listener.stoppedLog r.queue none state]
    | some state, _ => [Listener.stoppedLog r.queue none state]
    | none, _ => []

/-- What is logged when the task of a delivery goes on. -/
def workLogs (t : Intake) (n k : Nat) : List LogEvent :=
  match t.readers[n]? with
  | none => []
  | some r =>
    match r.tasks[k]? with
    | some ⟨d, .waiting⟩ => [receivedLog r.queue r.subscription d]
    | some ⟨_, .handling c⟩ => c.decided
    | some ⟨_, .settling c⟩ => c.settlementLogs r.queue
    | _ => []

/-- What is logged of a move. -/
def logs (t : Intake) : IntakeMove → List LogEvent
  | .register _ queue => [Listener.listeningLog queue]
  | .listen n m => t.listenLogs n m
  | .work n k => t.workLogs n k
  | .limit _ | .assign _ | .cancel => []

/-- The listeners of an instance as they can come about. -/
inductive Reachable (ceiling : Nat) : Intake → Prop where
  | start : Reachable ceiling { permits := ceiling }
  | step {t t' : Intake} (m : IntakeMove) :
    Reachable ceiling t → t.step? m = some t' → Reachable ceiling t'

end Intake

end Courier
