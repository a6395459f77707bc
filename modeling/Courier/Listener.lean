/-
Listeners. A listener takes the deliveries of one queue from a stream and
hands each on to be consumed, as soon as it gets a permit for it; the permit
goes with the delivery. It ends when it sees that it was cancelled, when the
stream fails or ends, or when no permits are given any more.

The state of a listener and its moves are given here, without time and
without a schedule: what moves when is for the surroundings to say, and
several moves may be possible at once. In each round the token is looked
at before the stream. It may be cancelled in between, so a delivery that
was taken is looked at once more and left alone if the token was cancelled
by then. While a permit is waited for, both the permit and the
cancellation may come; where both are there, either may be taken.
-/
import Courier.Delivery.Settlement

namespace Courier

/-- The state of a listener as others see it. -/
inductive ListenerState where
  | registered
  | active
  | cancelled
  | shutDown
  | unregistered
  deriving DecidableEq, Repr

/-- The name of a state in a log. -/
def ListenerState.name : ListenerState → String
  | registered => "Registered"
  | active => "Active"
  | cancelled => "Cancelled"
  | shutDown => "ShutDown"
  | unregistered => "Unregistered"

/-- What a listener is about to do. -/
inductive ListenerPhase where
  /-- To look at the token, at the start of a round. -/
  | looking
  /-- To ask the stream; the token was not cancelled a moment ago. -/
  | asking
  /-- To look at the token again, with a delivery at hand. -/
  | holding (d : Delivery)
  /-- To get a permit for a delivery. -/
  | admitting (d : Delivery)
  /-- To hand a delivery on; it has the permit for it. -/
  | admitted (d : Delivery)
  | ended (state : ListenerState)

/-- A listener, with all it was given and all it has handed on, in order. -/
structure Listener where
  phase : ListenerPhase := .looking
  /-- Whether its token was cancelled. -/
  cancelled : Bool := false
  /-- The deliveries that the stream gave. -/
  taken : List Delivery := []
  /-- The deliveries handed on to be consumed. -/
  spawned : List Delivery := []
  /-- How often the broker was asked to end the consumer. -/
  cancelCalls : Nat := 0

/-- What can happen to a listener. -/
inductive ListenerMove where
  /-- Somebody cancels the token. -/
  | cancel
  /-- The listener looks at the token. -/
  | look
  /-- The stream has nothing yet; the round starts again. -/
  | pend
  /-- The stream gives a delivery. -/
  | take (d : Delivery)
  /-- The stream fails. -/
  | fail
  /-- The stream ends. -/
  | finish
  /-- A permit is given. -/
  | grant
  /-- The listener hands its delivery on. -/
  | spawn
  /-- No permits are given any more. -/
  | close

namespace Listener

/-- Ends a listener. A cancelled one asks the broker to end the consumer. -/
def stop (l : Listener) (state : ListenerState) : Listener :=
  { l with
    phase := .ended state
    cancelCalls := if state = .cancelled then l.cancelCalls + 1 else l.cancelCalls }

/-- What looking at the token leads to. -/
def looked (l : Listener) : Option Listener :=
  match l.phase with
  | .looking => some (if l.cancelled then l.stop .cancelled else { l with phase := .asking })
  | .asking => if l.cancelled then some (l.stop .cancelled) else none
  | .holding d => some { l with phase := if l.cancelled then .looking else .admitting d }
  | .admitting _ => if l.cancelled then some { l with phase := .looking } else none
  | .admitted _ | .ended _ => none

/-- One move of a listener, if it is possible. -/
def step? (l : Listener) : ListenerMove → Option Listener
  | .cancel => some { l with cancelled := true }
  | .look => l.looked
  | .pend =>
    match l.phase with
    | .asking => some { l with phase := .looking }
    | _ => none
  | .take d =>
    match l.phase with
    | .asking => some { l with phase := .holding d, taken := l.taken ++ [d] }
    | _ => none
  | .fail =>
    match l.phase with
    | .asking => some (l.stop .shutDown)
    | _ => none
  | .finish =>
    match l.phase with
    | .asking => some (l.stop .unregistered)
    | _ => none
  | .grant =>
    match l.phase with
    | .admitting d => some { l with phase := .admitted d }
    | _ => none
  | .spawn =>
    match l.phase with
    | .admitted d => some { l with phase := .looking, spawned := l.spawned ++ [d] }
    | _ => none
  | .close =>
    match l.phase with
    | .admitting _ => some (l.stop .shutDown)
    | _ => none

/-- A move that is made where it is possible, and nothing elsewhere. -/
def step (l : Listener) (m : ListenerMove) : Listener := (l.step? m).getD l

/-- Whether a listener has ended, and how. -/
def ended? (l : Listener) : Option ListenerState :=
  match l.phase with
  | .ended state => some state
  | _ => none

/-- Whether a listener has taken a permit for the delivery at hand. -/
def isAdmitted (l : Listener) : Bool :=
  match l.phase with
  | .admitted _ => true
  | _ => false

-- ================================================================= logs

/-- What is logged when a listener starts. -/
def listeningLog (queue : String) : LogEvent where
  level := .debug
  target := .consumer
  message := "listening"
  values := [("queue", .text queue), ("state", .text ListenerState.active.name)]

/-- What is logged of a stream that failed. -/
def streamFailureLog (queue : String) : LogEvent where
  level := .error
  target := .consumer
  message := "consumer failure"
  values := [("queue", .text queue)]

/-- What is logged of a broker that refused to end the consumer. -/
def cancelFailureLog (queue : String) : LogEvent where
  level := .warn
  target := .consumer
  message := "failure to cancel the consumer"
  values := [("queue", .text queue)]

/-- What is logged when a listener has ended, with the tag of its consumer
where that is known. -/
def stoppedLog (queue : String) (tag : Option String) (state : ListenerState) : LogEvent where
  level := .info
  target := .consumer
  message := "consumer stopped"
  values :=
    ("queue", .text queue) :: (tag.map fun tag => ("consumer_tag", .text tag)).toList
      ++ [("state", .text state.name)]

end Listener

/-- Listeners that can come about, from the moves that led to them. -/
inductive Listener.Reachable : Listener → Prop where
  | start : Reachable {}
  | step {l l' : Listener} (m : ListenerMove) :
    Reachable l → l.step? m = some l' → Reachable l'

end Courier
