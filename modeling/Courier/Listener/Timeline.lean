/-
A listener at work, with the tasks it starts, on a clock of milliseconds.
One task runs at a time, until it has to wait; tasks that can run do so in
the order in which they became able to, and when none can, the clock moves
on to the next timer.

A task that consumes a delivery starts when the listener waits or has
ended. It holds its permit until the delivery is settled; the permit then
goes to the listener if that waits for one. All tasks are run to their end,
also those that are still at work when the listener has ended.

The listener itself makes the moves of `Listener.step?`; what this module
adds is the schedule.
-/
import Courier.Delivery.Consumption
import Courier.Listener

namespace Courier

/-- What the stream of a consumer does next. -/
inductive StreamItem where
  /-- Gives a delivery; the token may be cancelled right before. -/
  | delivery (d : Delivery) (cancelFirst : Bool)
  /-- Gives nothing for some milliseconds. -/
  | pause (millis : Nat)
  | failure
  /-- The token is cancelled, and the stream goes on. -/
  | cancel
  /-- No permits are given from here on, and the stream goes on. -/
  | closeDispatch

/-- A task that consumes a delivery, the one taken from the stream with that
number. -/
structure ConsumeTask where
  index : Nat
  delivery : Delivery

/-- Something that can run. -/
inductive TimelineTask where
  | listen
  | consume (t : ConsumeTask)
  /-- Ends a consumption whose handler has paused. -/
  | conclude (index : Nat) (c : Consumption)
  /-- Cancels the token. -/
  | cancel

/-- A delivery that was taken from the stream. -/
structure TakenDelivery where
  tag : UInt64
  /-- Whether it was settled, here or before. -/
  used : Bool
  deriving DecidableEq, Repr

/-- What the listener has of permits. -/
inductive PermitWait where
  | notWaiting
  | waiting
  /-- The permit it waited for was given. -/
  | granted
  deriving DecidableEq, Repr

/-- A listener at work. -/
structure Timeline where
  subscription : Subscription
  queue : String
  /-- Whether the broker refuses to end the consumer. -/
  cancelFails : Bool := false
  now : Nat := 0
  listener : Listener := {}
  stream : List StreamItem
  /-- When the pause that the stream makes is over. -/
  pausedUntil : Option Nat := none
  permits : Nat
  permitsGiven : Bool := true
  wait : PermitWait := .notWaiting
  /-- Tasks that can run, in order. -/
  ready : List TimelineTask := [.listen]
  /-- Tasks that wait for the clock, in order. -/
  timers : List (Nat × TimelineTask) := []
  /-- Readable messages so far. -/
  calls : Nat := 0
  taken : List TakenDelivery := []
  events : List (Nat × HandlerEvent) := []
  logs : List LogEvent := []
  stoppedAt : Option Nat := none

namespace Timeline

/-- The tag that the broker gave the consumer. -/
def consumerTag : String := "ctag"

def log (t : Timeline) (es : List LogEvent) : Timeline := { t with logs := t.logs ++ es }

/-- Shows what a handler shows, now. -/
def display (t : Timeline) (es : List HandlerEvent) : Timeline :=
  { t with events := t.events ++ es.map fun e => (t.now, e) }

/-- Makes a move of the listener. -/
def move (t : Timeline) (m : ListenerMove) : Timeline :=
  { t with listener := t.listener.step m }

/-- Puts a task behind those that can run. -/
def enqueue (t : Timeline) (task : TimelineTask) : Timeline :=
  { t with ready := t.ready ++ [task] }

/-- Lets the listener run again, once. -/
def wake (t : Timeline) : Timeline :=
  if t.ready.any fun | .listen => true | _ => false then t else t.enqueue .listen

/-- Inserts a timer behind those that are due no later. -/
def insertTimer (due : Nat) (task : TimelineTask) :
    List (Nat × TimelineTask) → List (Nat × TimelineTask)
  | [] => [(due, task)]
  | (due', task') :: rest =>
    if due < due' then (due, task) :: (due', task') :: rest
    else (due', task') :: insertTimer due task rest

def addTimer (t : Timeline) (due : Nat) (task : TimelineTask) : Timeline :=
  { t with timers := insertTimer due task t.timers }

/-- Cancels the token; the listener gets to see it. -/
def cancelToken (t : Timeline) : Timeline := (t.move .cancel).wake

-- =========================================================== consuming

/-- Gives a permit back: to the listener if it waits for one. -/
def release (t : Timeline) : Timeline :=
  match t.wait with
  | .waiting => { t with wait := .granted }.wake
  | _ => { t with permits := t.permits + 1 }

/-- Ends a consumption: outcome, settlement, and the permit back. -/
def conclude (t : Timeline) (index : Nat) (c : Consumption) : Timeline :=
  let t := (t.display c.handling.shownLater).log (c.decided ++ c.settlementLogs t.queue)
  let t := { t with taken := t.taken.modify index fun d => { d with used := true } }
  t.release

/-- Starts a consumption. Its handler sees whether the token is cancelled now. -/
def consume (t : Timeline) (task : ConsumeTask) : Timeline :=
  let (c, calls) := t.subscription.consume t.queue t.calls task.delivery t.listener.cancelled
  let t := ({ t with calls := calls }.log [c.received]).display c.handling.shown
  match c.handling.pause with
  | none => t.conclude task.index c
  | some 0 => t.conclude task.index c
  | some millis => t.addTimer (t.now + millis) (.conclude task.index c)

-- ============================================================ listening

/-- Notes the end of the listener. -/
def ended (t : Timeline) (state : ListenerState) : Timeline :=
  let failure :=
    if state = .cancelled ∧ t.cancelFails then [Listener.cancelFailureLog t.queue] else []
  { t with stoppedAt := some t.now }.log
    (failure ++ [Listener.stoppedLog t.queue (some consumerTag) state])

/-- Hands the delivery that was admitted on to a task. -/
def spawn (t : Timeline) (d : Delivery) : Timeline :=
  (t.move .spawn).enqueue (.consume { index := t.taken.length - 1, delivery := d })

/-- Takes an item from the stream. Gives also whether the listener goes on at once. -/
def meet (t : Timeline) : StreamItem → Timeline × Bool
  | .delivery d cancelFirst =>
    let t := if cancelFirst then t.cancelToken else t
    let t := { t with taken := t.taken ++ [TakenDelivery.mk d.tag (!d.unsettled)] }
    (t.move (.take d), true)
  | .pause 0 => (t, true)
  | .pause millis =>
    let due := t.now + millis
    ({ t.addTimer due .listen with pausedUntil := some due }.move .pend, false)
  | .failure => ((t.log [Listener.streamFailureLog t.queue]).move .fail, true)
  | .cancel => (t.cancelToken, true)
  | .closeDispatch => ({ t with permitsGiven := false }, true)

/-- Asks the stream. Gives also whether the listener goes on at once. -/
def ask (t : Timeline) : Timeline × Bool :=
  match t.pausedUntil with
  | some due =>
    if t.now < due then (t.move .pend, false) else ({ t with pausedUntil := none }, true)
  | none =>
    match t.stream with
    | [] => (t.move .finish, true)
    | item :: rest => { t with stream := rest }.meet item

/-- Asks for a permit. Gives also whether the listener goes on at once. -/
def seekPermit (t : Timeline) : Timeline × Bool :=
  match t.wait with
  | .granted => ({ t with wait := .notWaiting }.move .grant, true)
  | .waiting =>
    if t.listener.cancelled then ({ t with wait := .notWaiting }.move .look, true) else (t, false)
  | .notWaiting =>
    if !t.permitsGiven then (t.move .close, true)
    else if 0 < t.permits then ({ t with permits := t.permits - 1 }.move .grant, true)
    else ({ t with wait := .waiting }, false)

/-- What the listener does next, from its phase. Gives also whether it goes on at once. -/
def turn (t : Timeline) : Timeline × Bool :=
  match t.listener.phase with
  | .looking | .holding _ => (t.move .look, true)
  | .asking => t.ask
  | .admitting _ => t.seekPermit
  | .admitted d => (t.spawn d, true)
  | .ended _ => (t, false)

/-- Runs the listener until it waits or ends; `fuel` bounds its moves. -/
def listen : Nat → Timeline → Timeline
  | 0, t => t
  | fuel + 1, t =>
    let (t, goesOn) := t.turn
    match t.listener.ended?, goesOn with
    | some state, true => t.ended state
    | none, true => listen fuel t
    | _, false => t

/-- A bound on the moves that the listener has left. -/
def movesLeft (t : Timeline) : Nat := 6 * t.stream.length + 12

-- ============================================================= the clock

/-- Runs a task until it waits or ends. -/
def run (t : Timeline) : TimelineTask → Timeline
  | .listen => t.listen t.movesLeft
  | .consume task => t.consume task
  | .conclude index c => t.conclude index c
  | .cancel => t.cancelToken

/-- Moves the clock on; the tasks whose time has come can run, in order. -/
def advance (t : Timeline) (now : Nat) : Timeline :=
  let (due, later) := t.timers.span fun timer => timer.1 ≤ now
  { t with now := now, timers := later, ready := t.ready ++ due.map (·.2) }

/-- Runs all tasks to their end; `fuel` bounds them and the moves of the clock. -/
def runAll : Nat → Timeline → Timeline
  | 0, t => t
  | fuel + 1, t =>
    match t.ready with
    | task :: rest => runAll fuel ({ t with ready := rest }.run task)
    | [] =>
      match t.timers with
      | [] => t
      | (due, _) :: _ => runAll fuel (t.advance (max t.now due))

/-- A bound on the tasks that a listener and its deliveries come to. -/
def tasksOf (stream : List StreamItem) : Nat := 12 * stream.length + 24

/-- Lets a listener work on a stream until nothing is left to do. The token is
cancelled at a given time if it is not before. -/
def complete (t : Timeline) (cancelAt : Option Nat) : Timeline :=
  let t := t.log [Listener.listeningLog t.queue]
  let t :=
    match cancelAt with
    | some due => t.addTimer due .cancel
    | none => t
  runAll (tasksOf t.stream) t

end Timeline

end Courier
