/-
Relays. A relay holds the connections, the publisher and the consumers of
all its instances, from its start to its shutdown.

A start makes one startup pass over the jobs of all instances and then lets
the publications for exchanges through. Only the first start counts, and
none does after a shutdown. Where no instance consumes, nothing is to be
set up, and publications are let through from the beginning.

A shutdown cancels the listeners and waits until nothing is consumed any
more; only then it closes the pools and the connections. Only the first
shutdown counts.

Each of these is one move, so that starts, shutdowns, publications and
consumers may come in any order between them. What the brokers answer is
part of a move.
-/
import Courier.Connections
import Courier.Intake
import Courier.Publisher
import Courier.Startup.Job

namespace Courier

/-- What a start has come to. -/
inductive StartPhase where
  /-- About to look whether the relay was shut down. -/
  | entering
  /-- About to claim the one start. -/
  | claiming
  /-- In the startup pass: the jobs left, and the listeners begun. -/
  | passing (jobs : List Job) (listeners : Nat)
  /-- About to report its end. -/
  | reporting (listeners : Nat)
  | finished (result : Except Failure Nat)
  /-- Given up. -/
  | dropped

/-- What a shutdown has come to. -/
inductive ShutdownPhase where
  /-- About to claim the one shutdown. -/
  | entering
  /-- About to cancel the listeners. -/
  | cancelling
  /-- Waits until nothing is consumed any more. -/
  | waiting
  /-- Closes the pools of these instances. -/
  | closing (instanceNames : List String)
  /-- Waits for the disposal of the connections. -/
  | disposing (disposal : Nat)
  | finished (result : Except Failure Unit)
  /-- Given up. -/
  | dropped

/-- A relay. Starts and shutdowns are known by their numbers. -/
structure Relay where
  instances : List Instance
  publisher : Publisher
  connections : Connections := {}
  /-- The consuming side of each instance that has begun to. -/
  intakes : List (String × Intake) := []
  started : Bool := false
  disposed : Bool := false
  /-- Whether the token that every listener and handler has was cancelled. -/
  cancelled : Bool := false
  starts : List StartPhase := []
  shutdowns : List ShutdownPhase := []

/-- What can happen to a relay. -/
inductive RelayMove where
  /-- A new start. -/
  | start
  /-- A start goes on by itself. -/
  | advanceStart (start : Nat)
  /-- A start has done its next job. -/
  | jobDone (start : Nat)
  /-- The next job of a start failed. -/
  | jobFailed (start : Nat) (failure : Failure)
  /-- A start is given up. -/
  | dropStart (start : Nat)
  /-- A new shutdown. -/
  | shutdown
  /-- A shutdown goes on. -/
  | advanceShutdown (shutdown : Nat)
  /-- A shutdown is given up. -/
  | dropShutdown (shutdown : Nat)
  /-- Somebody cancels the token. -/
  | cancelToken
  /-- Something happens to the publisher. -/
  | publish (m : PublisherMove)
  /-- Something happens to the connections. -/
  | connect (m : ConnectionMove)
  /-- Something happens to the listeners of an instance. -/
  | consume (instanceName : String) (m : IntakeMove)

namespace Relay

/-- Whether an instance consumes. -/
def consumes (i : Instance) : Bool := i.consumer.isSome

/-- A relay over instances, with nothing begun. -/
def create (b : Blueprint) : Option (Except Failure Relay) := do
  let publisher ← Publisher.create b.instances
  some <| publisher.map fun p =>
    { instances := b.instances
      publisher := { p with ready := !b.instances.any consumes } }

-- =============================================================== starts

def setStart (r : Relay) (k : Nat) (phase : StartPhase) : Relay :=
  { r with starts := r.starts.set k phase }

/-- What is reported of a start after the first one. -/
def startedTwice : Failure := .invalidConfiguration "the registry is already started"

/-- A start goes on by itself, if it can. -/
def advanceStart (r : Relay) (k : Nat) : Option Relay := do
  match ← r.starts[k]? with
  | .entering =>
    some (r.setStart k (if r.disposed then .finished (.error .alreadyDisposed) else .claiming))
  | .claiming =>
    if r.started then some (r.setStart k (.finished (.error startedTwice)))
    else some ({ r with started := true }.setStart k (.passing (Job.all r.instances) 0))
  | .passing [] listeners =>
    some ({ r with publisher := r.publisher.step .fire }.setStart k (.reporting listeners))
  | .reporting listeners => some (r.setStart k (.finished (.ok listeners)))
  | .passing (_ :: _) _ | .finished _ | .dropped => none

/-- The consuming side of an instance, for a move. -/
def setIntake (r : Relay) (name : String) (t : Intake) : Relay :=
  { r with intakes := KeyedList.put name t r.intakes }

/-- What a job that is done leaves behind: permits for the instance, or a
listener. -/
def perform (r : Relay) (j : Job) : Relay :=
  match j.task with
  | .connect =>
    r.setIntake j.owner.name
      { permits := j.owner.dispatchConcurrency.toNat, cancelled := r.cancelled }
  | .declare .. => r
  | .consume _ s queue =>
    match KeyedList.get? j.owner.name r.intakes with
    | some t => r.setIntake j.owner.name (t.consume s queue)
    | none => r

/-- How many listeners a job begins. -/
def listenersOf (j : Job) : Nat :=
  match j.task with
  | .consume .. => 1
  | _ => 0

/-- A start has done its next job. -/
def jobDone (r : Relay) (k : Nat) : Option Relay := do
  match ← r.starts[k]? with
  | .passing (j :: rest) listeners =>
    some ((r.perform j).setStart k (.passing rest (listeners + listenersOf j)))
  | _ => none

/-- The next job of a start failed; those that build on it are left out. -/
def jobFailed (r : Relay) (k : Nat) : Option Relay := do
  match ← r.starts[k]? with
  | .passing (j :: rest) listeners =>
    some (r.setStart k (.passing (rest.filter fun other => !other.buildsOn j) listeners))
  | _ => none

/-- A start is given up, wherever it is. -/
def dropStart (r : Relay) (k : Nat) : Option Relay := do
  match ← r.starts[k]? with
  | .finished _ | .dropped => none
  | _ => some (r.setStart k .dropped)

-- ============================================================ shutdowns

def setShutdown (r : Relay) (k : Nat) (phase : ShutdownPhase) : Relay :=
  { r with shutdowns := r.shutdowns.set k phase }

/-- Cancels the token of every listener and handler. -/
def cancelToken (r : Relay) : Relay :=
  { r with
    cancelled := true
    intakes := r.intakes.map fun (name, t) => (name, t.cancel) }

/-- Whether nothing is consumed any more. -/
def isIdle (r : Relay) : Bool := r.intakes.all (·.2.isIdle)

/-- A shutdown goes on, if it can. -/
def advanceShutdown (r : Relay) (k : Nat) : Option Relay := do
  match ← r.shutdowns[k]? with
  | .entering =>
    if r.disposed then some (r.setShutdown k (.finished (.error .alreadyDisposed)))
    else some ({ r with disposed := true }.setShutdown k .cancelling)
  | .cancelling => some (r.cancelToken.setShutdown k .waiting)
  | .waiting =>
    if r.isIdle then some (r.setShutdown k (.closing (r.publisher.outlets.map Prod.fst)))
    else none
  | .closing (name :: rest) =>
    some ({ r with publisher := r.publisher.step (.close name) }.setShutdown k (.closing rest))
  | .closing [] =>
    some ({ r with connections := r.connections.step .dispose }.setShutdown k
      (.disposing r.connections.disposals.length))
  | .disposing d => some (r.setShutdown k (.finished (← r.connections.disposed? d)))
  | .finished _ | .dropped => none

/-- A shutdown is given up, wherever it is. -/
def dropShutdown (r : Relay) (k : Nat) : Option Relay := do
  match ← r.shutdowns[k]? with
  | .finished _ | .dropped => none
  | _ => some (r.setShutdown k .dropped)

-- ================================================================ moves

/-- Something happens to the publisher. It is only the relay that lets
publications through and closes pools. -/
def publish (r : Relay) (m : PublisherMove) : Option Relay := do
  match m with
  | .fire | .close _ => none
  | _ => some { r with publisher := ← r.publisher.step? m }

/-- Something happens to the connections. It is only the relay that disposes
them. -/
def connect (r : Relay) (m : ConnectionMove) : Option Relay := do
  match m with
  | .dispose => none
  | _ => some { r with connections := ← r.connections.step? m }

/-- Something happens to the listeners of an instance. It is only the relay
that begins and cancels them. -/
def consume (r : Relay) (name : String) (m : IntakeMove) : Option Relay := do
  match m with
  | .limit _ | .register .. | .cancel => none
  | _ => some (r.setIntake name (← (← KeyedList.get? name r.intakes).step? m))

/-- One move, if it is possible. -/
def step? (r : Relay) : RelayMove → Option Relay
  | .start => some { r with starts := r.starts ++ [.entering] }
  | .advanceStart k => r.advanceStart k
  | .jobDone k => r.jobDone k
  | .jobFailed k _ => r.jobFailed k
  | .dropStart k => r.dropStart k
  | .shutdown => some { r with shutdowns := r.shutdowns ++ [.entering] }
  | .advanceShutdown k => r.advanceShutdown k
  | .dropShutdown k => r.dropShutdown k
  | .cancelToken => some r.cancelToken
  | .publish m => r.publish m
  | .connect m => r.connect m
  | .consume name m => r.consume name m

/-- A move that is made where it is possible, and nothing elsewhere. -/
def step (r : Relay) (m : RelayMove) : Relay := (r.step? m).getD r

/-- What a start came to, if it has ended: the number of listeners. -/
def started? (r : Relay) (k : Nat) : Option (Except Failure Nat) :=
  match r.starts[k]? with
  | some (.finished result) => some result
  | _ => none

/-- What a shutdown came to, if it has ended. -/
def stopped? (r : Relay) (k : Nat) : Option (Except Failure Unit) :=
  match r.shutdowns[k]? with
  | some (.finished result) => some result
  | _ => none

/-- Relays that can come about from a blueprint. -/
inductive Reachable (b : Blueprint) : Relay → Prop where
  | start {r : Relay} : create b = some (.ok r) → Reachable b r
  | step {r r' : Relay} (m : RelayMove) :
    Reachable b r → r.step? m = some r' → Reachable b r'

-- ================================================================= logs

/-- What is logged of a start that made its pass. -/
def startedLog (instances listeners : Nat) : LogEvent where
  level := .info
  target := .registry
  message := "relay started"
  values := [("instances", .number instances), ("listeners", .number listeners)]

/-- What is logged of a shutdown that closed everything. -/
def stoppedLog : LogEvent where
  level := .info
  target := .registry
  message := "relay stopped"

/-- What is logged when a start goes on by itself. -/
def startLogs (r : Relay) (k : Nat) : List LogEvent :=
  match r.starts[k]? with
  | some (.reporting listeners) => [startedLog r.instances.length listeners]
  | _ => []

/-- What is logged of a listener that a job begins. -/
def performLogs (r : Relay) (j : Job) : List LogEvent :=
  match j.task with
  | .consume _ s queue =>
    match KeyedList.get? j.owner.name r.intakes with
    | some t => t.logs (.register s queue)
    | none => []
  | _ => []

/-- What is logged of the next job of a start. -/
def jobLogs (r : Relay) (k : Nat) (result : Except Failure Unit) : List LogEvent :=
  match r.starts[k]?, result with
  | some (.passing (j :: _) _), .ok () => j.doneLogs ++ r.performLogs j
  | some (.passing (j :: _) _), .error f => j.failedLogs f
  | _, _ => []

/-- What is logged when a shutdown goes on. -/
def shutdownLogs (r : Relay) (k : Nat) : List LogEvent :=
  match r.shutdowns[k]? with
  | some (.disposing d) =>
    match r.connections.disposed? d with
    | some (.ok ()) => [stoppedLog]
    | _ => []
  | _ => []

/-- What is logged of a move. -/
def logs (r : Relay) : RelayMove → List LogEvent
  | .advanceStart k => r.startLogs k
  | .jobDone k => r.jobLogs k (.ok ())
  | .jobFailed k f => r.jobLogs k (.error f)
  | .advanceShutdown k => r.shutdownLogs k
  | .publish m => r.publisher.logs m
  | .connect m => r.connections.logs m
  | .consume name m => ((KeyedList.get? name r.intakes).map (·.logs m)).getD []
  | _ => []

end Relay

end Courier
