/-
A relay in use, in a network that answers at once. Requests are taken one
after another, and each is brought as far as it comes: to its end, or to
where it waits for something that only a later request can bring about.
-/
import Courier.Connections.Session
import Courier.Relay

namespace Courier

/-- A relay, the network it goes to, and what was logged so far. -/
structure RelaySession (σ : Type) where
  relay : Relay
  network : σ
  /-- The trace that publications are made within. -/
  trace : List (String × String) := []
  logs : List LogEvent := []

namespace RelaySession

variable {σ : Type}

/-- Makes a move and logs it. -/
def move (s : RelaySession σ) (m : RelayMove) : RelaySession σ :=
  { s with relay := s.relay.step m, logs := s.logs ++ s.relay.logs m }

def log (s : RelaySession σ) (es : List LogEvent) : RelaySession σ :=
  { s with logs := s.logs ++ es }

/-- Asks the broker of an instance. -/
def ask (net : Network σ) (s : RelaySession σ) (name : String) (r : Request) :
    Bool × RelaySession σ :=
  let (ok, network) := net.ask s.network name r
  (ok, { s with network := network })

-- ============================================================= channels

/-- Uses the connections of the relay. -/
def withConnections {α : Type} (s : RelaySession σ)
    (use : ConnectionSession σ → ConnectionSession σ × α) : RelaySession σ × α :=
  let (cs, a) := use { connections := s.relay.connections, network := s.network }
  let relay := { s.relay with connections := cs.connections }
  ({ s with relay := relay, network := cs.network }.log cs.logs, a)

/-- Gets a channel to the broker of an instance; `refusal` is what is logged
of a connection that gives none. There is no answer if the connection is
still waited for. -/
def channel (net : Network σ) (s : RelaySession σ) (i : Instance) (refusal : LogEvent) :
    RelaySession σ × Option (Except Failure Unit) :=
  match s.withConnections (·.get net i) with
  | (s, none) => (s, none)
  | (s, some (.error f)) => (s, some (.error f))
  | (s, some (.ok _)) =>
    match s.ask net i.name .openChannel with
    | (true, s) => (s, some (.ok ()))
    | (false, s) => (s.log [refusal], some (.error .channelRefused))

-- ========================================================= publications

/-- Whether the channel for a message is made now. -/
def isMaking (s : RelaySession σ) (posting : Posting) (taker : Nat) : Bool :=
  match (s.relay.publisher.outlet? posting.instanceName).bind (·.pool.phase? taker) with
  | some (.making _) => true
  | _ => false

/-- Makes the channel for a message. -/
def makeChannel (net : Network σ) (s : RelaySession σ) (k : Nat) (posting : Posting) :
    RelaySession σ :=
  match s.relay.instances.find? (·.name == posting.instanceName) with
  | none => s
  | some i =>
    match s.channel net i (Publisher.channelLog i.name) with
    | (s, some (.ok ())) => s.move (.publish (.made k))
    | (s, some (.error f)) => s.move (.publish (.unmade k f))
    | (s, none) => s

/-- Hands a message to the broker. -/
def handOver (net : Network σ) (s : RelaySession σ) (k : Nat) (posting : Posting)
    (body : List UInt8) : RelaySession σ :=
  match s.ask net posting.instanceName (.publish (posting.publication s.trace body)) with
  | (true, s) => s.move (.publish (.accepted k))
  | (false, s) => s.move (.publish (.refused k))

/-- Lets the sending of a message go on. -/
def stepSend (net : Network σ) (s : RelaySession σ) (k : Nat) : RelaySession σ :=
  match s.relay.publisher.sends[k]? with
  | some ⟨posting, .taking taker⟩ =>
    if s.isMaking posting taker then s.makeChannel net k posting
    else s.move (.publish (.advance k))
  | some ⟨posting, .publishing _ _⟩ =>
    match posting.body with
    | .ok body => s.handOver net k posting body
    | .error _ => s.move (.publish (.advance k))
  | _ => s.move (.publish (.advance k))

/-- Lets the sending of a message go on that many times. -/
def runSend (net : Network σ) (s : RelaySession σ) (k : Nat) : Nat → RelaySession σ
  | 0 => s
  | n + 1 => (s.stepSend net k).runSend net k n

/-- A number of moves in which a message is sent, if nothing is waited for:
four to its channel, one through the gate, one for each attempt, and two to
give the channel back. -/
def sendLength (s : RelaySession σ) (posting : Posting) : Nat :=
  let retries :=
    match s.relay.publisher.outlet? posting.instanceName with
    | some o => o.settings.maxRetryCount.toNat
    | none => 0
  4 + 1 + (retries + 1) + 2

/-- Lets all messages go on that can, in the order in which they came. -/
def resume (net : Network σ) (s : RelaySession σ) : RelaySession σ :=
  s.relay.publisher.sends.zipIdx.foldl
    (fun s (send, k) => s.runSend net k (s.sendLength send.posting)) s

/-- Sends a message. There is no result while it waits. -/
def post (net : Network σ) (s : RelaySession σ) (posting : Posting) :
    RelaySession σ × Option (Except Failure Unit) :=
  let k := s.relay.publisher.sends.length
  let s := (s.move (.publish (.post posting))).resume net
  (s, s.relay.publisher.result? k)

-- =============================================================== starts

/-- What is logged of a connection that gives no channel to consume over. -/
def consumerChannelLog : LogEvent where
  level := .error
  target := .consumer
  message := "error to create the consumer channel"

/-- Does a job. -/
def perform (net : Network σ) (s : RelaySession σ) (j : Job) :
    RelaySession σ × Option (Except Failure Unit) :=
  match j.task with
  | .connect => s.channel net j.owner consumerChannelLog
  | .declare _ _ plan =>
    let (result, network) := (net.channel j.owner.name).install s.network plan.operations
    ({ s with network := network }, some result)
  | .consume _ sub queue =>
    let (result, network) := net.subscribe s.network j.owner.name sub queue
    ({ s with network := network }, some result)

/-- Lets a start go on. -/
def stepStart (net : Network σ) (s : RelaySession σ) (k : Nat) : RelaySession σ :=
  match s.relay.starts[k]? with
  | some (.passing (j :: _) _) =>
    match s.perform net j with
    | (s, some (.ok ())) => s.move (.jobDone k)
    | (s, some (.error f)) => s.move (.jobFailed k f)
    | (s, none) => s
  | _ => s.move (.advanceStart k)

/-- Lets a start go on that many times. -/
def runStart (net : Network σ) (s : RelaySession σ) (k : Nat) : Nat → RelaySession σ
  | 0 => s
  | n + 1 => (s.stepStart net k).runStart net k n

/-- Starts the relay. A start has its jobs to do, and makes two moves before
them and two after; messages that waited for it then go on. -/
def start (net : Network σ) (s : RelaySession σ) :
    RelaySession σ × Option (Except Failure Nat) :=
  let k := s.relay.starts.length
  let s := (s.move .start).runStart net k ((Job.all s.relay.instances).length + 4)
  let s := s.resume net
  (s, s.relay.started? k)

-- ============================================================= stopping

/-- Lets every listener look at its token. -/
def lookAll (s : RelaySession σ) : RelaySession σ :=
  s.relay.intakes.foldl (fun s (name, t) =>
    (List.range t.readers.length).foldl (fun s n => s.move (.consume name (.listen n .look))) s) s

/-- Cancels the token. -/
def cancelToken (s : RelaySession σ) : RelaySession σ := (s.move .cancelToken).lookAll

/-- Brings the disposal of the connections to its end. -/
def finishDisposal (s : RelaySession σ) (d : Nat) : RelaySession σ :=
  (s.withConnections fun cs =>
    (cs.runDisposal d (cs.connections.index.length + 3), ())).1

/-- Lets a shutdown go on. -/
def stepShutdown (s : RelaySession σ) (k : Nat) : RelaySession σ :=
  match s.relay.shutdowns[k]? with
  | some .waiting => s.lookAll.move (.advanceShutdown k)
  | some (.disposing d) => (s.finishDisposal d).move (.advanceShutdown k)
  | _ => s.move (.advanceShutdown k)

/-- Lets a shutdown go on that many times. -/
def runShutdown (s : RelaySession σ) (k : Nat) : Nat → RelaySession σ
  | 0 => s
  | n + 1 => (s.stepShutdown k).runShutdown k n

/-- Shuts the relay down. A shutdown closes the pools of all instances, and
makes three moves before that and two after. -/
def shutdown (s : RelaySession σ) : RelaySession σ × Option (Except Failure Unit) :=
  let k := s.relay.shutdowns.length
  let s := (s.move .shutdown).runShutdown k (s.relay.publisher.outlets.length + 5)
  (s, s.relay.stopped? k)

end RelaySession

end Courier
