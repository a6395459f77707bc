/-
Publishers. Every instance that publishes has a pool of channels, and every
message goes over a channel of its instance's pool. A message first takes a
channel; one for an exchange then waits, with its channel, until the
consumers are ready. It is handed to the broker as often as its settings
grant, and its channel is given back.

A message whose instance has no pool and one that gets no channel fail.
All that goes wrong later is logged and nothing more: to the sender the
message was sent.

Each of these is one move, so that moves of different messages may come in
any order between them. How a channel is made and what the broker answers
is part of a move.
-/
import Courier.Network
import Courier.Pool
import Courier.Retry

namespace Courier

/-- What sending a message has come to. A message with a channel is a taker
in the pool of its instance. -/
inductive SendPhase where
  /-- Takes a channel. -/
  | taking (taker : Nat)
  /-- Has a channel, and waits for the consumers to be ready. -/
  | gated (taker : Nat)
  /-- Is handed to the broker; this many attempts failed. -/
  | publishing (taker failed : Nat)
  /-- About to give its channel back. -/
  | returning (taker : Nat)
  /-- About to give the permit of its channel back. -/
  | restoring (taker : Nat)
  | finished (result : Except Failure Unit)

/-- A message that is sent. -/
structure Send where
  posting : Posting
  phase : SendPhase

/-- The publishing side of an instance. -/
structure Outlet where
  settings : Settings.Producer
  pool : Pool

/-- The publishing sides of all instances, and the messages that are sent. -/
structure Publisher where
  outlets : List (String × Outlet) := []
  /-- Whether the consumers are ready. -/
  ready : Bool := false
  sends : List Send := []

/-- What can happen to a publisher. -/
inductive PublisherMove where
  /-- A new message. -/
  | post (p : Posting)
  /-- The sending of a message goes on by itself. -/
  | advance (send : Nat)
  /-- The channel for a message is made. -/
  | made (send : Nat)
  /-- The making of the channel for a message fails. -/
  | unmade (send : Nat) (failure : Failure)
  /-- The broker takes a message. -/
  | accepted (send : Nat)
  /-- The broker does not take a message. -/
  | refused (send : Nat)
  /-- The consumers are ready. -/
  | fire
  /-- The pool of an instance is closed. -/
  | close (instanceName : String)

namespace Publisher

/-- The publishing sides of instances: a pool for each one that publishes.
There is no answer at all if one of them could not be counted. -/
def outletsOf : List Instance → Option (Except Failure (List (String × Outlet)))
  | [] => some (.ok [])
  | i :: rest =>
    match i.producer with
    | none => outletsOf rest
    | some settings => do
      match ← Pool.create settings.maxPoolLength.toNat with
      | .error f => some (.error f)
      | .ok pool =>
        let outlets ← outletsOf rest
        some (KeyedList.put i.name ⟨settings, pool⟩ <$> outlets)

/-- A publisher over instances. -/
def create (instances : List Instance) : Option (Except Failure Publisher) := do
  let outlets ← outletsOf instances
  some ((fun outlets => { outlets := outlets }) <$> outlets)

-- ================================================================ sends

def outlet? (p : Publisher) (name : String) : Option Outlet := KeyedList.get? name p.outlets

def setPool (p : Publisher) (name : String) (o : Outlet) (pool : Pool) : Publisher :=
  { p with outlets := KeyedList.put name { o with pool := pool } p.outlets }

def setPhase (p : Publisher) (k : Nat) (phase : SendPhase) : Publisher :=
  { p with sends := p.sends.modify k ({ · with phase := phase }) }

/-- Adds a message. -/
def addSend (p : Publisher) (s : Send) : Publisher := { p with sends := p.sends ++ [s] }

/-- A new message becomes a taker in the pool of its instance. -/
def post (p : Publisher) (posting : Posting) : Publisher :=
  match p.outlet? posting.instanceName with
  | none =>
    p.addSend ⟨posting, .finished (.error (.unknownInstance posting.instanceName))⟩
  | some o =>
    (p.addSend ⟨posting, .taking o.pool.takers.length⟩).setPool posting.instanceName o
      (o.pool.step .arrive)

/-- What a message does once it has a channel. -/
def afterTaking (target : Target) (taker : Nat) : SendPhase :=
  if target.isGated then .gated taker else .publishing taker 0

/-- A message that takes a channel makes a move in its pool, and goes on if
that gave it a channel or a failure. -/
def take (p : Publisher) (k taker : Nat) (posting : Posting) (m : PoolMove) :
    Option Publisher := do
  let o ← p.outlet? posting.instanceName
  let pool ← o.pool.step? m
  let p := p.setPool posting.instanceName o pool
  match pool.phase? taker with
  | some (.holding _) => some (p.setPhase k (afterTaking posting.target taker))
  | some (.failed f) => some (p.setPhase k (.finished (.error f)))
  | _ => some p

/-- A message that is done with its channel makes a move in its pool. -/
def leave (p : Publisher) (k : Nat) (posting : Posting) (m : PoolMove) (next : SendPhase) :
    Option Publisher := do
  let o ← p.outlet? posting.instanceName
  let pool ← o.pool.step? m
  some ((p.setPool posting.instanceName o pool).setPhase k next)

/-- What a message that takes a channel does next by itself. -/
def nextTake (p : Publisher) (taker : Nat) (posting : Posting) : Option PoolMove := do
  let o ← p.outlet? posting.instanceName
  match ← o.pool.phase? taker with
  | .asking | .queued | .granted => some (.ask taker)
  | .permitted => some (.pick taker)
  | .registering _ => some (.register taker)
  | _ => none

/-- The sending of a message goes on by itself, if it can. A message without
a payload is not handed to the broker. -/
def advance (p : Publisher) (k : Nat) : Option Publisher := do
  let s ← p.sends[k]?
  match s.phase with
  | .taking taker => p.take k taker s.posting (← p.nextTake taker s.posting)
  | .gated taker => if p.ready then some (p.setPhase k (.publishing taker 0)) else none
  | .publishing taker _ =>
    match s.posting.body with
    | .error _ => some (p.setPhase k (.returning taker))
    | .ok _ => none
  | .returning taker => p.leave k s.posting (.giveBack taker) (.restoring taker)
  | .restoring taker => p.leave k s.posting (.restore taker) (.finished (.ok ()))
  | .finished _ => none

/-- The making of a channel for a message comes to an end. -/
def endMaking (p : Publisher) (k : Nat) (m : Nat → PoolMove) : Option Publisher := do
  let s ← p.sends[k]?
  match s.phase with
  | .taking taker => p.take k taker s.posting (m taker)
  | _ => none

/-- The broker answers to a message. One it does not take is handed to it
again, as often as the settings grant. -/
def answered (p : Publisher) (k : Nat) (ok : Bool) : Option Publisher := do
  let s ← p.sends[k]?
  let o ← p.outlet? s.posting.instanceName
  match s.phase, s.posting.body with
  | .publishing taker failed, .ok _ =>
    if !ok && failed < o.settings.maxRetryCount.toNat then
      some (p.setPhase k (.publishing taker (failed + 1)))
    else some (p.setPhase k (.returning taker))
  | _, _ => none

/-- One move, if it is possible. -/
def step? (p : Publisher) : PublisherMove → Option Publisher
  | .post posting => some (p.post posting)
  | .advance k => p.advance k
  | .made k => p.endMaking k .made
  | .unmade k f => p.endMaking k (.unmade · f)
  | .accepted k => p.answered k true
  | .refused k => p.answered k false
  | .fire => some { p with ready := true }
  | .close name =>
    match p.outlet? name with
    | some o => some (p.setPool name o (o.pool.step .close))
    | none => none

/-- A move that is made where it is possible, and nothing elsewhere. -/
def step (p : Publisher) (m : PublisherMove) : Publisher := (p.step? m).getD p

/-- What sending a message came to, if it has ended. -/
def result? (p : Publisher) (k : Nat) : Option (Except Failure Unit) :=
  match p.sends[k]? with
  | some ⟨_, .finished result⟩ => some result
  | _ => none

/-- Publishers that can come about over instances. -/
inductive Reachable (instances : List Instance) : Publisher → Prop where
  | start {p : Publisher} : create instances = some (.ok p) → Reachable instances p
  | step {p p' : Publisher} (m : PublisherMove) :
    Reachable instances p → p.step? m = some p' → Reachable instances p'

-- ================================================================= logs

/-- What is logged of a connection that gives no channel to publish over. -/
def channelLog (instanceName : String) : LogEvent where
  level := .error
  target := .producer
  message := "error to create the publishing channel"
  values := [("instance", .text instanceName)]

/-- Where a message goes, as logs show it. -/
def addressValues (p : Posting) : List (String × LogValue) := [
  ("instance", .text p.instanceName),
  ("exchange", .text p.target.exchangeName),
  ("routing_key", .text p.target.key),
  ("message_type", .text p.messageType)]

/-- What is logged of a message that was sent. -/
def sentLog (p : Posting) : LogEvent where
  level := .info
  target := .producer
  message := "message published"
  values := addressValues p

/-- What is logged of a message that was not sent. -/
def unsentLog (p : Posting) (f : Failure) : LogEvent where
  level := .error
  target := .producer
  message := "failure to publish message"
  values := ("error", .text f.message) :: addressValues p

/-- What is logged of a message without a written form. -/
def unwritableLog : LogEvent where
  level := .error
  target := .payload
  message := "failure to serialize payload"

/-- What is logged when the sending of a message goes on by itself. -/
def advanceLogs (p : Publisher) (k : Nat) : List LogEvent :=
  match p.sends[k]? with
  | some ⟨posting, .publishing _ _⟩ =>
    match posting.body with
    | .error f => [unwritableLog, unsentLog posting f]
    | .ok _ => []
  | _ => []

/-- What is logged of the broker's answer to a message. -/
def answeredLogs (p : Publisher) (k : Nat) (ok : Bool) : List LogEvent :=
  match p.sends[k]? with
  | some ⟨posting, .publishing _ failed⟩ =>
    match p.outlet? posting.instanceName with
    | none => []
    | some o =>
      if ok then [sentLog posting]
      else if failed < o.settings.maxRetryCount.toNat then
        [republishLog o.settings .publishRefused (failed + 1)]
      else [unsentLog posting .publishRefused]
  | _ => []

/-- What is logged of a move. -/
def logs (p : Publisher) : PublisherMove → List LogEvent
  | .advance k => p.advanceLogs k
  | .accepted k => p.answeredLogs k true
  | .refused k => p.answeredLogs k false
  | _ => []

end Publisher

end Courier
