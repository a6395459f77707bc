/-
The startup pass as a list of jobs. An instance that consumes has to get a
channel, then every subscription has its plan installed, and then every
subscription begins to consume. A job that fails is logged, and the jobs
that build on it are left out: all others of the instance if it got no
channel, and the consuming of a subscription whose plan was not installed.
Jobs of different instances never build on each other.
-/
import Courier.Listener
import Courier.Startup

namespace Courier

open Courier.Topology (Plan)

/-- What is to be done for an instance. Subscriptions are known by their
position. -/
inductive Task where
  /-- Get a channel. -/
  | connect
  /-- Install the plan of a subscription. -/
  | declare (position : Nat) (s : Subscription) (plan : Plan)
  /-- Begin to consume the queue of a subscription. -/
  | consume (position : Nat) (s : Subscription) (queue : String)

/-- One job of the startup pass. -/
structure Job where
  owner : Instance
  task : Task

namespace Job

/-- The jobs of an instance with a consumer role. -/
def ofConsumer (i : Instance) (c : ConsumerRole) : List Job :=
  let plans := c.subscriptions.zipIdx.map fun (s, n) => (n, s, Plan.ofSubscription s c.settings)
  ⟨i, .connect⟩ :: plans.map (fun (n, s, plan) => ⟨i, .declare n s plan⟩)
    ++ plans.map fun (n, s, plan) => ⟨i, .consume n s plan.queue⟩

/-- The jobs of an instance. -/
def ofInstance (i : Instance) : List Job :=
  match i.consumer with
  | some c => ofConsumer i c
  | none => []

/-- The jobs of the startup pass, in order. -/
def all (instances : List Instance) : List Job := instances.flatMap ofInstance

/-- Whether a job builds on another one. -/
def buildsOn (j other : Job) : Bool :=
  j.owner.name == other.owner.name &&
    match other.task, j.task with
    | .connect, _ => true
    | .declare n _ _, .consume m _ _ => n == m
    | _, _ => false

-- ================================================================= logs

/-- What is logged of an instance that got no channel. -/
def instanceFailureLog (name : String) (f : Failure) : LogEvent where
  level := .error
  target := .consumer
  message := "failure to start the consumers of the instance"
  values := [("error", .text f.message), ("instance", .text name)]

/-- What is logged of a consumer that began. -/
def registeredLog (queue : String) : LogEvent where
  level := .info
  target := .consumer
  message := "consumer registered"
  values := [("queue", .text queue), ("state", .text ListenerState.registered.name)]

/-- What is logged of a subscription that consumes. -/
def createdLog (name : String) (s : Subscription) : LogEvent where
  level := .info
  target := .consumer
  message := "consumer created"
  values := [("instance", .text name), ("subscription", .text s.name)]

/-- What is logged of a refusal at a queue. -/
def refusalLogs : Failure → List LogEvent
  | .qosRefused queue => [{
      level := .error
      target := .consumer
      message := "error to set the prefetch"
      values := [("queue", .text queue)] }]
  | .consumerRefused queue => [{
      level := .error
      target := .consumer
      message := "error to create the consumer"
      values := [("queue", .text queue)] }]
  | _ => []

/-- What is logged of a subscription that does not consume. -/
def consumerFailureLog (name : String) (s : Subscription) (f : Failure) : LogEvent where
  level := .error
  target := .consumer
  message := "failure to create consumer"
  values := [
    ("error", .text f.message),
    ("instance", .text name),
    ("subscription", .text s.name)]

/-- What is logged of a job that was done. -/
def doneLogs (j : Job) : List LogEvent :=
  match j.task with
  | .connect => []
  | .declare _ s _ => [creatingLog j.owner.name s]
  | .consume _ s queue => [registeredLog queue, createdLog j.owner.name s]

/-- What is logged of a job that failed. -/
def failedLogs (j : Job) (f : Failure) : List LogEvent :=
  match j.task with
  | .connect => [instanceFailureLog j.owner.name f]
  | .declare _ s _ => [creatingLog j.owner.name s, setupFailureLog j.owner.name s f]
  | .consume _ s _ => refusalLogs f ++ [consumerFailureLog j.owner.name s f]

end Job

end Courier
