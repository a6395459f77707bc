/-
Instances as they are described, and as they are once everything about
them was checked. An instance is a broker with the roles it is used in: it
consumes, it publishes, or both.

The first thing wrong is reported, in this order: the name, the connection,
the consumer with its subscriptions in order, the producer, the lack of
any role, the init operations.
-/
import Courier.Settings.Connection
import Courier.Settings.Consumer
import Courier.Settings.Producer
import Courier.Subscription
import Courier.Topology.Init

namespace Courier

open Courier.Topology (Init)

/-- The consumer role: settings, and subscriptions that fit them. -/
structure ConsumerRole where
  settings : Settings.Consumer
  subscriptions : List Subscription

/-- A consumer role as described; a subscription may be one that failed. -/
structure ConsumerDraft where
  settings : Settings.Consumer
  subscriptions : List (Except Failure Subscription)

namespace ConsumerDraft

/-- What is reported of a subscription above the ceiling of its consumer. -/
def tooParallel (s : Subscription) (settings : Settings.Consumer) : String :=
  "the max degree of parallelism of subscription `" ++ s.name ++ "` ("
    ++ String.ofList (Json.digits s.maxParallelism.toNat)
    ++ ") exceeds the consumer max degree of parallelism ("
    ++ String.ofList (Json.digits settings.maxParallelism.toNat) ++ ")"

/-- A subscription that did not fail and stays below the ceiling. -/
def acceptable (settings : Settings.Consumer) (s : Except Failure Subscription) :
    Except Failure Subscription := do
  let s ← s
  refuseIf (settings.maxParallelism < s.maxParallelism) (tooParallel s settings)
  return s

/-- Checks the settings, then every subscription. -/
def build (d : ConsumerDraft) : Except Failure ConsumerRole := do
  d.settings.check
  let subscriptions ← d.subscriptions.mapM (acceptable d.settings)
  return ⟨d.settings, subscriptions⟩

end ConsumerDraft

/-- An instance whose description was checked. -/
structure Instance where
  name : String
  connection : Settings.Connection
  consumer : Option ConsumerRole
  producer : Option Settings.Producer
  init : Option Init

/-- The name of an instance that was given none. -/
def defaultInstanceName : String := "Default"

/-- How many deliveries of an instance are processed at once. -/
def Instance.dispatchConcurrency (i : Instance) : UInt16 :=
  match i.consumer with
  | some c => c.settings.maxParallelism
  | none => 1

/-- The operations an instance asks for once it has connected. -/
def Instance.initOperations (i : Instance) : List Topology.Operation :=
  match i.init with
  | some init => init.ordered
  | none => []

/-- An instance as described. -/
structure InstanceDraft where
  name : String := defaultInstanceName
  connection : Settings.Connection := {}
  consumer : Option ConsumerDraft := none
  producer : Option Settings.Producer := none
  init : Option Init := none

namespace InstanceDraft

/-- Builds something optional. -/
def buildSome {α β : Type} (build : α → Except Failure β) :
    Option α → Except Failure (Option β)
  | some a => some <$> build a
  | none => .ok none

/-- What is reported of an instance without a role. -/
def noRole (name : String) : String :=
  "instance `" ++ name ++ "` must be configured as a consumer, a producer or both"

/-- The producer settings themselves, if they pass their check. -/
def buildProducer (p : Settings.Producer) : Except Failure Settings.Producer := do
  p.check
  return p

/-- Checks an instance. -/
def build (d : InstanceDraft) : Except Failure Instance := do
  required "instance name" d.name
  d.connection.check
  let consumer ← buildSome ConsumerDraft.build d.consumer
  let producer ← buildSome buildProducer d.producer
  refuseIf (consumer.isNone && producer.isNone) (noRole d.name)
  let init ← buildSome Init.build d.init
  return ⟨d.name, d.connection, consumer, producer, init⟩

end InstanceDraft

end Courier
