/-
Brokers as the library sees them: each is asked for one thing at a time and
accepts or refuses it. A network answers for the brokers of all instances
and remembers what it was asked; nothing is said about why it refuses, and
a refusal may change what it answers later.
-/
import Courier.Publication
import Courier.Topology.Channel

namespace Courier

/-- What the broker of an instance is asked for. -/
inductive Request where
  /-- A connection. -/
  | connect
  /-- A channel on the connection. -/
  | openChannel
  /-- A declaration or a binding. -/
  | perform (op : Topology.Operation)
  /-- How many deliveries of the next consumer may be unsettled. -/
  | prefetch (count : UInt16)
  /-- The deliveries of a queue. -/
  | consume (queue : String)
  | publish (p : Publication)

/-- The brokers of all instances, with a state of type `σ`: whether one
accepts a request, and the state after that. -/
structure Network (σ : Type) where
  ask : σ → String → Request → Bool × σ
  /-- Why a broker that refuses a connection cannot be reached. -/
  reason : String

namespace Network

/-- A channel to the broker of an instance, for declarations and bindings. -/
def channel {σ : Type} (net : Network σ) (instanceName : String) : Topology.Channel σ where
  ask s op := net.ask s instanceName (.perform op)

/-- The network in which no broker can be reached. -/
def unreachable (reason : String) : Network Unit where
  ask s _ _ := (false, s)
  reason := reason

end Network

end Courier
