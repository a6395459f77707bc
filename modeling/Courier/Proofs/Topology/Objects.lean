/-
The plan of a subscription told by its objects: the exchanges and queues that
it sets up, each under the name that it has in the end and with the override
that it follows. Queues carry the arguments as well that are generated for
them; what a queue is declared with is what its override says and, for the
rest, what is generated (`QueueObject.get?_declared`).

Every plan is one of three lists (`operations_of_queue`, `operations_of_bare`,
`operations_of_cycle`). What is declared by it is read off there
(`declareExchange_mem_iff`, `declareQueue_mem_iff`), and so is that nothing is
referred to before it was declared (`inOrder_of_built`).
-/
import Courier.Proofs.Topology.Wiring
import Courier.Topology.Plan

namespace Courier.Topology

variable {s : Subscription} {o : ExchangeOptions} {c : Cycle}

-- ===================================================== statement vocabulary

/-- An exchange to set up: its name, and what it is declared by. -/
structure ExchangeObject where
  name : String
  override : Option Exchange

/-- A queue to set up, with the arguments that are generated for it. -/
structure QueueObject where
  name : String
  override : Option Queue
  generated : Arguments

/-- How an exchange is declared. -/
def ExchangeObject.declared (x : ExchangeObject) : Exchange :=
  { x.override.getD .template with name := some x.name }

/-- How a queue is declared. -/
def QueueObject.declared (x : QueueObject) : Queue :=
  { x.override.getD .template with
    name := some x.name
    arguments := x.generated.merge (x.override.getD .template).arguments }

/-- Where failed deliveries go in, and delayed ones out. -/
def startNameOf (c : Cycle) (group exchange : String) : String :=
  (c.startExchange.bind (·.name)).getD (startExchangeName group exchange)

def endNameOf (c : Cycle) (group exchange : String) : String :=
  (c.endExchange.bind (·.name)).getD (endExchangeName group exchange)

/-- The exchange that is subscribed to. -/
def sourceExchange (s : Subscription) (o : ExchangeOptions) : ExchangeObject := ⟨s.name, o.exchange⟩

def startExchange (group : String) (s : Subscription) (c : Cycle) : ExchangeObject :=
  ⟨startNameOf c group s.name, c.startExchange⟩

def endExchange (group : String) (s : Subscription) (c : Cycle) : ExchangeObject :=
  ⟨endNameOf c group s.name, c.endExchange⟩

/-- A queue that is subscribed to is taken as it is. -/
def sourceQueue (s : Subscription) : QueueObject := ⟨s.name, none, .empty⟩

/-- The main queue of an exchange without a cycle. -/
def bareQueue (group : String) (s : Subscription) (o : ExchangeOptions) : QueueObject :=
  ⟨Queue.nameOr o.queue (mainQueueName group s.name), o.queue, .empty⟩

/-- The main queue in a cycle rejects into its start exchange. -/
def mainQueue (group : String) (s : Subscription) (o : ExchangeOptions) (c : Cycle) :
    QueueObject where
  name := Queue.nameOr o.queue (mainQueueName group s.name)
  override := o.queue
  generated := .ofList [(deadLetterExchangeKey, .text (startNameOf c group s.name))]

/-- The error queue expires into the end exchange once the delay is over. -/
def errorQueue (group : String) (s : Subscription) (c : Cycle) : QueueObject where
  name := Queue.nameOr c.errorQueue (errorQueueName group s.name)
  override := c.errorQueue
  generated := .ofList [(messageTtlKey, .int32 (.ofNat c.delay.millis)),
    (deadLetterExchangeKey, .text (endNameOf c group s.name))]

/-- The exchanges of a subscription. -/
def exchangeObjects (group : String) (s : Subscription) : List ExchangeObject :=
  match s.source with
  | .queue => []
  | .exchange o => sourceExchange s o :: match o.deadLetter with
    | none => []
    | some c => [startExchange group s c, endExchange group s c]

/-- The queues of a subscription. -/
def queueObjects (group : String) (s : Subscription) : List QueueObject :=
  match s.source with
  | .queue => [sourceQueue s]
  | .exchange o => match o.deadLetter with
    | none => [bareQueue group s o]
    | some c => [errorQueue group s c, mainQueue group s o c]

/-- The operations of the plans of subscriptions, one plan after another. -/
def plannedOperations (settings : Settings.Consumer) (subs : List Subscription) :
    List Operation :=
  subs.flatMap fun s => (Plan.ofSubscription s settings).operations

-- ============================================================== the names

/-- Whatever is declared has the name of its override, or the generated one. -/
theorem name_exchangeOr (override : Option Exchange) (name : String) :
    (exchangeOr override name).name = some ((override.bind (·.name)).getD name) := by
  cases override with
  | none => rfl
  | some e => rfl

theorem name_queueOr (override : Option Queue) (name : String) (generated : Arguments) :
    (queueOr override name generated).name = some (Queue.nameOr override name) := by
  cases override with
  | none => rfl
  | some q => rfl

/-- A queue that was named already keeps that name. -/
theorem nameOr_nameOr (override : Option Queue) (name : String) :
    Queue.nameOr override (Queue.nameOr override name) = Queue.nameOr override name := by
  unfold Queue.nameOr
  cases override.bind (·.name) with
  | none => rfl
  | some given => rfl

/-- Building a subscription takes the name off the override of its exchange. -/
theorem exchange_unnamed (built : ∃ draft : Subscription, draft.build = .ok s)
    (source : s.source = .exchange o) : o.exchange.bind (·.name) = none := by
  obtain ⟨draft, built⟩ := built
  obtain ⟨_, -, same⟩ := bind_eq_ok_iff.1 built
  cases same
  cases drafted : draft.source with
  | queue =>
      rw [drafted] at source
      cases source
  | exchange options =>
      rw [drafted] at source
      cases source
      cases options.exchange with
      | none => rfl
      | some e => rfl

/-- The cycle of a subscription to an exchange is that of its options. -/
theorem deadLetter_of_source (source : s.source = .exchange o) : s.deadLetter = o.deadLetter := by
  rw [Subscription.deadLetter, source]

-- ============================================================= the objects

/-- An exchange is the object of its override, under the name that is given there or
derived. -/
theorem exchangeOr_eq (override : Option Exchange) (name : String) :
    exchangeOr override name
      = ExchangeObject.declared ⟨(override.bind (·.name)).getD name, override⟩ := by
  cases override with
  | none => rfl
  | some e => rfl

/-- So is a queue, with what was generated for it. -/
theorem queueOr_eq (override : Option Queue) (name : String) (generated : Arguments) :
    queueOr override name generated
      = QueueObject.declared ⟨Queue.nameOr override name, override, generated⟩ := by
  cases override with
  | none => rfl
  | some q => rfl

-- =========================================================== the arguments

/-- A queue has the arguments of its override, and those that are generated
for it where the override has none. -/
theorem QueueObject.get?_declared (x : QueueObject) (k : String) :
    x.declared.arguments.get? k
      = (x.override.bind (·.arguments.get? k)).or (x.generated.get? k) := by
  unfold QueueObject.declared
  rw [Arguments.get?_merge]
  cases x.override with
  | none => rfl
  | some q => rfl

/-- The main queue of a cycle has one generated argument: where it rejects to. -/
theorem get?_generated_mainQueue (group : String) (s : Subscription) (o : ExchangeOptions)
    (c : Cycle) (k : String) :
    (mainQueue group s o c).generated.get? k
      = if k = deadLetterExchangeKey then some (.text (startExchange group s c).name)
        else none :=
  Arguments.get?_ofList_append [] ..

/-- Its error queue has two: where it expires to, and after which time. -/
theorem get?_generated_errorQueue (group : String) (s : Subscription) (c : Cycle) (k : String) :
    (errorQueue group s c).generated.get? k
      = if k = deadLetterExchangeKey then some (.text (endExchange group s c).name)
        else if k = messageTtlKey then some (.int32 (.ofNat c.delay.millis)) else none := by
  have last := Arguments.get?_ofList_append [(messageTtlKey, .int32 (.ofNat c.delay.millis))]
    deadLetterExchangeKey (.text (endExchange group s c).name) k
  have first := Arguments.get?_ofList_append [] messageTtlKey (.int32 (.ofNat c.delay.millis)) k
  rw [List.nil_append] at first
  rw [first] at last
  exact last

-- ================================================================ the plan

variable (settings : Settings.Consumer)

/-- A queue is consumed under its own name. -/
theorem queue_of_queue (source : s.source = .queue) :
    (Plan.ofSubscription s settings).queue = s.name := by
  rw [Plan.ofSubscription, source]
  rfl

/-- The queue that is consumed for an exchange. -/
theorem queue_of_exchange (source : s.source = .exchange o) :
    (Plan.ofSubscription s settings).queue
      = Queue.nameOr o.queue (mainQueueName settings.group s.name) := by
  rw [Plan.ofSubscription, source]
  rfl

/-- The plan of a subscription to a queue declares the queue, and nothing more. -/
theorem operations_of_queue (source : s.source = .queue) :
    (Plan.ofSubscription s settings).operations = [.declareQueue (sourceQueue s).declared] := by
  rw [Plan.ofSubscription, source]
  rfl

section

variable (built : ∃ draft : Subscription, draft.build = .ok s) (source : s.source = .exchange o)
include built source

/-- The plan of one to an exchange without a cycle, by its objects. -/
theorem operations_of_bare (cycle : o.deadLetter = none) :
    (Plan.ofSubscription s settings).operations = [
      .declareExchange (sourceExchange s o).declared,
      .declareQueue (bareQueue settings.group s o).declared,
      .bindQueue (bindingOr o.binding (bareQueue settings.group s o).name s.name)] := by
  simp only [Plan.ofSubscription, source, Plan.ofExchange, cycle, exchangeOr_eq, queueOr_eq,
    exchange_unnamed built source, nameOr_nameOr]
  rfl

/-- The plan of one with a cycle, by its objects. -/
theorem operations_of_cycle (cycle : o.deadLetter = some c) :
    (Plan.ofSubscription s settings).operations = [
      .declareExchange (sourceExchange s o).declared,
      .declareExchange (startExchange settings.group s c).declared,
      .declareExchange (endExchange settings.group s c).declared,
      .declareQueue (errorQueue settings.group s c).declared,
      .bindQueue (bindingOr c.errorQueueBinding (errorQueue settings.group s c).name
        (startExchange settings.group s c).name),
      .declareQueue (mainQueue settings.group s o c).declared,
      .bindQueue (bindingOr c.mainQueueBinding (mainQueue settings.group s o c).name
        (endExchange settings.group s c).name),
      .bindQueue (bindingOr o.binding (mainQueue settings.group s o c).name s.name)] := by
  simp only [Plan.ofSubscription, source, Plan.ofExchange, cycle, cycleObjects, exchangeOr_eq,
    queueOr_eq, exchange_unnamed built source, nameOr_nameOr]
  rfl

end

variable (built : ∃ draft : Subscription, draft.build = .ok s)
include built

/-- The operations of a plan find what they refer to among those before them. -/
theorem inOrder_of_built : InOrder [] (Plan.ofSubscription s settings).operations := by
  cases source : s.source with
  | queue =>
      rw [operations_of_queue settings source]
      exact ⟨⟨_, rfl⟩, trivial⟩
  | exchange o =>
      cases cycle : o.deadLetter with
      | none =>
          rw [operations_of_bare settings built source cycle]
          refine ⟨⟨_, rfl⟩, ⟨_, rfl⟩, ⟨⟨_, ?_, rfl⟩, _, ?_, rfl⟩, trivial⟩
          all_goals simp [declaredQueues, declaredExchanges, ExchangeObject.declared,
            QueueObject.declared, sourceExchange]
      | some c =>
          rw [operations_of_cycle settings built source cycle]
          refine ⟨⟨_, rfl⟩, ⟨_, rfl⟩, ⟨_, rfl⟩, ⟨_, rfl⟩, ⟨⟨_, ?_, rfl⟩, _, ?_, rfl⟩, ⟨_, rfl⟩,
            ⟨⟨_, ?_, rfl⟩, _, ?_, rfl⟩, ⟨⟨_, ?_, rfl⟩, _, ?_, rfl⟩, trivial⟩
          all_goals simp [declaredQueues, declaredExchanges, ExchangeObject.declared,
            QueueObject.declared, sourceExchange]

end Courier.Topology
