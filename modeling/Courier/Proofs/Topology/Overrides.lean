/-
The overrides of a subscription to an exchange. Each object of its plan is
declared as its own override says, by the defaults where there is none, and
no other override has a part in it.

# What an object takes from its override

Its flags, its kind or its routing key, and its arguments, a key at a time; a
queue has those arguments as well that are generated for it and that its
override does not have (`Operation.SetsUp`). Its name it takes from the
override if that has one, except that the exchange that is subscribed to is
named by the subscription, and that bindings are between the objects as they
were declared.

# What it does not take

Two subscriptions that differ in one override, and not in the name that it
carries, have the same operations but for one (`DiffersIn.operations`). That
is where a name differs from the rest of an override: it is referred to by
other operations.
-/
import Courier.Proofs.Topology.Cycles

namespace Courier.Topology

-- ===================================================== statement vocabulary

/-- A binding to set up: what it is between, and what it is set up by. -/
structure BindingObject where
  queue : String
  exchange : String
  override : Option QueueBinding

/-- An object to set up. -/
inductive Object where
  | exchange (x : ExchangeObject)
  | queue (x : QueueObject)
  | binding (x : BindingObject)

/-- The objects of a subscription to an exchange, in the order of its plan. -/
def objectsOf (group : String) (s : Subscription) (o : ExchangeOptions) : List Object :=
  match o.deadLetter with
  | none => [
      .exchange (sourceExchange s o),
      .queue (bareQueue group s o),
      .binding ⟨(bareQueue group s o).name, s.name, o.binding⟩]
  | some c => [
      .exchange (sourceExchange s o),
      .exchange (startExchange group s c),
      .exchange (endExchange group s c),
      .queue (errorQueue group s c),
      .binding ⟨(errorQueue group s c).name, (startExchange group s c).name, c.errorQueueBinding⟩,
      .queue (mainQueue group s o c),
      .binding ⟨(mainQueue group s o c).name, (endExchange group s c).name, c.mainQueueBinding⟩,
      .binding ⟨(mainQueue group s o c).name, s.name, o.binding⟩]

/-- An exchange declared as its override says, or by the defaults. -/
structure Exchange.Follows (e : Exchange) (x : ExchangeObject) : Prop where
  name : e.name = some x.name
  kind : e.kind = (x.override.map (·.kind)).getD .fanout
  durable : e.durable = (x.override.map (·.durable)).getD true
  autoDelete : e.autoDelete = (x.override.map (·.autoDelete)).getD false
  arguments : ∀ k, e.arguments.get? k = x.override.bind (·.arguments.get? k)

/-- A queue declared as its override says, or by the defaults, with the
generated arguments that the override does not have. -/
structure Queue.Follows (q : Queue) (x : QueueObject) : Prop where
  name : q.name = some x.name
  durable : q.durable = (x.override.map (·.durable)).getD true
  exclusive : q.exclusive = (x.override.map (·.exclusive)).getD false
  autoDelete : q.autoDelete = (x.override.map (·.autoDelete)).getD false
  arguments : ∀ k, q.arguments.get? k
    = (x.override.bind (·.arguments.get? k)).or (x.generated.get? k)

/-- A binding with the routing key and the arguments of its override, or the
defaults, between the given objects. -/
structure QueueBinding.Follows (b : QueueBinding) (x : BindingObject) : Prop where
  queue : b.queue = some x.queue
  exchange : b.exchange = some x.exchange
  routingKey : b.routingKey = (x.override.map (·.routingKey)).getD ""
  arguments : ∀ k, b.arguments.get? k = x.override.bind (·.arguments.get? k)

/-- An operation that sets up an object as its override says. -/
def Operation.SetsUp : Operation → Object → Prop
  | .declareExchange e, .exchange x => e.Follows x
  | .declareQueue q, .queue x => q.Follows x
  | .bindQueue b, .binding x => b.Follows x
  | _, _ => False

/-- What can be overridden for a subscription to an exchange. -/
inductive Overridden where
  | exchange
  | queue
  | binding
  | startExchange
  | endExchange
  | errorQueue
  | errorQueueBinding
  | mainQueueBinding

/-- The place of the object in the plan, with a cycle or without one. -/
def Overridden.place (cyclic : Bool) : Overridden → Nat
  | .exchange => 0
  | .startExchange => 1
  | .endExchange => 2
  | .errorQueue => 3
  | .errorQueueBinding => 4
  | .queue => if cyclic then 5 else 1
  | .mainQueueBinding => 6
  | .binding => if cyclic then 7 else 2

/-- Options that differ in one override, and not in the name that others
refer to the object by. -/
inductive DiffersIn : Overridden → ExchangeOptions → ExchangeOptions → Prop where
  | exchange {o : ExchangeOptions} (e : Option Exchange) :
    DiffersIn .exchange o { o with exchange := e }
  | queue {o : ExchangeOptions} (q : Option Queue)
    (same : q.bind (·.name) = o.queue.bind (·.name)) : DiffersIn .queue o { o with queue := q }
  | binding {o : ExchangeOptions} (b : Option QueueBinding) :
    DiffersIn .binding o { o with binding := b }
  | startExchange {o : ExchangeOptions} {c : Cycle} (e : Option Exchange)
    (cycle : o.deadLetter = some c) (same : e.bind (·.name) = c.startExchange.bind (·.name)) :
    DiffersIn .startExchange o { o with deadLetter := some { c with startExchange := e } }
  | endExchange {o : ExchangeOptions} {c : Cycle} (e : Option Exchange)
    (cycle : o.deadLetter = some c) (same : e.bind (·.name) = c.endExchange.bind (·.name)) :
    DiffersIn .endExchange o { o with deadLetter := some { c with endExchange := e } }
  | errorQueue {o : ExchangeOptions} {c : Cycle} (q : Option Queue)
    (cycle : o.deadLetter = some c) (same : q.bind (·.name) = c.errorQueue.bind (·.name)) :
    DiffersIn .errorQueue o { o with deadLetter := some { c with errorQueue := q } }
  | errorQueueBinding {o : ExchangeOptions} {c : Cycle} (b : Option QueueBinding)
    (cycle : o.deadLetter = some c) :
    DiffersIn .errorQueueBinding o { o with deadLetter := some { c with errorQueueBinding := b } }
  | mainQueueBinding {o : ExchangeOptions} {c : Cycle} (b : Option QueueBinding)
    (cycle : o.deadLetter = some c) :
    DiffersIn .mainQueueBinding o { o with deadLetter := some { c with mainQueueBinding := b } }

variable {s s' : Subscription} {o o' : ExchangeOptions} {c : Cycle}

-- ======================================================== one object at a time

/-- An exchange is declared as its own override says. -/
theorem ExchangeObject.follows (x : ExchangeObject) : x.declared.Follows x := by
  unfold ExchangeObject.declared
  refine ⟨rfl, ?_, ?_, ?_, fun k => ?_⟩
  all_goals cases x.override <;> rfl

/-- So is a queue, whatever was generated for it. -/
theorem QueueObject.follows (x : QueueObject) : x.declared.Follows x := by
  refine ⟨rfl, ?_, ?_, ?_, x.get?_declared⟩
  all_goals
    unfold QueueObject.declared
    cases x.override <;> rfl

/-- A binding is the one that overrides it, or goes from its exchange to its queue
with no key. -/
theorem bindingOr_follows (override : Option QueueBinding) (queue exchange : String) :
    (bindingOr override queue exchange).Follows ⟨queue, exchange, override⟩ := by
  refine ⟨rfl, rfl, ?_, fun k => ?_⟩
  all_goals cases override <;> rfl

/-- Each operation of a plan sets up its object. -/
theorem setsUp_of_built (settings : Settings.Consumer)
    (built : ∃ draft : Subscription, draft.build = .ok s) (source : s.source = .exchange o) :
    List.Forall₂ Operation.SetsUp (Plan.ofSubscription s settings).operations
      (objectsOf settings.group s o) := by
  unfold objectsOf
  cases cycle : o.deadLetter with
  | none =>
      rw [operations_of_bare settings built source cycle]
      exact .cons (ExchangeObject.follows _) <| .cons (QueueObject.follows _) <|
        .cons (bindingOr_follows ..) .nil
  | some c =>
      rw [operations_of_cycle settings built source cycle]
      exact .cons (ExchangeObject.follows _) <| .cons (ExchangeObject.follows _) <|
        .cons (ExchangeObject.follows _) <| .cons (QueueObject.follows _) <|
        .cons (bindingOr_follows ..) <| .cons (QueueObject.follows _) <|
        .cons (bindingOr_follows ..) <| .cons (bindingOr_follows ..) .nil

-- ============================================================= two plans

section two

variable (exchange group : String)

/-- The operations of a plan without a cycle, written out. -/
theorem operations_ofExchange_bare (cycle : o.deadLetter = none) :
    (Plan.ofExchange exchange o group).operations =
      let main := Queue.nameOr o.queue (mainQueueName group exchange)
      [.declareExchange (exchangeOr o.exchange exchange),
        .declareQueue (queueOr o.queue main .empty),
        .bindQueue (bindingOr o.binding main exchange)] := by
  simp only [Plan.ofExchange, cycle]
  rfl

/-- Each object is told by its override and by the names of the others. -/
theorem operations_ofExchange_cycle (cycle : o.deadLetter = some c) :
    (Plan.ofExchange exchange o group).operations =
      let main := Queue.nameOr o.queue (mainQueueName group exchange)
      let error := Queue.nameOr c.errorQueue (errorQueueName group exchange)
      let start := startNameOf c group exchange
      let ends := endNameOf c group exchange
      [.declareExchange (exchangeOr o.exchange exchange),
        .declareExchange (exchangeOr c.startExchange (startExchangeName group exchange)),
        .declareExchange (exchangeOr c.endExchange (endExchangeName group exchange)),
        .declareQueue (queueOr c.errorQueue (errorQueueName group exchange)
          (.ofList [(messageTtlKey, .int32 (.ofNat c.delay.millis)),
            (deadLetterExchangeKey, .text ends)])),
        .bindQueue (bindingOr c.errorQueueBinding error start),
        .declareQueue (queueOr o.queue main (.ofList [(deadLetterExchangeKey, .text start)])),
        .bindQueue (bindingOr c.mainQueueBinding main ends),
        .bindQueue (bindingOr o.binding main exchange)] := by
  simp only [Plan.ofExchange, cycle, cycleObjects, name_exchangeOr, name_queueOr]
  rfl

/-- Of an override, only its name decides what a queue is called. -/
theorem nameOr_congr {q q' : Option Queue} (same : q'.bind (·.name) = q.bind (·.name))
    (name : String) : Queue.nameOr q' name = Queue.nameOr q name := by
  rw [Queue.nameOr, same]
  rfl

/-- The queue to consume is another one only under another name. -/
theorem DiffersIn.queue_eq {x : Overridden} (differs : DiffersIn x o o') :
    (Plan.ofExchange exchange o' group).queue = (Plan.ofExchange exchange o group).queue := by
  cases differs with
  | queue q same => exact nameOr_congr same _
  | _ => rfl

/-- A plan with another override at one place has another operation there. -/
theorem DiffersIn.operations {x : Overridden} (differs : DiffersIn x o o') :
    ∃ op, (Plan.ofExchange exchange o' group).operations
      = (Plan.ofExchange exchange o group).operations.set (x.place o.deadLetter.isSome) op := by
  cases differs with
  | exchange e => exact ⟨.declareExchange (exchangeOr e exchange), rfl⟩
  | queue q same =>
      cases cycle : o.deadLetter with
      | none =>
          rw [operations_ofExchange_bare exchange group cycle, operations_ofExchange_bare _ _ rfl]
          simp only [nameOr_congr same]
          exact ⟨_, rfl⟩
      | some c =>
          rw [operations_ofExchange_cycle exchange group cycle, operations_ofExchange_cycle _ _ rfl]
          simp only [nameOr_congr same]
          exact ⟨_, rfl⟩
  | binding b =>
      cases cycle : o.deadLetter with
      | none =>
          rw [operations_ofExchange_bare exchange group cycle, operations_ofExchange_bare _ _ rfl]
          exact ⟨_, rfl⟩
      | some c =>
          rw [operations_ofExchange_cycle exchange group cycle, operations_ofExchange_cycle _ _ rfl]
          exact ⟨_, rfl⟩
  | startExchange e cycle same =>
      rw [operations_ofExchange_cycle exchange group cycle, operations_ofExchange_cycle _ _ rfl,
        cycle]
      simp only [startNameOf, same]
      exact ⟨_, rfl⟩
  | endExchange e cycle same =>
      rw [operations_ofExchange_cycle exchange group cycle, operations_ofExchange_cycle _ _ rfl,
        cycle]
      simp only [endNameOf, same]
      exact ⟨_, rfl⟩
  | errorQueue q cycle same =>
      rw [operations_ofExchange_cycle exchange group cycle, operations_ofExchange_cycle _ _ rfl,
        cycle]
      simp only [nameOr_congr same]
      exact ⟨_, rfl⟩
  | errorQueueBinding b cycle =>
      rw [operations_ofExchange_cycle exchange group cycle, operations_ofExchange_cycle _ _ rfl,
        cycle]
      exact ⟨_, rfl⟩
  | mainQueueBinding b cycle =>
      rw [operations_ofExchange_cycle exchange group cycle, operations_ofExchange_cycle _ _ rfl,
        cycle]
      exact ⟨_, rfl⟩

end two

theorem ofSubscription_of_exchange (settings : Settings.Consumer)
    (source : s.source = .exchange o) :
    Plan.ofSubscription s settings = Plan.ofExchange s.name o settings.group := by
  rw [Plan.ofSubscription, source]

-- ========================================================== the main result

/-- Each operation in the plan of a subscription to an exchange sets up its
object as the override of that object says. What is generated for the queues
of a cycle is where they send messages on to and, for the error queue, how
long messages stay. With one override changed in anything but its name, the
plan differs in the operation at the place of that object, if at all. -/
theorem follows_own_override (settings : Settings.Consumer)
    (built : ∃ draft : Subscription, draft.build = .ok s) (source : s.source = .exchange o) :
    List.Forall₂ Operation.SetsUp (Plan.ofSubscription s settings).operations
        (objectsOf settings.group s o)
      ∧ (Plan.ofSubscription s settings).queue
        = Queue.nameOr o.queue (mainQueueName settings.group s.name)
      ∧ (∀ c, o.deadLetter = some c → ∀ k,
        (errorQueue settings.group s c).generated.get? k
            = (if k = deadLetterExchangeKey then some (.text (endNameOf c settings.group s.name))
              else if k = messageTtlKey then some (.int32 (.ofNat c.delay.millis)) else none)
          ∧ (mainQueue settings.group s o c).generated.get? k
            = if k = deadLetterExchangeKey then some (.text (startNameOf c settings.group s.name))
              else none)
      ∧ ∀ s' o' x, s'.source = .exchange o' → s'.name = s.name → DiffersIn x o o' →
        (Plan.ofSubscription s' settings).queue = (Plan.ofSubscription s settings).queue
          ∧ ∃ op, (Plan.ofSubscription s' settings).operations
            = (Plan.ofSubscription s settings).operations.set (x.place o.deadLetter.isSome) op := by
  refine ⟨setsUp_of_built settings built source, queue_of_exchange settings source, ?_, ?_⟩
  · intro c _ k
    exact ⟨get?_generated_errorQueue .., get?_generated_mainQueue ..⟩
  · intro s' o' x source' name differs
    rw [ofSubscription_of_exchange settings source, ofSubscription_of_exchange settings source',
      name]
    exact ⟨differs.queue_eq .., differs.operations ..⟩

/-- A cycle whose error queue has a limit of its own for the time in it. -/
def refundCycle : Cycle where
  delay := .ofMillis 2000
  errorQueue := some { name := none, arguments := .ofList [(messageTtlKey, .int32 10)] }

/-- A queue that sends on to an exchange of its own choice. -/
def refundOptions : ExchangeOptions where
  queue := some {
    name := some "refunds-in"
    arguments := .ofList [(deadLetterExchangeKey, .text "elsewhere")] }
  deadLetter := some refundCycle

def refunds (o : ExchangeOptions) : Subscription where
  name := "refunds"
  maxParallelism := 2
  source := .exchange o
  handler := .scripted ⟨"Refund", fun _ => .ok .null⟩ [.succeed]

/-- The same, but the error queue does not outlast its broker, and has no limit
of its own. -/
def fleetingCycle : Cycle :=
  { refundCycle with errorQueue := some { name := none, durable := false } }

def fleetingOptions : ExchangeOptions := { refundOptions with deadLetter := some fleetingCycle }

theorem follows_own_override_of_refunds :
    (refunds refundOptions).build = .ok (refunds refundOptions)
      ∧ DiffersIn .errorQueue refundOptions fleetingOptions
      ∧ List.Forall₂ Operation.SetsUp
        (Plan.ofSubscription (refunds refundOptions) ⟨"shop", 4⟩).operations
        (objectsOf "shop" (refunds refundOptions) refundOptions)
      ∧ ∃ op, (Plan.ofSubscription (refunds fleetingOptions) ⟨"shop", 4⟩).operations
        = (Plan.ofSubscription (refunds refundOptions) ⟨"shop", 4⟩).operations.set 3 op := by
  have differs : DiffersIn .errorQueue refundOptions fleetingOptions := .errorQueue _ rfl rfl
  obtain ⟨each, -, -, other⟩ :=
    follows_own_override ⟨"shop", 4⟩ ⟨refunds refundOptions, rfl⟩ (o := refundOptions) rfl
  exact ⟨rfl, differs, each, (other (refunds fleetingOptions) _ _ rfl rfl differs).2⟩

end Courier.Topology
