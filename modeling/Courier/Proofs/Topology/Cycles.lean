/-
Subscriptions with a dead-letter cycle, on a broker that all of them were
installed on. However their objects are renamed, a message published to
the exchange of one of them stays in the two queues of that subscription,
in one copy, until it is acknowledged.

# The shape of the argument

A plan is read once, as a `Loop`: the eight objects it asks for, and what
they say about each other. From the loop alone it follows that the plan
binds a queue to each of its exchanges exactly once, and which of them a
message goes through. That it is in order holds of any plan (Objects.lean).
Wiring.lean then says what the broker does with all plans together, and
Rounds.lean what becomes of the messages.

What makes the loops stay apart is that no name is declared twice, by the
same plan or by two; nothing is assumed about the names themselves.
-/
import Courier.Proofs.Topology.Objects
import Courier.Proofs.Topology.Rounds
import Courier.Startup

namespace Courier.Topology

variable {s : Subscription} {o : ExchangeOptions} {c : Cycle} {exchange main error : String}

-- ===================================================== statement vocabulary

/-- A subscription to an exchange with a cycle, as it is built, whose
overrides leave every exchange a fanout one and set no arguments. -/
structure Retrying (s : Subscription) (o : ExchangeOptions) (c : Cycle) : Prop where
  built : ∃ draft : Subscription, draft.build = .ok s
  source : s.source = .exchange o
  deadLetter : o.deadLetter = some c
  exchanges : ∀ e, o.exchange = some e ∨ c.startExchange = some e ∨ c.endExchange = some e →
    e.kind = .fanout ∧ e.arguments = .empty
  queues : ∀ q, o.queue = some q ∨ c.errorQueue = some q → q.arguments = .empty
  bindings : ∀ x, o.binding = some x ∨ c.errorQueueBinding = some x
    ∨ c.mainQueueBinding = some x → x.arguments = .empty

-- ================================================================ the loop

/-- The objects that a plan with a cycle asks for, between the exchange and
the two queues of those names. -/
structure Loop (exchange main error : String) where
  source : Exchange
  startExchange : Exchange
  endExchange : Exchange
  errorQueue : Queue
  mainQueue : Queue
  errorBinding : QueueBinding
  returnBinding : QueueBinding
  sourceBinding : QueueBinding
  startName : String
  endName : String
  source_name : source.name = some exchange
  source_kind : source.kind = .fanout
  start_name : startExchange.name = some startName
  start_kind : startExchange.kind = .fanout
  end_name : endExchange.name = some endName
  end_kind : endExchange.kind = .fanout
  error_name : errorQueue.name = some error
  error_next : errorQueue.deadLetterExchange? = some endName
  error_expires : errorQueue.expires = true
  main_name : mainQueue.name = some main
  main_next : mainQueue.deadLetterExchange? = some startName
  errorBinding_joins : errorBinding.queue = some error ∧ errorBinding.exchange = some startName
  returnBinding_joins : returnBinding.queue = some main ∧ returnBinding.exchange = some endName
  sourceBinding_joins : sourceBinding.queue = some main ∧ sourceBinding.exchange = some exchange

/-- The operations of a loop, in the order of a plan. -/
def Loop.operations (l : Loop exchange main error) : List Operation := [
  .declareExchange l.source, .declareExchange l.startExchange, .declareExchange l.endExchange,
  .declareQueue l.errorQueue, .bindQueue l.errorBinding, .declareQueue l.mainQueue,
  .bindQueue l.returnBinding, .bindQueue l.sourceBinding]

namespace Loop

variable (l : Loop exchange main error)

theorem declaredExchanges_operations :
    declaredExchanges l.operations = [exchange, l.startName, l.endName] := by
  simp [declaredExchanges, operations, l.source_name, l.start_name, l.end_name]

theorem boundExchanges_operations :
    boundExchanges l.operations = [l.startName, l.endName, exchange] := by
  simp [boundExchanges, operations, l.errorBinding_joins.2, l.returnBinding_joins.2,
    l.sourceBinding_joins.2]

/-- Each exchange of a loop has one queue bound to it. -/
theorem boundExchanges_perm :
    (boundExchanges l.operations).Perm (declaredExchanges l.operations) := by
  rw [boundExchanges_operations, declaredExchanges_operations]
  show ([l.startName, l.endName] ++ [exchange]).Perm ([exchange] ++ [l.startName, l.endName])
  exact List.perm_append_comm

theorem alone : ∀ x, .bindExchange x ∉ l.operations := by
  intro x
  simp [operations]

end Loop

-- ==================================================== the plan as a loop

theorem kind_exchangeOr {override : Option Exchange} (name : String)
    (plain : ∀ e, override = some e → e.kind = .fanout) :
    (exchangeOr override name).kind = .fanout := by
  cases override with
  | none => rfl
  | some e => exact plain e rfl

/-- An override without arguments leaves the generated ones as they are. -/
theorem arguments_queueOr {override : Option Queue} (name : String) (generated : Arguments)
    (plain : ∀ q, override = some q → q.arguments = .empty) :
    (queueOr override name generated).arguments = generated := by
  cases override with
  | none => rfl
  | some q =>
      show generated.merge q.arguments = generated
      rw [plain q rfl]
      rfl

/-- A queue sends on to the exchange that its arguments name last. -/
theorem deadLetterExchange?_of_arguments {q : Queue} {pairs : List (String × FieldValue)}
    {next : String}
    (arguments : q.arguments = .ofList (pairs ++ [(deadLetterExchangeKey, .text next)])) :
    q.deadLetterExchange? = some next := by
  unfold Queue.deadLetterExchange?
  rw [arguments, Arguments.get?_ofList_append, if_pos rfl, Option.bind_some]
  exact Text.ofUtf8?_utf8Bytes next

/-- The queue that a subscription is consumed through. -/
theorem Retrying.queue (h : Retrying s o c) (settings : Settings.Consumer) :
    (Plan.ofSubscription s settings).queue
      = Queue.nameOr o.queue (mainQueueName settings.group s.name) :=
  queue_of_exchange settings h.source

/-- The error queue names the end exchange as it is declared, behind the
delay of the cycle. -/
theorem Retrying.errorQueue_arguments (h : Retrying s o c) (group main : String) :
    (cycleObjects c group s.name main).errorQueue.arguments
      = .ofList ([(messageTtlKey, .int32 (.ofNat c.delay.millis))]
        ++ [(deadLetterExchangeKey, .text (endNameOf c group s.name))]) := by
  unfold cycleObjects
  rw [arguments_queueOr _ _ (fun q hq => h.queues q (.inr hq)), name_exchangeOr]
  rfl

/-- The main queue names the start exchange as it is declared. -/
theorem Retrying.mainQueue_arguments (h : Retrying s o c) (group main : String) :
    (queueOr o.queue main (cycleObjects c group s.name main).mainArguments).arguments
      = .ofList ([] ++ [(deadLetterExchangeKey, .text (startNameOf c group s.name))]) := by
  rw [arguments_queueOr _ _ (fun q hq => h.queues q (.inl hq))]
  show Arguments.ofList
    [(deadLetterExchangeKey, .text ((exchangeOr c.startExchange _).name.getD _))] = _
  rw [name_exchangeOr]
  rfl

/-- The error queue limits the time in it. -/
theorem Retrying.errorQueue_expires (h : Retrying s o c) (group main : String) :
    (cycleObjects c group s.name main).errorQueue.expires = true := by
  unfold Queue.expires
  rw [h.errorQueue_arguments group main]
  rw [Arguments.get?_ofList_append, if_neg (show messageTtlKey ≠ deadLetterExchangeKey by decide),
    ← List.nil_append [_], Arguments.get?_ofList_append, if_pos rfl]
  rfl

theorem errorBinding_joins (c : Cycle) (group exchange main : String) :
    (cycleObjects c group exchange main).errorBinding.queue
        = some (Queue.nameOr c.errorQueue (errorQueueName group exchange))
      ∧ (cycleObjects c group exchange main).errorBinding.exchange
        = some (startNameOf c group exchange) := by
  refine ⟨?_, ?_⟩
  · show some ((queueOr c.errorQueue _ _).name.getD _) = _
    rw [name_queueOr]
    rfl
  · show some ((exchangeOr c.startExchange _).name.getD _) = _
    rw [name_exchangeOr]
    rfl

theorem returnBinding_joins (c : Cycle) (group exchange main : String) :
    (cycleObjects c group exchange main).returnBinding.queue = some main
      ∧ (cycleObjects c group exchange main).returnBinding.exchange
        = some (endNameOf c group exchange) := by
  refine ⟨rfl, ?_⟩
  show some ((exchangeOr c.endExchange _).name.getD _) = _
  rw [name_exchangeOr]
  rfl

/-- The loop of a subscription: each object under the name it is given. -/
def Retrying.loop (h : Retrying s o c) (group : String) :
    Loop s.name (Queue.nameOr o.queue (mainQueueName group s.name))
      (Queue.nameOr c.errorQueue (errorQueueName group s.name)) :=
  let main := Queue.nameOr o.queue (mainQueueName group s.name)
  let objects := cycleObjects c group s.name main
  { source := exchangeOr o.exchange s.name
    startExchange := objects.startExchange
    endExchange := objects.endExchange
    errorQueue := objects.errorQueue
    mainQueue := queueOr o.queue main objects.mainArguments
    errorBinding := objects.errorBinding
    returnBinding := objects.returnBinding
    sourceBinding := bindingOr o.binding main s.name
    startName := startNameOf c group s.name
    endName := endNameOf c group s.name
    source_name := by
      rw [name_exchangeOr, exchange_unnamed h.built h.source]
      rfl
    source_kind := kind_exchangeOr _ fun e he => (h.exchanges e (.inl he)).1
    start_name := name_exchangeOr _ _
    start_kind := kind_exchangeOr _ fun e he => (h.exchanges e (.inr (.inl he))).1
    end_name := name_exchangeOr _ _
    end_kind := kind_exchangeOr _ fun e he => (h.exchanges e (.inr (.inr he))).1
    error_name := name_queueOr _ _ _
    error_next := deadLetterExchange?_of_arguments (h.errorQueue_arguments group main)
    error_expires := h.errorQueue_expires group main
    main_name := (name_queueOr _ _ _).trans (congrArg some (nameOr_nameOr _ _))
    main_next := deadLetterExchange?_of_arguments (h.mainQueue_arguments group main)
    errorBinding_joins := errorBinding_joins c group s.name main
    returnBinding_joins := returnBinding_joins c group s.name main
    sourceBinding_joins := ⟨rfl, rfl⟩ }

/-- A plan asks for its loop. -/
theorem Retrying.operations (h : Retrying s o c) (settings : Settings.Consumer) :
    (Plan.ofSubscription s settings).operations = (h.loop settings.group).operations := by
  simp only [Plan.ofSubscription, h.source, Plan.ofExchange, h.deadLetter]
  rfl

-- ========================================================= all plans together

open Broker (ofOperations)

/-- A loop on a broker where no name occurs twice is a circle. -/
theorem Loop.circle {ops : List Operation} {chooses : Choice} (l : Loop exchange main error)
    (within : ∀ op ∈ l.operations, op ∈ ops) (exchanges : (declaredExchanges ops).Nodup)
    (queues : (declaredQueues ops).Nodup) (bound : (boundExchanges ops).Nodup)
    (alone : (ofOperations ops).exchangeBindings = []) :
    Circle (ofOperations ops) chooses exchange main error := by
  refine ⟨?_, ?_, ?_, ?_⟩
  · intro n
    exact routes_ofOperations exchanges bound alone (within _ (by simp [operations]))
      l.source_name l.source_kind (within _ (by simp [operations]))
      l.sourceBinding_joins.2 l.sourceBinding_joins.1 n
  · intro n
    rw [deadLetters_ofOperations queues (within _ (by simp [operations])) l.main_name l.main_next]
    exact routes_ofOperations exchanges bound alone (within _ (by simp [operations]))
      l.start_name l.start_kind (within _ (by simp [operations]))
      l.errorBinding_joins.2 l.errorBinding_joins.1 n
  · intro n
    rw [deadLetters_ofOperations queues (within _ (by simp [operations])) l.error_name
      l.error_next]
    exact routes_ofOperations exchanges bound alone (within _ (by simp [operations]))
      l.end_name l.end_kind (within _ (by simp [operations]))
      l.returnBinding_joins.2 l.returnBinding_joins.1 n
  · rw [queue?_ofOperations queues (within _ (by simp [operations])) l.error_name]
    exact l.error_expires

section subscriptions

variable {settings : Settings.Consumer} {subs : List Subscription}

/-- All subscriptions are set up, and the broker holds what their plans say. -/
theorem declareAll_retrying (instanceName : String)
    (retrying : ∀ s ∈ subs, ∃ o c, Retrying s o c) (done : List Operation)
    (exchanges : (declaredExchanges (done ++ plannedOperations settings subs)).Nodup)
    (queues : (declaredQueues (done ++ plannedOperations settings subs)).Nodup) :
    (declareAll Broker.channel instanceName settings (ofOperations done) subs).declared
        = subs.map (fun s => (s, (Plan.ofSubscription s settings).queue))
      ∧ (declareAll Broker.channel instanceName settings (ofOperations done) subs).channel
        = ofOperations (done ++ plannedOperations settings subs) := by
  induction subs generalizing done with
  | nil =>
      refine ⟨rfl, ?_⟩
      show ofOperations done = ofOperations (done ++ [])
      rw [List.append_nil]
  | cons s rest ih =>
      obtain ⟨o, c, h⟩ := retrying s List.mem_cons_self
      have split : done ++ plannedOperations settings (s :: rest)
          = done ++ (Plan.ofSubscription s settings).operations
            ++ plannedOperations settings rest := by
        unfold plannedOperations
        rw [List.flatMap_cons, List.append_assoc]
      rw [split] at exchanges queues ⊢
      have inOrder := (inOrder_of_built settings h.built).mono done
      rw [List.append_nil] at inOrder
      have installed : Broker.channel.install (ofOperations done)
          (Plan.ofSubscription s settings).operations
            = (.ok (), ofOperations (done ++ (Plan.ofSubscription s settings).operations)) := by
        refine install_inOrder inOrder ?_ ?_
        · rw [declaredExchanges_append] at exchanges
          exact (List.nodup_append.1 exchanges).1
        · rw [declaredQueues_append] at queues
          exact (List.nodup_append.1 queues).1
      obtain ⟨declared, channel⟩ :=
        ih (fun s' hs' => retrying s' (List.mem_cons_of_mem s hs')) _ exchanges queues
      unfold declareAll
      simp only [installed, declared, channel, List.map_cons, and_self]

/-- As no exchange is declared twice, none is bound twice. -/
theorem plannedOperations_bound (retrying : ∀ s ∈ subs, ∃ o c, Retrying s o c)
    (exchanges : (declaredExchanges (plannedOperations settings subs)).Nodup) :
    (boundExchanges (plannedOperations settings subs)).Nodup := by
  unfold boundExchanges declaredExchanges plannedOperations at *
  rw [List.filterMap_flatMap] at exchanges ⊢
  refine (List.Perm.nodup_iff ?_).2 exchanges
  refine List.Perm.flatMap_left subs ?_
  intro s hs
  obtain ⟨o, c, h⟩ := retrying s hs
  rw [h.operations settings]
  exact (h.loop settings.group).boundExchanges_perm

theorem plannedOperations_alone (retrying : ∀ s ∈ subs, ∃ o c, Retrying s o c) :
    (ofOperations (plannedOperations settings subs)).exchangeBindings = [] := by
  refine List.filterMap_eq_nil_iff.2 ?_
  intro op member
  obtain ⟨s, hs, planned⟩ := List.mem_flatMap.1 member
  obtain ⟨o, c, h⟩ := retrying s hs
  rw [h.operations settings] at planned
  cases op with
  | bindExchange x => exact absurd planned ((h.loop settings.group).alone x)
  | _ => rfl

/-- Each subscription has its circle. -/
theorem circle_of_retrying {chooses : Choice} (retrying : ∀ s ∈ subs, ∃ o c, Retrying s o c)
    (exchanges : (declaredExchanges (plannedOperations settings subs)).Nodup)
    (queues : (declaredQueues (plannedOperations settings subs)).Nodup)
    (hs : s ∈ subs) (h : Retrying s o c) :
    Circle (ofOperations (plannedOperations settings subs)) chooses s.name
      (Plan.ofSubscription s settings).queue
      (Queue.nameOr c.errorQueue (errorQueueName settings.group s.name)) := by
  rw [h.queue settings]
  refine (h.loop settings.group).circle ?_ exchanges queues
    (plannedOperations_bound retrying exchanges) (plannedOperations_alone retrying)
  intro op member
  refine List.mem_flatMap.2 ⟨s, hs, ?_⟩
  rw [h.operations settings]
  exact member

end subscriptions

-- ========================================================== the main result

/-- Subscriptions with a cycle, whose plans declare no exchange and no queue
twice, whatever their group and however their objects are named. Set up on
an empty broker, none of them is left out. Whatever is then published,
rejected, expires and is acknowledged there: a message that was published
to the exchange of one of them has, until it is acknowledged, one copy, in
the queue that the subscription is consumed through or in its error queue.
Rejecting it in the one moves that copy to the other and nowhere else, and
expiring in the other moves it back. -/
theorem one_copy_of_each (settings : Settings.Consumer) (instanceName : String) (chooses : Choice)
    (subs : List Subscription) (retrying : ∀ s ∈ subs, ∃ o c, Retrying s o c)
    (exchanges : (declaredExchanges (plannedOperations settings subs)).Nodup)
    (queues : (declaredQueues (plannedOperations settings subs)).Nodup) :
    (declareAll Broker.channel instanceName settings {} subs).declared
        = subs.map (fun s => (s, (Plan.ofSubscription s settings).queue))
      ∧ ∀ b, b = (declareAll Broker.channel instanceName settings {} subs).channel →
        ∀ t, Traffic.Reachable b chooses t → ∀ s ∈ subs, ∀ c, s.deadLetter = some c →
        ∀ main error, main = (Plan.ofSubscription s settings).queue →
          error = Queue.nameOr c.errorQueue (errorQueueName settings.group s.name) →
          (∀ n : Nat, t.published[n]? = some s.name →
            if n ∈ t.acked then t.copiesOf n = []
            else t.copiesOf n = [main] ∨ t.copiesOf n = [error])
          ∧ (∀ n, (main, n) ∈ t.copies → t.step? b chooses (.reject main n)
            = some { t with copies := t.copies.erase (main, n) ++ [(error, n)] })
          ∧ ∀ n, (error, n) ∈ t.copies → t.step? b chooses (.expire error n)
            = some { t with copies := t.copies.erase (error, n) ++ [(main, n)] } := by
  obtain ⟨declared, channel⟩ := declareAll_retrying instanceName retrying [] exchanges queues
  refine ⟨declared, ?_⟩
  intro b hb t reachable s hs c cycle main error hmain herror
  obtain rfl : b = ofOperations (plannedOperations settings subs) := hb.trans channel
  obtain ⟨o, c', h⟩ := retrying s hs
  have same : c' = c := by
    unfold Subscription.deadLetter at cycle
    rw [h.source] at cycle
    exact Option.some.inj (h.deadLetter.symm.trans cycle)
  subst same
  have circle : Circle _ chooses s.name _ _ :=
    circle_of_retrying retrying exchanges queues hs h
  rw [← hmain, ← herror] at circle
  refine ⟨?_, ?_, ?_⟩
  · intro n published
    rcases (Traffic.steady_of_reachable circle reachable).kept n published with
      ⟨acked, none⟩ | ⟨waits, one⟩
    · rw [if_pos acked]
      exact none
    · rw [if_neg waits]
      exact one
  · intro n there
    simp only [Traffic.step?, List.contains_iff_mem.2 there, if_true, Traffic.deadLetter,
      circle.fails, List.map_cons, List.map_nil]
  · intro n there
    simp only [Traffic.step?, List.contains_iff_mem.2 there, circle.expires, Bool.and_self,
      if_true, Traffic.deadLetter, circle.returns, List.map_cons, List.map_nil]

/-- A subscription as it is built, with nothing of its own. -/
def orders : Subscription where
  name := "orders"
  maxParallelism := 1
  source := .exchange { deadLetter := some {} }
  handler := .scripted ⟨"Order", fun _ => .ok .null⟩ [.fail "boom"]

/-- One with all its objects renamed that can be, its main queue bound with a
key, and its exchanges declared by overrides. -/
def invoices : Subscription where
  name := "invoices"
  maxParallelism := 4
  source := .exchange {
    exchange := some { name := none, durable := false }
    queue := some { name := some "billing" }
    binding := some { queue := none, exchange := none, routingKey := "paid" }
    deadLetter := some {
      startExchange := some (.named "failed")
      endExchange := some (.named "again")
      errorQueue := some { name := some "later", durable := false } } }
  handler := .scripted ⟨"Invoice", fun _ => .ok .null⟩ [.fail "boom"]

/-- The broker with both of them. -/
def shopBroker : Broker :=
  (declareAll Broker.channel "main" ⟨"shop", 4⟩ {} [orders, invoices]).channel

theorem one_copy_of_billing :
    Traffic.Reachable shopBroker (fun _ _ _ _ => false)
        { published := ["invoices"], copies := [("later", 0)] }
      ∧ ∀ t, Traffic.Reachable shopBroker (fun _ _ _ _ => false) t →
        ∀ n : Nat, t.published[n]? = some "invoices" → n ∉ t.acked →
          t.copiesOf n = ["billing"] ∨ t.copiesOf n = ["later"] := by
  have plainOrders : Retrying orders { deadLetter := some {} } {} :=
    ⟨⟨orders, rfl⟩, rfl, rfl, by simp, by simp, by simp⟩
  have retrying : ∀ s ∈ [orders, invoices], ∃ o c, Retrying s o c := by
    intro s hs
    rcases List.mem_cons.1 hs with rfl | hs
    · exact ⟨_, _, plainOrders⟩
    · rw [List.mem_singleton.1 hs]
      refine ⟨_, _, ⟨invoices, rfl⟩, rfl, rfl, ?_, ?_, ?_⟩
      · rintro e (he | he | he) <;> cases he <;> exact ⟨rfl, rfl⟩
      · rintro q (hq | hq) <;> cases hq <;> rfl
      · rintro x (hx | hx | hx) <;> cases hx
        rfl
  have published : Traffic.Reachable shopBroker (fun _ _ _ _ => false)
      { published := ["invoices"], copies := [("billing", 0)] } :=
    .step (.publish "invoices") .start (by decide +kernel)
  refine ⟨.step (.reject "billing" 0) published (by decide +kernel), ?_⟩
  intro t reachable n published waits
  have runs := (one_copy_of_each ⟨"shop", 4⟩ "main" (fun _ _ _ _ => false) [orders, invoices]
    retrying (by decide) (by decide)).2 _ rfl t reachable
  have kept := (runs invoices (by simp) _ rfl "billing" "later" rfl rfl).1 n published
  rw [if_neg waits] at kept
  exact kept

end Courier.Topology
