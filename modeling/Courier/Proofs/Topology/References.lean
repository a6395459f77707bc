/-
The references of a plan: whatever an operation names was declared by the
operations before it, under the name that it is referred to by.

The name of a main queue, of an error queue and of both exchanges of a cycle
is that of an override or a derived one, and each is worked out wherever it
is needed: where the object is declared, where it is bound, where a generated
argument sends messages on to it, and where the queue to consume is told.
That all these places agree is read off the operations themselves
(Objects.lean), a position at a time: `forall_getElem?_cons` takes a list of
operations apart into what has to hold of each with those before it.
-/
import Courier.Proofs.Topology.Cycles
import Courier.Topology.Channel

namespace Courier.Topology

variable {s : Subscription} {o : ExchangeOptions} {c : Cycle}

-- ===================================================== statement vocabulary

/-- Among the operations, a queue is bound to an exchange. -/
def Binds (ops : List Operation) (queue exchange : String) : Prop :=
  ∃ b, .bindQueue b ∈ ops ∧ b.queue = some queue ∧ b.exchange = some exchange

/-- The argument that is generated for a queue to send messages on is the name
of an exchange that the operations have declared. -/
def QueueObject.SendsOn (x : QueueObject) (done : List Operation) : Prop :=
  ∀ v, x.generated.get? deadLetterExchangeKey = some v →
    ∃ exchange ∈ declaredExchanges done, v = .text exchange

/-- The queue to consume is not overridden in where it sends messages on to. -/
def LeavesSending (s : Subscription) : Prop :=
  ∀ o, s.source = .exchange o → o.queue.bind (·.arguments.get? deadLetterExchangeKey) = none

/-- A plan that refers to what it declares, and to nothing else. -/
structure Plan.SelfContained (p : Plan) (group : String) (s : Subscription) : Prop where
  /-- Every operation has its names. -/
  named : ∀ op ∈ p.operations, ∃ call, op.call = .ok call
  /-- So a failure to install it is the refusal of one of its operations. -/
  reports : ∀ {σ : Type} (ch : Channel σ) (state : σ) (failure : Failure),
    (ch.install state p.operations).1 = .error failure →
      (∃ op ∈ p.operations, ∃ call, op.call = .ok call ∧ failure = call.refusal)
        ∧ ∀ what, failure ≠ .invalidConfiguration (what ++ " without a name")
  /-- A binding is between a queue and an exchange declared before it. -/
  binds : ∀ (i : Nat) b, p.operations[i]? = some (.bindQueue b) →
    (∃ queue ∈ declaredQueues (p.operations.take i), b.queue = some queue)
      ∧ ∃ exchange ∈ declaredExchanges (p.operations.take i), b.exchange = some exchange
  /-- A queue has the arguments of its override and, where that has none, the
  generated ones, which send it on to an exchange declared before it. -/
  sendsOn : ∀ (i : Nat) q, p.operations[i]? = some (.declareQueue q) →
    ∃ x ∈ queueObjects group s, q = x.declared
      ∧ (∀ k, q.arguments.get? k = (x.override.bind (·.arguments.get? k)).or (x.generated.get? k))
      ∧ x.SendsOn (p.operations.take i)
  /-- The queue to consume is the last one that is declared. The argument that
  is generated for it names the start exchange of the cycle, and there is none
  without a cycle; it has that argument unless its override says otherwise. -/
  consumed : ∃ (i : Nat), ∃ x ∈ queueObjects group s,
    p.operations[i]? = some (.declareQueue x.declared)
      ∧ (∀ q, .declareQueue q ∉ p.operations.drop (i + 1))
      ∧ x.declared.name = some p.queue
      ∧ (∀ v, x.generated.get? deadLetterExchangeKey = some v
        ↔ ∃ c, s.deadLetter = some c ∧ v = .text (startExchange group s c).name)
      ∧ (LeavesSending s → x.declared.arguments.get? deadLetterExchangeKey
        = x.generated.get? deadLetterExchangeKey)
  /-- Last of all, it is bound to the exchange that is subscribed to. -/
  endsBound : ∀ o, s.source = .exchange o → ∃ b, p.operations.getLast? = some (.bindQueue b)
    ∧ b.queue = some p.queue ∧ b.exchange = some s.name
  /-- It is bound to that exchange and to the end exchange of the cycle; to the
  start exchange only if the error queue has its name. -/
  boundTo : ∀ exchange, Binds p.operations p.queue exchange
    ↔ (∃ o, s.source = .exchange o ∧ exchange = s.name)
      ∨ ∃ c, s.deadLetter = some c ∧ (exchange = (endExchange group s c).name
        ∨ exchange = (startExchange group s c).name ∧ (errorQueue group s c).name = p.queue)
  /-- Both exchanges of the cycle are declared. -/
  cycle : ∀ c, s.deadLetter = some c →
    .declareExchange (startExchange group s c).declared ∈ p.operations
      ∧ .declareExchange (endExchange group s c).declared ∈ p.operations

-- ======================================================= names and failures

/-- A refusal is not a mistake in the configuration. -/
theorem Call.refusal_ne (call : Call) (reason : String) :
    call.refusal ≠ .invalidConfiguration reason := by
  cases call with
  | _ => nofun

/-- Where every operation has its names, only a refusal ends the installing. -/
theorem refused_of_install {σ : Type} {ch : Channel σ} {state : σ} {ops : List Operation}
    {failure : Failure} (named : ∀ op ∈ ops, ∃ call, op.call = .ok call)
    (failed : (ch.install state ops).1 = .error failure) :
    ∃ op ∈ ops, ∃ call, op.call = .ok call ∧ failure = call.refusal := by
  induction ops generalizing state with
  | nil => cases failed
  | cons op rest ih =>
      obtain ⟨call, called⟩ := named op List.mem_cons_self
      unfold Channel.install Channel.perform at failed
      rw [called] at failed
      cases answer : ch.ask state op with
      | mk accepted next =>
      simp only [answer] at failed
      cases accepted with
      | true =>
          obtain ⟨op', member, refused⟩ :=
            ih (fun op' later => named op' (List.mem_cons_of_mem _ later)) failed
          exact ⟨op', List.mem_cons_of_mem _ member, refused⟩
      | false =>
          cases failed
          exact ⟨op, List.mem_cons_self, call, called, rfl⟩

-- ================================================ one position at a time

/-- Operations in order, each with those before it. -/
theorem InOrder.refers {done ops : List Operation} {op : Operation} {i : Nat}
    (inOrder : InOrder done ops) (at_i : ops[i]? = some op) : Refers (done ++ ops.take i) op := by
  induction ops generalizing done i with
  | nil => cases at_i
  | cons first rest ih =>
      cases i with
      | zero =>
          cases at_i
          rw [List.take_zero, List.append_nil]
          exact inOrder.1
      | succ i =>
          have later := ih inOrder.2 at_i
          rw [List.append_assoc] at later
          exact later

/-- What holds of each operation with those before it, taken apart. -/
theorem forall_getElem?_cons {P : List Operation → Operation → Prop} {done rest : List Operation}
    {first : Operation} :
    (∀ (i : Nat) op, (first :: rest)[i]? = some op → P (done ++ (first :: rest).take i) op)
      ↔ P done first
        ∧ ∀ (i : Nat) op, rest[i]? = some op → P (done ++ [first] ++ rest.take i) op := by
  have shift : ∀ i, done ++ (first :: rest).take (i + 1) = done ++ [first] ++ rest.take i := by
    intro i
    rw [List.append_assoc]
    rfl
  constructor
  · intro each
    refine ⟨?_, fun i op at_i => shift i ▸ each (i + 1) op at_i⟩
    have head := each 0 first rfl
    rwa [List.take_zero, List.append_nil] at head
  · rintro ⟨head, tail⟩ i op at_i
    cases i with
    | zero =>
        cases at_i
        rwa [List.take_zero, List.append_nil]
    | succ i => exact shift i ▸ tail i op at_i

theorem forall_getElem?_nil {P : List Operation → Operation → Prop} {done : List Operation} :
    ∀ (i : Nat) op, ([] : List Operation)[i]? = some op → P (done ++ [].take i) op :=
  nofun

-- ============================================================ the bindings

section binds

variable {queue exchange : String} {rest : List Operation}

theorem binds_nil : ¬ Binds [] queue exchange := by
  rintro ⟨b, member, -⟩
  cases member

theorem binds_declareExchange {e : Exchange} :
    Binds (.declareExchange e :: rest) queue exchange ↔ Binds rest queue exchange := by
  simp [Binds]

theorem binds_declareQueue {q : Queue} :
    Binds (.declareQueue q :: rest) queue exchange ↔ Binds rest queue exchange := by
  simp [Binds]

/-- A binding is found in the operation that makes it, or behind it. -/
theorem binds_bindQueue {override : Option QueueBinding} {queue' exchange' : String} :
    Binds (.bindQueue (bindingOr override queue' exchange') :: rest) queue exchange
      ↔ queue' = queue ∧ exchange' = exchange ∨ Binds rest queue exchange := by
  constructor
  · rintro ⟨b, member, toQueue, toExchange⟩
    rcases List.mem_cons.1 member with same | later
    · cases same
      exact .inl ⟨Option.some.inj toQueue, Option.some.inj toExchange⟩
    · exact .inr ⟨b, later, toQueue, toExchange⟩
  · rintro (⟨rfl, rfl⟩ | ⟨b, later, joins⟩)
    · exact ⟨_, List.mem_cons_self, rfl, rfl⟩
    · exact ⟨b, List.mem_cons_of_mem _ later, joins⟩

end binds

-- ================================================================ each part

/-- A queue that is declared is one of the objects, and sends on to what is
there. -/
def Sends (group : String) (s : Subscription) (done : List Operation) : Operation → Prop
  | .declareQueue q => ∃ x ∈ queueObjects group s, q = x.declared ∧ x.SendsOn done
  | _ => True

/-- A queue without generated arguments sends nothing on. -/
theorem sendsOn_of_empty {x : QueueObject} {done : List Operation} (none : x.generated = .empty) :
    x.SendsOn done := by
  intro v sent
  rw [none, Arguments.get?_empty] at sent
  cases sent

section plan

variable (settings : Settings.Consumer) (built : ∃ draft : Subscription, draft.build = .ok s)
include built

/-- Where the operations of a plan send rejected or expired messages, that was
declared before. -/
theorem sends_of_built : ∀ (i : Nat) op,
    (Plan.ofSubscription s settings).operations[i]? = some op →
      Sends settings.group s ([] ++ (Plan.ofSubscription s settings).operations.take i) op := by
  cases source : s.source with
  | queue =>
      have mem : sourceQueue s ∈ queueObjects settings.group s := by simp [queueObjects, source]
      rw [operations_of_queue settings source, forall_getElem?_cons]
      exact ⟨⟨_, mem, rfl, sendsOn_of_empty rfl⟩, forall_getElem?_nil⟩
  | exchange o =>
      cases cycle : o.deadLetter with
      | none =>
          have mem : bareQueue settings.group s o ∈ queueObjects settings.group s := by
            simp [queueObjects, source, cycle]
          rw [operations_of_bare settings built source cycle]
          simp only [forall_getElem?_cons]
          exact ⟨trivial, ⟨_, mem, rfl, sendsOn_of_empty rfl⟩, trivial, forall_getElem?_nil⟩
      | some c =>
          have error : errorQueue settings.group s c ∈ queueObjects settings.group s := by
            simp [queueObjects, source, cycle]
          have main : mainQueue settings.group s o c ∈ queueObjects settings.group s := by
            simp [queueObjects, source, cycle]
          rw [operations_of_cycle settings built source cycle]
          simp only [forall_getElem?_cons]
          refine ⟨trivial, trivial, trivial, ⟨_, error, rfl, ?_⟩, trivial, ⟨_, main, rfl, ?_⟩,
            trivial, trivial, forall_getElem?_nil⟩
          · intro v sent
            rw [get?_generated_errorQueue, if_pos rfl] at sent
            cases sent
            refine ⟨_, ?_, rfl⟩
            simp [declaredExchanges, ExchangeObject.declared]
          · intro v sent
            rw [get?_generated_mainQueue, if_pos rfl] at sent
            cases sent
            refine ⟨_, ?_, rfl⟩
            simp [declaredExchanges, ExchangeObject.declared]

/-- The last queue that is declared is the one to consume. -/
theorem consumed_of_built : ∃ (i : Nat), ∃ x ∈ queueObjects settings.group s,
    (Plan.ofSubscription s settings).operations[i]? = some (.declareQueue x.declared)
      ∧ (∀ q, .declareQueue q ∉ (Plan.ofSubscription s settings).operations.drop (i + 1))
      ∧ x.name = (Plan.ofSubscription s settings).queue
      ∧ (∀ v, x.generated.get? deadLetterExchangeKey = some v
        ↔ ∃ c, s.deadLetter = some c ∧ v = .text (startExchange settings.group s c).name)
      ∧ (LeavesSending s → x.override.bind (·.arguments.get? deadLetterExchangeKey) = none) := by
  cases source : s.source with
  | queue =>
      have bare : s.deadLetter = none := by rw [Subscription.deadLetter, source]
      rw [operations_of_queue settings source, queue_of_queue settings source]
      refine ⟨0, sourceQueue s, ?_, rfl, by simp, rfl, fun v => ?_, fun _ => rfl⟩
      · simp [queueObjects, source]
      · simp [sourceQueue, bare]
  | exchange o =>
      have named := queue_of_exchange settings source
      cases cycle : o.deadLetter with
      | none =>
          have bare := (deadLetter_of_source source).trans cycle
          rw [operations_of_bare settings built source cycle]
          refine ⟨1, bareQueue settings.group s o, ?_, rfl, by simp, named.symm, fun v => ?_,
            fun leaves => leaves o source⟩
          · simp [queueObjects, source, cycle]
          · simp [bareQueue, bare]
      | some c =>
          have cyclic := (deadLetter_of_source source).trans cycle
          rw [operations_of_cycle settings built source cycle]
          refine ⟨5, mainQueue settings.group s o c, ?_, rfl, by simp, named.symm, fun v => ?_,
            fun leaves => leaves o source⟩
          · simp [queueObjects, source, cycle]
          rw [get?_generated_mainQueue, if_pos rfl, cyclic]
          constructor
          · intro same
            exact ⟨c, rfl, (Option.some.inj same).symm⟩
          · rintro ⟨c', same, rfl⟩
            cases same
            rfl

/-- The queue to consume is bound last to the exchange that is subscribed to. -/
theorem endsBound_of_built (source : s.source = .exchange o) :
    ∃ b, (Plan.ofSubscription s settings).operations.getLast? = some (.bindQueue b)
      ∧ b.queue = some (Plan.ofSubscription s settings).queue ∧ b.exchange = some s.name := by
  rw [queue_of_exchange settings source]
  cases cycle : o.deadLetter with
  | none =>
      rw [operations_of_bare settings built source cycle]
      exact ⟨_, rfl, rfl, rfl⟩
  | some c =>
      rw [operations_of_cycle settings built source cycle]
      exact ⟨_, rfl, rfl, rfl⟩

/-- What the queue to consume is bound to. -/
theorem boundTo_of_built (exchange : String) :
    Binds (Plan.ofSubscription s settings).operations (Plan.ofSubscription s settings).queue
        exchange
      ↔ (∃ o, s.source = .exchange o ∧ exchange = s.name)
        ∨ ∃ c, s.deadLetter = some c ∧ (exchange = (endExchange settings.group s c).name
          ∨ exchange = (startExchange settings.group s c).name
            ∧ (errorQueue settings.group s c).name = (Plan.ofSubscription s settings).queue) := by
  cases source : s.source with
  | queue =>
      have bare : s.deadLetter = none := by rw [Subscription.deadLetter, source]
      rw [operations_of_queue settings source, binds_declareQueue, bare]
      simp [binds_nil]
  | exchange o =>
      have named := queue_of_exchange settings source
      have main : ∀ c, (mainQueue settings.group s o c).name
          = (Plan.ofSubscription s settings).queue := fun c => named.symm
      cases cycle : o.deadLetter with
      | none =>
          have bare := (deadLetter_of_source source).trans cycle
          rw [operations_of_bare settings built source cycle, bare, binds_declareExchange,
            binds_declareQueue, binds_bindQueue]
          constructor
          · rintro (⟨-, rfl⟩ | later)
            · exact .inl ⟨o, rfl, rfl⟩
            · exact absurd later binds_nil
          · rintro (⟨-, -, rfl⟩ | ⟨c, none, -⟩)
            · exact .inl ⟨named.symm, rfl⟩
            · cases none
      | some c =>
          have cyclic := (deadLetter_of_source source).trans cycle
          rw [operations_of_cycle settings built source cycle, cyclic]
          simp only [binds_declareExchange, binds_declareQueue, binds_bindQueue, binds_nil, main]
          constructor
          · rintro (⟨error, rfl⟩ | ⟨-, rfl⟩ | ⟨-, rfl⟩ | none)
            · exact .inr ⟨c, rfl, .inr ⟨rfl, error⟩⟩
            · exact .inr ⟨c, rfl, .inl rfl⟩
            · exact .inl ⟨o, rfl, rfl⟩
            · exact none.elim
          · rintro (⟨-, -, rfl⟩ | ⟨c', same, ends⟩)
            · exact .inr (.inr (.inl ⟨trivial, rfl⟩))
            · cases same
              rcases ends with rfl | ⟨rfl, error⟩
              · exact .inr (.inl ⟨trivial, rfl⟩)
              · exact .inl ⟨error, rfl⟩

/-- The plan of a subscription, as it is built, refers to what it declares,
whatever is overridden and whoever consumes it. -/
theorem selfContained_of_built :
    (Plan.ofSubscription s settings).SelfContained settings.group s := by
  have inOrder := inOrder_of_built settings built
  have named : ∀ op ∈ (Plan.ofSubscription s settings).operations, ∃ call, op.call = .ok call := by
    intro op member
    obtain ⟨i, at_i⟩ := List.mem_iff_getElem?.1 member
    exact (inOrder.refers at_i).call
  refine ⟨named, ?_, ?_, ?_, ?_, ?_, boundTo_of_built settings built, ?_⟩
  · intro σ ch state failure failed
    obtain ⟨op, member, call, called, refused⟩ := refused_of_install named failed
    refine ⟨⟨op, member, call, called, refused⟩, fun what => ?_⟩
    rw [refused]
    exact call.refusal_ne _
  · intro i b at_i
    exact inOrder.refers at_i
  · intro i q at_i
    obtain ⟨x, member, same, sends⟩ := sends_of_built settings built i _ at_i
    exact ⟨x, member, same, same ▸ x.get?_declared, sends⟩
  · obtain ⟨i, x, member, at_i, last, name, sends, left⟩ := consumed_of_built settings built
    refine ⟨i, x, member, at_i, last, congrArg some name, sends, fun leaves => ?_⟩
    rw [x.get?_declared, left leaves, Option.none_or]
  · intro o source
    exact endsBound_of_built settings built source
  · intro c cyclic
    cases source : s.source with
    | queue =>
        rw [Subscription.deadLetter, source] at cyclic
        cases cyclic
    | exchange o =>
        have cycle := (deadLetter_of_source source).symm.trans cyclic
        rw [operations_of_cycle settings built source cycle]
        exact ⟨by simp, by simp⟩

end plan

/-- The plan of a subscription whose objects are all renamed. -/
theorem selfContained_of_invoices : invoices.build = .ok invoices
    ∧ (Plan.ofSubscription invoices ⟨"shop", 4⟩).SelfContained "shop" invoices :=
  ⟨rfl, selfContained_of_built ⟨"shop", 4⟩ ⟨invoices, rfl⟩⟩

end Courier.Topology
