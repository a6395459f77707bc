/-
What is set up on a broker once the plans of subscriptions were installed
on it, and where messages go there.

# Operations as a broker

A broker that was asked for operations which all found what they refer to
holds what the operations say, in their order (`Broker.ofOperations`).
That each finds it is a matter of their order (`InOrder`); that none asks
for something twice, of the names (`install_inOrder`). Both are stated for
any operations, not just for those of a plan.

# Names that occur once

Where no name is declared twice and no exchange is bound twice, looking
for a name finds the object itself, and a fanout exchange fills the one
queue bound to it (`routes_ofOperations`).
-/
import Courier.Topology.Broker
import Mathlib.Data.List.Perm.Basic

namespace Courier.Topology

variable {ops done : List Operation} {chooses : Choice}

-- ================================================= the names in operations

/-- The names of the exchanges that operations declare. -/
def declaredExchanges (ops : List Operation) : List String :=
  ops.filterMap fun
    | .declareExchange e => e.name
    | _ => none

/-- The names of the queues that operations declare. -/
def declaredQueues (ops : List Operation) : List String :=
  ops.filterMap fun
    | .declareQueue q => q.name
    | _ => none

/-- The exchanges that operations bind queues to. -/
def boundExchanges (ops : List Operation) : List String :=
  ops.filterMap fun
    | .bindQueue x => x.exchange
    | _ => none

/-- A broker on which operations were asked for, each of them new. -/
def Broker.ofOperations (ops : List Operation) : Broker where
  exchanges := ops.filterMap fun
    | .declareExchange e => some e
    | _ => none
  queues := ops.filterMap fun
    | .declareQueue q => some q
    | _ => none
  queueBindings := ops.filterMap fun
    | .bindQueue x => some x
    | _ => none
  exchangeBindings := ops.filterMap fun
    | .bindExchange x => some x
    | _ => none

open Broker (ofOperations)

/-- The exchanges that a broker has are those that were declared. -/
theorem exchanges_ofOperations (ops : List Operation) :
    (ofOperations ops).exchanges.filterMap (·.name) = declaredExchanges ops := by
  unfold ofOperations declaredExchanges
  rw [List.filterMap_filterMap]
  congr 1
  funext op
  cases op with
  | _ => rfl

/-- The queues that it has are those that were declared. -/
theorem queues_ofOperations (ops : List Operation) :
    (ofOperations ops).queues.filterMap (·.name) = declaredQueues ops := by
  unfold ofOperations declaredQueues
  rw [List.filterMap_filterMap]
  congr 1
  funext op
  cases op with
  | _ => rfl

/-- Its queues are bound to the exchanges that were bound. -/
theorem bindings_ofOperations (ops : List Operation) :
    (ofOperations ops).queueBindings.filterMap (·.exchange) = boundExchanges ops := by
  unfold ofOperations boundExchanges
  rw [List.filterMap_filterMap]
  congr 1
  funext op
  cases op with
  | _ => rfl

theorem mem_exchanges_ofOperations {e : Exchange} (member : .declareExchange e ∈ ops) :
    e ∈ (ofOperations ops).exchanges :=
  List.mem_filterMap.2 ⟨_, member, rfl⟩

theorem mem_queues_ofOperations {q : Queue} (member : .declareQueue q ∈ ops) :
    q ∈ (ofOperations ops).queues :=
  List.mem_filterMap.2 ⟨_, member, rfl⟩

theorem mem_bindings_ofOperations {x : QueueBinding} (member : .bindQueue x ∈ ops) :
    x ∈ (ofOperations ops).queueBindings :=
  List.mem_filterMap.2 ⟨_, member, rfl⟩

/-- Operations that come later add to what there is, and take nothing away. -/
theorem ofOperations_append (ops more : List Operation) :
    ofOperations (ops ++ more) = {
      exchanges := (ofOperations ops).exchanges ++ (ofOperations more).exchanges
      queues := (ofOperations ops).queues ++ (ofOperations more).queues
      queueBindings := (ofOperations ops).queueBindings ++ (ofOperations more).queueBindings
      exchangeBindings :=
        (ofOperations ops).exchangeBindings ++ (ofOperations more).exchangeBindings } := by
  unfold ofOperations
  rw [List.filterMap_append, List.filterMap_append, List.filterMap_append, List.filterMap_append]

-- ========================================================== what is found

section lookup

variable {α : Type} {l : List α} {key : α → Option String} {x : α} {name : String}

/-- Where no key occurs twice, the entries with one key are the one that has it. -/
theorem filter_key (nodup : (l.filterMap key).Nodup) (member : x ∈ l) (hx : key x = some name) :
    l.filter (key · == some name) = [x] := by
  induction l with
  | nil => cases member
  | cons y rest ih =>
      have absent : key y = some name → name ∉ rest.filterMap key := by
        intro hy
        rw [List.filterMap_cons_some hy] at nodup
        exact (List.nodup_cons.1 nodup).1
      have later : (rest.filterMap key).Nodup :=
        nodup.sublist ((List.sublist_cons_self y rest).filterMap key)
      rcases List.mem_cons.1 member with rfl | inRest
      · rw [List.filter_cons_of_pos (by simp [hx]), List.filter_eq_nil_iff.2]
        intro z hz same
        exact absent hx (List.mem_filterMap.2 ⟨z, hz, beq_iff_eq.1 same⟩)
      · rw [List.filter_cons_of_neg, ih later inRest]
        intro same
        exact absent (beq_iff_eq.1 same) (List.mem_filterMap.2 ⟨x, inRest, hx⟩)

/-- Where no name is there twice, an object is found by its name. -/
theorem find?_key (nodup : (l.filterMap key).Nodup) (member : x ∈ l) (hx : key x = some name) :
    l.find? (key · == some name) = some x := by
  rw [← List.head?_filter, filter_key nodup member hx]
  rfl

/-- Something is found under a name exactly if the name is there. -/
theorem find?_key_isSome : (l.find? (key · == some name)).isSome = true
    ↔ name ∈ l.filterMap key := by
  rw [List.find?_isSome, List.mem_filterMap]
  constructor
  · rintro ⟨y, hy, same⟩
    exact ⟨y, hy, beq_iff_eq.1 same⟩
  · rintro ⟨y, hy, same⟩
    exact ⟨y, hy, beq_iff_eq.2 same⟩

end lookup

/-- A broker has the exchanges that were declared, by name. -/
theorem hasExchange_ofOperations {name : String} :
    (ofOperations ops).hasExchange name = true ↔ name ∈ declaredExchanges ops := by
  rw [← exchanges_ofOperations]
  exact find?_key_isSome

/-- A broker has the queues that were declared, by name. -/
theorem hasQueue_ofOperations {name : String} :
    (ofOperations ops).hasQueue name = true ↔ name ∈ declaredQueues ops := by
  rw [← queues_ofOperations]
  exact find?_key_isSome

-- ============================================================ installing

/-- An operation is named, and what it binds was declared before. -/
def Refers (done : List Operation) : Operation → Prop
  | .declareExchange e => ∃ name, e.name = some name
  | .declareQueue q => ∃ name, q.name = some name
  | .bindQueue x => (∃ queue ∈ declaredQueues done, x.queue = some queue)
    ∧ ∃ exchange ∈ declaredExchanges done, x.exchange = some exchange
  | .bindExchange x =>
    x.destination ∈ declaredExchanges done ∧ x.source ∈ declaredExchanges done

/-- Every operation finds what it refers to among those before it. -/
def InOrder (done : List Operation) : List Operation → Prop
  | [] => True
  | op :: rest => Refers done op ∧ InOrder (done ++ [op]) rest

theorem declaredExchanges_append (ops more : List Operation) :
    declaredExchanges (ops ++ more) = declaredExchanges ops ++ declaredExchanges more :=
  List.filterMap_append

theorem declaredQueues_append (ops more : List Operation) :
    declaredQueues (ops ++ more) = declaredQueues ops ++ declaredQueues more :=
  List.filterMap_append

/-- What an operation refers to is still there when more was done before. -/
theorem Refers.mono {op : Operation} (refers : Refers done op) (more : List Operation) :
    Refers (more ++ done) op := by
  cases op with
  | declareExchange e => exact refers
  | declareQueue q => exact refers
  | bindQueue x =>
      obtain ⟨⟨queue, hq, xq⟩, exchange, he, xe⟩ := refers
      refine ⟨⟨queue, ?_, xq⟩, exchange, ?_, xe⟩
      · rw [declaredQueues_append]
        exact List.mem_append_right _ hq
      · rw [declaredExchanges_append]
        exact List.mem_append_right _ he
  | bindExchange x =>
      unfold Refers
      rw [declaredExchanges_append]
      exact ⟨List.mem_append_right _ refers.1, List.mem_append_right _ refers.2⟩

/-- What was declared before does not spoil the order. -/
theorem InOrder.mono (inOrder : InOrder done ops) (more : List Operation) :
    InOrder (more ++ done) ops := by
  induction ops generalizing done with
  | nil => trivial
  | cons op rest ih =>
      refine ⟨inOrder.1.mono more, ?_⟩
      rw [List.append_assoc]
      exact ih inOrder.2

/-- An operation that has all its names is asked for. -/
theorem Refers.call {op : Operation} (refers : Refers done op) : ∃ call, op.call = .ok call := by
  cases op with
  | declareExchange e =>
      obtain ⟨name, he⟩ := refers
      refine ⟨.declareExchange name, ?_⟩
      simp only [Operation.call, he]
      rfl
  | declareQueue q =>
      obtain ⟨name, hq⟩ := refers
      refine ⟨.declareQueue name, ?_⟩
      simp only [Operation.call, hq]
      rfl
  | bindQueue x =>
      obtain ⟨⟨queue, -, hq⟩, exchange, -, he⟩ := refers
      refine ⟨.bindQueue queue exchange x.routingKey, ?_⟩
      simp only [Operation.call, hq, he]
      rfl
  | bindExchange x => exact ⟨_, rfl⟩

/-- A broker accepts an operation that is new and finds what it refers to. -/
theorem ask_refers {op : Operation} (refers : Refers done op)
    (exchanges : (declaredExchanges (done ++ [op])).Nodup)
    (queues : (declaredQueues (done ++ [op])).Nodup) :
    (ofOperations done).ask op = (true, ofOperations (done ++ [op])) := by
  rw [ofOperations_append]
  cases op with
  | declareExchange e =>
      obtain ⟨name, he⟩ := refers
      have new : (ofOperations done).exchange? name = none := by
        rw [declaredExchanges_append, List.nodup_append] at exchanges
        rw [← Option.not_isSome_iff_eq_none]
        intro there
        exact exchanges.2.2 name (hasExchange_ofOperations.1 there) name
          (List.mem_filterMap.2 ⟨_, List.mem_cons_self, he⟩) rfl
      simp only [Broker.ask, he, Option.bind_some, new]
      simp only [ofOperations, List.filterMap_cons, List.filterMap_nil, List.append_nil]
  | declareQueue q =>
      obtain ⟨name, hq⟩ := refers
      have new : (ofOperations done).queue? name = none := by
        rw [declaredQueues_append, List.nodup_append] at queues
        rw [← Option.not_isSome_iff_eq_none]
        intro there
        exact queues.2.2 name (hasQueue_ofOperations.1 there) name
          (List.mem_filterMap.2 ⟨_, List.mem_cons_self, hq⟩) rfl
      simp only [Broker.ask, hq, Option.bind_some, new]
      simp only [ofOperations, List.filterMap_cons, List.filterMap_nil, List.append_nil]
  | bindQueue x =>
      obtain ⟨⟨queue, hq, xq⟩, exchange, he, xe⟩ := refers
      have there := hasQueue_ofOperations.2 hq
      have there' := hasExchange_ofOperations.2 he
      simp only [Broker.ask, xq, xe, Option.any_some, there, there', Bool.and_self, if_true]
      simp only [ofOperations, List.filterMap_cons, List.filterMap_nil, List.append_nil]
  | bindExchange x =>
      have there := hasExchange_ofOperations.2 refers.1
      have there' := hasExchange_ofOperations.2 refers.2
      simp only [Broker.ask, there, there', Bool.and_self, if_true]
      simp only [ofOperations, List.filterMap_cons, List.filterMap_nil, List.append_nil]

/-- An operation that refers only to what there is, and declares no name twice, is
accepted. -/
theorem perform_refers {op : Operation} (refers : Refers done op)
    (exchanges : (declaredExchanges (done ++ [op])).Nodup)
    (queues : (declaredQueues (done ++ [op])).Nodup) :
    Broker.channel.perform (ofOperations done) op = (.ok (), ofOperations (done ++ [op])) := by
  obtain ⟨call, hcall⟩ := refers.call
  have accepted : Broker.channel.ask (ofOperations done) op
      = (true, ofOperations (done ++ [op])) := ask_refers refers exchanges queues
  simp only [Channel.perform, hcall, accepted]

/-- Operations in order, none of which declares a name again, are all
accepted, and make up the broker. -/
theorem install_inOrder (inOrder : InOrder done ops)
    (exchanges : (declaredExchanges (done ++ ops)).Nodup)
    (queues : (declaredQueues (done ++ ops)).Nodup) :
    Broker.channel.install (ofOperations done) ops = (.ok (), ofOperations (done ++ ops)) := by
  induction ops generalizing done with
  | nil =>
      rw [List.append_nil]
      rfl
  | cons op rest ih =>
      have split : done ++ op :: rest = done ++ [op] ++ rest := by
        rw [List.append_assoc]
        rfl
      rw [split] at exchanges queues ⊢
      have first := perform_refers inOrder.1
        (by rw [declaredExchanges_append] at exchanges; exact (List.nodup_append.1 exchanges).1)
        (by rw [declaredQueues_append] at queues; exact (List.nodup_append.1 queues).1)
      unfold Channel.install
      rw [first]
      exact ih inOrder.2 exchanges queues

-- =============================================================== routing

/-- A fanout exchange that one queue is bound to fills that one. -/
theorem routes_ofOperations (exchanges : (declaredExchanges ops).Nodup)
    (bound : (boundExchanges ops).Nodup)
    (alone : (ofOperations ops).exchangeBindings = []) {name queue : String} {e : Exchange}
    (he : .declareExchange e ∈ ops) (named : e.name = some name) (fanout : e.kind = .fanout)
    {x : QueueBinding} (hx : .bindQueue x ∈ ops) (source : x.exchange = some name)
    (target : x.queue = some queue) (n : Nat) :
    (ofOperations ops).routes chooses name n = [queue] := by
  have found : (ofOperations ops).exchange? name = some e := by
    rw [← exchanges_ofOperations] at exchanges
    exact find?_key exchanges (mem_exchanges_ofOperations he) named
  have passes : ∀ key arguments, (ofOperations ops).passes chooses name key arguments n = true := by
    intro key arguments
    unfold Broker.passes
    rw [found, Option.any_some, fanout]
    rfl
  have only : (ofOperations ops).queueBindings.filter (·.exchange == some name) = [x] := by
    rw [← bindings_ofOperations] at bound
    exact filter_key bound (mem_bindings_ofOperations hx) source
  unfold Broker.routes
  rw [alone]
  have same : ∀ y ∈ (ofOperations ops).queueBindings,
      (y.exchange.any fun source => [name].contains source
        && (ofOperations ops).passes chooses source y.routingKey y.arguments n)
      = (y.exchange == some name) := by
    intro y _
    cases y.exchange with
    | none => rfl
    | some source =>
        rw [Option.any_some]
        by_cases here : source = name
        · subst here
          rw [passes]
          simp
        · simp [here]
  simp only [List.length_nil, Broker.reached]
  rw [List.filter_congr same, only, List.filterMap_cons_some target]
  rfl

/-- Looking for a queue finds the one that was declared. -/
theorem queue?_ofOperations (queues : (declaredQueues ops).Nodup) {queue : String} {q : Queue}
    (hq : .declareQueue q ∈ ops) (named : q.name = some queue) :
    (ofOperations ops).queue? queue = some q := by
  rw [← queues_ofOperations] at queues
  exact find?_key queues (mem_queues_ofOperations hq) named

/-- A message that leaves a queue goes where its dead-letter exchange leads. -/
theorem deadLetters_ofOperations (queues : (declaredQueues ops).Nodup) {queue next : String}
    {q : Queue} (hq : .declareQueue q ∈ ops) (named : q.name = some queue)
    (leads : q.deadLetterExchange? = some next) (n : Nat) :
    (ofOperations ops).deadLetters chooses queue n = (ofOperations ops).routes chooses next n := by
  unfold Broker.deadLetters
  rw [queue?_ofOperations queues hq named, Option.bind_some, leads]

end Courier.Topology
