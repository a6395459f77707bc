/-
How far the derived names keep groups and exchanges apart.

All names that are derived for a group and an exchange begin with the same
text, the exchange and the group with `_` between them, and end in what tells
the kinds of objects apart. So the names of two pairs are the same or differ
all together, and which it is depends on that text (`names_eq_iff`).

Two different pairs have the same text where one of the exchanges goes on
behind a `_` where the other ends, with what the other's group begins with
(`Overlap`). That takes a `_` in a group and in an exchange, and both to
differ: for one exchange, the names of different groups are different.
-/
import Courier.Proofs.Topology.Cycles

namespace Courier.Topology

-- ===================================================== statement vocabulary

/-- The exchange of the second pair begins as the first pair does, and the
group of the first pair ends as the second pair does. -/
def GoesOn (group exchange group' exchange' : String) : Prop :=
  ∃ middle, exchange' = exchange ++ "_" ++ middle ∧ group = middle ++ "_" ++ group'

/-- Pairs of a group and an exchange that have the same names: the same pair,
or one that can be split in two ways. -/
def Overlap (group exchange group' exchange' : String) : Prop :=
  (group = group' ∧ exchange = exchange')
    ∨ GoesOn group exchange group' exchange' ∨ GoesOn group' exchange' group exchange

/-- Pairs of one group, of one exchange, or without a `_` in their groups or in
their exchanges. -/
def Discernible (group exchange group' exchange' : String) : Prop :=
  group = group' ∨ exchange = exchange' ∨ ('_' ∉ group.toList ∧ '_' ∉ group'.toList)
    ∨ ('_' ∉ exchange.toList ∧ '_' ∉ exchange'.toList)

/-- A subscription to an exchange, as it is built, that leaves all names of
its queues and of its cycle to be derived. -/
structure Derives (s : Subscription) (o : ExchangeOptions) : Prop where
  built : ∃ draft : Subscription, draft.build = .ok s
  source : s.source = .exchange o
  queue : o.queue.bind (·.name) = none
  cycle : ∀ c, o.deadLetter = some c → c.startExchange.bind (·.name) = none
    ∧ c.endExchange.bind (·.name) = none ∧ c.errorQueue.bind (·.name) = none

/-- The exchanges of the cycle of a subscription. -/
def cycleExchanges (group : String) (s : Subscription) : List String :=
  match s.deadLetter with
  | none => []
  | some c => [startNameOf c group s.name, endNameOf c group s.name]

-- ============================================================== one text

/-- Two ways to split a list at a separator. -/
theorem append_cons_eq_iff {α : Type} {sep : α} {a b c d : List α} :
    a ++ sep :: b = c ++ sep :: d
      ↔ (b = d ∧ a = c) ∨ (∃ m, c = a ++ sep :: m ∧ b = m ++ sep :: d)
        ∨ ∃ m, a = c ++ sep :: m ∧ d = m ++ sep :: b := by
  rw [List.append_eq_append_iff]
  constructor
  · rintro (⟨m, long, rest⟩ | ⟨m, long, rest⟩)
    · cases m with
      | nil =>
          cases rest
          exact .inl ⟨rfl, (List.append_nil a).symm.trans long.symm⟩
      | cons x m =>
          cases rest
          exact .inr (.inl ⟨m, long, rfl⟩)
    · cases m with
      | nil =>
          cases rest
          exact .inl ⟨rfl, long.trans (List.append_nil c)⟩
      | cons x m =>
          cases rest
          exact .inr (.inr ⟨m, long, rfl⟩)
  · rintro (⟨rfl, rfl⟩ | ⟨m, rfl, rfl⟩ | ⟨m, rfl, rfl⟩)
    · exact .inl ⟨[], (List.append_nil a).symm, rfl⟩
    · exact .inl ⟨sep :: m, rfl, rfl⟩
    · exact .inr ⟨sep :: m, rfl, rfl⟩

theorem toList_join (a b : String) : (a ++ "_" ++ b).toList = a.toList ++ '_' :: b.toList := by
  rw [String.toList_append, String.toList_append, List.append_assoc]
  rfl

/-- A text is two others with a separator between exactly if its characters are. -/
theorem eq_join_iff {a b c : String} :
    a = b ++ "_" ++ c ↔ a.toList = b.toList ++ '_' :: c.toList := by
  rw [← toList_join, String.toList_inj]

/-- Characters may be looked for as a text. -/
theorem exists_middle {P : List Char → Prop} :
    (∃ m : List Char, P m) ↔ ∃ middle : String, P middle.toList :=
  ⟨fun ⟨m, h⟩ => ⟨String.ofList m, by rwa [String.toList_ofList]⟩, fun ⟨middle, h⟩ => ⟨_, h⟩⟩

/-- Two names of two parts each are the same exactly if the parts are, or overlap. -/
theorem join_eq_iff {group exchange group' exchange' : String} :
    exchange ++ "_" ++ group = exchange' ++ "_" ++ group'
      ↔ Overlap group exchange group' exchange' := by
  rw [eq_join_iff, toList_join, append_cons_eq_iff, exists_middle, exists_middle]
  simp only [Overlap, GoesOn, eq_join_iff, String.toList_inj]

-- ================================================================ the names

section names

variable {group exchange group' exchange' : String}

/-- The derived names all have a suffix behind the two parts, which can be taken
off. -/
theorem mainQueueName_eq_iff : mainQueueName group exchange = mainQueueName group' exchange'
    ↔ Overlap group exchange group' exchange' := by
  rw [← join_eq_iff, mainQueueName, mainQueueName, String.append_left_inj]

theorem errorQueueName_eq_iff : errorQueueName group exchange = errorQueueName group' exchange'
    ↔ Overlap group exchange group' exchange' := by
  rw [← join_eq_iff, errorQueueName, errorQueueName, String.append_left_inj]

theorem startExchangeName_eq_iff :
    startExchangeName group exchange = startExchangeName group' exchange'
      ↔ Overlap group exchange group' exchange' := by
  rw [← join_eq_iff, startExchangeName, startExchangeName, String.append_left_inj]

theorem endExchangeName_eq_iff : endExchangeName group exchange = endExchangeName group' exchange'
    ↔ Overlap group exchange group' exchange' := by
  rw [← join_eq_iff, endExchangeName, endExchangeName, String.append_left_inj]

/-- To be discernible has no direction. -/
theorem Discernible.symm (apart : Discernible group exchange group' exchange') :
    Discernible group' exchange' group exchange := by
  rcases apart with same | same | ⟨one, other⟩ | ⟨one, other⟩
  · exact .inl same.symm
  · exact .inr (.inl same.symm)
  · exact .inr (.inr (.inl ⟨other, one⟩))
  · exact .inr (.inr (.inr ⟨other, one⟩))

/-- Where one pair goes on, the lengths differ, and there is a `_` in a group
and in an exchange. -/
theorem GoesOn.not_discernible (goesOn : GoesOn group exchange group' exchange') :
    ¬ Discernible group exchange group' exchange' := by
  obtain ⟨middle, longer, shorter⟩ := goesOn
  have exchanges := eq_join_iff.1 longer
  have groups := eq_join_iff.1 shorter
  rintro (same | same | ⟨free, -⟩ | ⟨-, free⟩)
  · have length := congrArg List.length groups
    rw [same, List.length_append, List.length_cons] at length
    omega
  · have length := congrArg List.length exchanges
    rw [same, List.length_append, List.length_cons] at length
    omega
  · rw [groups] at free
    exact free (List.mem_append_right _ List.mem_cons_self)
  · rw [exchanges] at free
    exact free (List.mem_append_right _ List.mem_cons_self)

/-- Pairs that can be told apart overlap only with themselves. -/
theorem Overlap.eq_of_discernible (overlap : Overlap group exchange group' exchange')
    (apart : Discernible group exchange group' exchange') :
    group = group' ∧ exchange = exchange' := by
  rcases overlap with same | goesOn | goesOn
  · exact same
  · exact absurd apart goesOn.not_discernible
  · exact absurd apart.symm goesOn.not_discernible

end names

-- ================================================================= the plans

section plans

variable {s s' : Subscription} {o o' : ExchangeOptions} {settings settings' : Settings.Consumer}
  {queue exchange : String}

/-- The queues that are declared under derived names. -/
theorem Derives.queue_iff (derives : Derives s o) :
    queue ∈ declaredQueues (Plan.ofSubscription s settings).operations
      ↔ queue = mainQueueName settings.group s.name
        ∨ (s.deadLetter.isSome ∧ queue = errorQueueName settings.group s.name) := by
  have main : Queue.nameOr o.queue (mainQueueName settings.group s.name)
      = mainQueueName settings.group s.name := by
    rw [Queue.nameOr, derives.queue]
    rfl
  have deadLetter := deadLetter_of_source derives.source
  cases cycle : o.deadLetter with
  | none =>
      rw [operations_of_bare settings derives.built derives.source cycle, deadLetter, cycle]
      simp [declaredQueues, QueueObject.declared, bareQueue, main]
  | some c =>
      have error : Queue.nameOr c.errorQueue (errorQueueName settings.group s.name)
          = errorQueueName settings.group s.name := by
        rw [Queue.nameOr, (derives.cycle c cycle).2.2]
        rfl
      rw [operations_of_cycle settings derives.built derives.source cycle, deadLetter, cycle]
      simp [declaredQueues, QueueObject.declared, mainQueue, errorQueue, main, error, or_comm]

/-- Two plans with derived names share a queue exactly if their pairs overlap. -/
theorem Derives.shares_queue_iff (derives : Derives s o) (derives' : Derives s' o') :
    (∃ queue ∈ declaredQueues (Plan.ofSubscription s settings).operations,
        queue ∈ declaredQueues (Plan.ofSubscription s' settings').operations)
      ↔ Overlap settings.group s.name settings'.group s'.name := by
  constructor
  · rintro ⟨queue, one, other⟩
    rcases derives.queue_iff.1 one with rfl | ⟨-, rfl⟩
    · rcases derives'.queue_iff.1 other with same | ⟨-, same⟩
      · exact mainQueueName_eq_iff.1 same
      · exact absurd same (mainQueueName_ne_errorQueueName _ _ _ _)
    · rcases derives'.queue_iff.1 other with same | ⟨-, same⟩
      · exact absurd same.symm (mainQueueName_ne_errorQueueName _ _ _ _)
      · exact errorQueueName_eq_iff.1 same
  · intro overlap
    exact ⟨_, derives.queue_iff.2 (.inl rfl),
      derives'.queue_iff.2 (.inl (mainQueueName_eq_iff.2 overlap))⟩

/-- The exchanges of a cycle are the two ends of it. -/
theorem Derives.exchange_iff (derives : Derives s o) {group : String} :
    exchange ∈ cycleExchanges group s ↔ s.deadLetter.isSome
      ∧ (exchange = startExchangeName group s.name ∨ exchange = endExchangeName group s.name) := by
  have deadLetter := deadLetter_of_source derives.source
  unfold cycleExchanges
  cases cycle : o.deadLetter with
  | none => simp [deadLetter, cycle]
  | some c =>
      obtain ⟨start, ends, -⟩ := derives.cycle c cycle
      simp [deadLetter, cycle, startNameOf, endNameOf, start, ends]

/-- They share an exchange of their cycles exactly if both have one and their
pairs overlap. -/
theorem Derives.shares_cycle_iff (derives : Derives s o) (derives' : Derives s' o')
    {group group' : String} :
    (∃ exchange ∈ cycleExchanges group s, exchange ∈ cycleExchanges group' s')
      ↔ s.deadLetter.isSome ∧ s'.deadLetter.isSome ∧ Overlap group s.name group' s'.name := by
  constructor
  · rintro ⟨exchange, one, other⟩
    obtain ⟨cyclic, rfl | rfl⟩ := derives.exchange_iff.1 one
    · obtain ⟨cyclic', same | same⟩ := derives'.exchange_iff.1 other
      · exact ⟨cyclic, cyclic', startExchangeName_eq_iff.1 same⟩
      · exact absurd same (startExchangeName_ne_endExchangeName _ _ _ _)
    · obtain ⟨cyclic', same | same⟩ := derives'.exchange_iff.1 other
      · exact absurd same.symm (startExchangeName_ne_endExchangeName _ _ _ _)
      · exact ⟨cyclic, cyclic', endExchangeName_eq_iff.1 same⟩
  · rintro ⟨cyclic, cyclic', overlap⟩
    exact ⟨_, derives.exchange_iff.2 ⟨cyclic, .inl rfl⟩,
      derives'.exchange_iff.2 ⟨cyclic', .inl (startExchangeName_eq_iff.2 overlap)⟩⟩

end plans

-- ========================================================== the main result

/-- The names of two pairs of a group and an exchange agree, each kind of them,
exactly if the pairs overlap; pairs of one group or of one exchange, or without
a `_` in the groups or in the exchanges, do so only if they are the same. A
main queue never has the name of an error queue. Subscriptions whose names are
derived share a queue exactly if their pairs overlap, and an exchange of their
cycles exactly if both have one besides. -/
theorem derived_names_agree_iff (group exchange group' exchange' : String) :
    (mainQueueName group exchange = mainQueueName group' exchange'
        ↔ Overlap group exchange group' exchange')
      ∧ (errorQueueName group exchange = errorQueueName group' exchange'
        ↔ Overlap group exchange group' exchange')
      ∧ (startExchangeName group exchange = startExchangeName group' exchange'
        ↔ Overlap group exchange group' exchange')
      ∧ (endExchangeName group exchange = endExchangeName group' exchange'
        ↔ Overlap group exchange group' exchange')
      ∧ mainQueueName group exchange ≠ errorQueueName group' exchange'
      ∧ (Discernible group exchange group' exchange' →
        Overlap group exchange group' exchange' → group = group' ∧ exchange = exchange')
      ∧ ∀ (s s' : Subscription) (o o' : ExchangeOptions) (max max' : UInt16),
        Derives s o → s.name = exchange → Derives s' o' → s'.name = exchange' →
          ((∃ queue ∈ declaredQueues (Plan.ofSubscription s ⟨group, max⟩).operations,
              queue ∈ declaredQueues (Plan.ofSubscription s' ⟨group', max'⟩).operations)
            ↔ Overlap group exchange group' exchange')
          ∧ ((∃ name ∈ cycleExchanges group s, name ∈ cycleExchanges group' s')
            ↔ s.deadLetter.isSome ∧ s'.deadLetter.isSome
              ∧ Overlap group exchange group' exchange') := by
  refine ⟨mainQueueName_eq_iff, errorQueueName_eq_iff, startExchangeName_eq_iff,
    endExchangeName_eq_iff, mainQueueName_ne_errorQueueName _ _ _ _, ?_, ?_⟩
  · intro apart overlap
    exact overlap.eq_of_discernible apart
  · rintro s s' o o' max max' derives rfl derives' rfl
    exact ⟨derives.shares_queue_iff derives', derives.shares_cycle_iff derives'⟩

/-- Two groups that consume one exchange keep apart. -/
theorem derived_names_of_orders : Derives orders { deadLetter := some {} }
    ∧ Discernible "billing" "orders" "shipping" "orders"
    ∧ (¬ ∃ queue ∈ declaredQueues (Plan.ofSubscription orders ⟨"billing", 4⟩).operations,
      queue ∈ declaredQueues (Plan.ofSubscription orders ⟨"shipping", 4⟩).operations)
    ∧ ¬ ∃ name ∈ cycleExchanges "billing" orders, name ∈ cycleExchanges "shipping" orders := by
  have derives : Derives orders { deadLetter := some {} } := by
    refine ⟨⟨orders, rfl⟩, rfl, rfl, ?_⟩
    intro c cycle
    cases cycle
    exact ⟨rfl, rfl, rfl⟩
  have discernible : Discernible "billing" "orders" "shipping" "orders" := .inr (.inl rfl)
  obtain ⟨-, -, -, -, -, apart, plans⟩ :=
    derived_names_agree_iff "billing" "orders" "shipping" "orders"
  obtain ⟨queues, cycles⟩ := plans orders orders _ _ 4 4 derives rfl derives rfl
  have differ : ¬ Overlap "billing" "orders" "shipping" "orders" :=
    fun overlap => absurd (apart discernible overlap).1 (by decide)
  exact ⟨derives, discernible, fun shared => differ (queues.1 shared),
    fun shared => differ (cycles.1 shared).2.2⟩

/-- Group `a` of exchange `b_c` and group `c_a` of exchange `b` have all their
names in common. -/
theorem names_collide : Text.isBlank "a" = false ∧ Text.isBlank "b_c" = false
    ∧ Text.isBlank "c_a" = false ∧ Text.isBlank "b" = false
    ∧ ("a", "b_c") ≠ ("c_a", "b")
    ∧ mainQueueName "a" "b_c" = mainQueueName "c_a" "b"
    ∧ errorQueueName "a" "b_c" = errorQueueName "c_a" "b"
    ∧ startExchangeName "a" "b_c" = startExchangeName "c_a" "b"
    ∧ endExchangeName "a" "b_c" = endExchangeName "c_a" "b" := by
  decide

end Courier.Topology
