/-
How long the names of a plan become.

Names and routing keys are sent as short strings, of 255 bytes at most. A name
that is derived from an exchange and a group has both of them in it and 12 to
22 bytes more, so it can be too long where neither of the two is; and building
a subscription looks at names only for being blank (`too_long_of_lengthy`).

For texts that are short themselves, what is left to ask is whether exchange
and group leave that room, once for each object that is not given a name of its
own (`LeavesRoom`). The plan is read an operation at a time: the names of its
objects come up where they are declared and again where they are bound, but
all of them are the names of the few objects that Objects.lean tells it by.
-/
import Courier.Proofs.Topology.Objects

namespace Courier.Topology

variable {s : Subscription} {o : ExchangeOptions} {c : Cycle} {group exchange : String}

-- ===================================================== statement vocabulary

/-- The most bytes that a short string holds. -/
def shortBytes : Nat := 255

/-- A text that can be sent as a short string. -/
def IsShort (text : String) : Prop := text.utf8ByteSize ≤ shortBytes

instance (text : String) : Decidable (IsShort text) :=
  inferInstanceAs (Decidable (text.utf8ByteSize ≤ shortBytes))

/-- The short strings that a call is sent with. -/
def Call.texts : Call → List String
  | .declareExchange name => [name]
  | .declareQueue name => [name]
  | .bindQueue queue exchange key => [queue, exchange, key]
  | .bindExchange destination source key => [destination, source, key]

/-- An operation that can be sent. -/
def Operation.IsSendable (op : Operation) : Prop :=
  ∃ call, op.call = .ok call ∧ ∀ text ∈ call.texts, IsShort text

/-- A plan that can be sent, and its queue consumed. -/
def Plan.IsSendable (p : Plan) : Prop :=
  IsShort p.queue ∧ ∀ op ∈ p.operations, op.IsSendable

/-- The names and routing keys that a cycle is given. -/
def givenToCycle (c : Cycle) : List String :=
  (c.startExchange.bind (·.name)).toList ++ (c.endExchange.bind (·.name)).toList
    ++ (c.errorQueue.bind (·.name)).toList ++ (c.errorQueueBinding.map (·.routingKey)).toList
    ++ (c.mainQueueBinding.map (·.routingKey)).toList

/-- Those that a subscription is given with its overrides. A name that is given
to the exchange subscribed to is dropped, and names in bindings do not matter. -/
def givenTexts (s : Subscription) : List String :=
  match s.source with
  | .queue => []
  | .exchange o => (o.queue.bind (·.name)).toList ++ (o.binding.map (·.routingKey)).toList
      ++ (o.deadLetter.map givenToCycle).getD []

/-- The bytes of an exchange and of a group together. -/
def jointBytes (group exchange : String) : Nat := exchange.utf8ByteSize + group.utf8ByteSize

/-- The exchange and the group leave room for the rest of each name that is
derived from them. -/
structure LeavesRoom (group : String) (s : Subscription) (o : ExchangeOptions) : Prop where
  mainQueue : o.queue.bind (·.name) = none → jointBytes group s.name ≤ 243
  errorQueue : ∀ c, o.deadLetter = some c → c.errorQueue.bind (·.name) = none →
    jointBytes group s.name ≤ 242
  endExchange : ∀ c, o.deadLetter = some c → c.endExchange.bind (·.name) = none →
    jointBytes group s.name ≤ 235
  startExchange : ∀ c, o.deadLetter = some c → c.startExchange.bind (·.name) = none →
    jointBytes group s.name ≤ 233

-- ================================================================ the names

/-- A name that goes on behind the exchange and the group is short if they keep
to the room that its ending leaves them. -/
theorem isShort_derived_iff {ending : String} {room : Nat}
    (rest : room + 1 + ending.utf8ByteSize = shortBytes) :
    IsShort (exchange ++ "_" ++ group ++ ending) ↔ jointBytes group exchange ≤ room := by
  have separator : "_".utf8ByteSize = 1 := rfl
  rw [IsShort, String.utf8ByteSize_append, String.utf8ByteSize_append,
    String.utf8ByteSize_append, separator, jointBytes]
  omega

theorem isShort_mainQueueName_iff :
    IsShort (mainQueueName group exchange) ↔ jointBytes group exchange ≤ 243 :=
  isShort_derived_iff rfl

theorem isShort_errorQueueName_iff :
    IsShort (errorQueueName group exchange) ↔ jointBytes group exchange ≤ 242 :=
  isShort_derived_iff rfl

theorem isShort_endExchangeName_iff :
    IsShort (endExchangeName group exchange) ↔ jointBytes group exchange ≤ 235 :=
  isShort_derived_iff rfl

theorem isShort_startExchangeName_iff :
    IsShort (startExchangeName group exchange) ↔ jointBytes group exchange ≤ 233 :=
  isShort_derived_iff rfl

/-- Where a name is short if it is given, it is the derived one that matters. -/
theorem isShort_getD_iff {name : Option String} {derived : String}
    (given : ∀ text ∈ name.toList, IsShort text) :
    IsShort (name.getD derived) ↔ (name = none → IsShort derived) := by
  cases name with
  | none => exact ⟨fun short _ => short, fun short => short rfl⟩
  | some text => exact ⟨fun _ => nofun, fun _ => given text (List.mem_singleton.2 rfl)⟩

-- =========================================================== the operations

/-- An operation is sent with the texts of its call. -/
theorem isSendable_iff_of_call {op : Operation} {call : Call} (called : op.call = .ok call) :
    op.IsSendable ↔ ∀ text ∈ call.texts, IsShort text := by
  rw [Operation.IsSendable, called]
  constructor
  · rintro ⟨_, same, short⟩
    cases same
    exact short
  · exact fun short => ⟨call, rfl, short⟩

theorem isSendable_declareExchange_iff (x : ExchangeObject) :
    (Operation.declareExchange x.declared).IsSendable ↔ IsShort x.name := by
  have called : (Operation.declareExchange x.declared).call = .ok (.declareExchange x.name) := rfl
  rw [isSendable_iff_of_call called, Call.texts, List.forall_mem_singleton]

theorem isSendable_declareQueue_iff (x : QueueObject) :
    (Operation.declareQueue x.declared).IsSendable ↔ IsShort x.name := by
  have called : (Operation.declareQueue x.declared).call = .ok (.declareQueue x.name) := rfl
  rw [isSendable_iff_of_call called, Call.texts, List.forall_mem_singleton]

/-- The key of a binding is the one it is given, or empty. -/
theorem isSendable_bindQueue_iff {override : Option QueueBinding} {queue exchange : String}
    (given : ∀ text ∈ (override.map (·.routingKey)).toList, IsShort text) :
    (Operation.bindQueue (bindingOr override queue exchange)).IsSendable
      ↔ IsShort queue ∧ IsShort exchange := by
  have called : (Operation.bindQueue (bindingOr override queue exchange)).call
      = .ok (.bindQueue queue exchange (override.getD .template).routingKey) := rfl
  have key : IsShort (override.getD .template).routingKey := by
    cases override with
    | none => decide
    | some b => exact given b.routingKey (List.mem_singleton.2 rfl)
  rw [isSendable_iff_of_call called]
  simp only [Call.texts, List.forall_mem_cons]
  constructor
  · rintro ⟨ofQueue, ofExchange, -⟩
    exact ⟨ofQueue, ofExchange⟩
  · rintro ⟨ofQueue, ofExchange⟩
    exact ⟨ofQueue, ofExchange, key, fun _ => nofun⟩

-- ================================================================ the room

/-- Without a cycle, it is the main queue that takes room. -/
theorem leavesRoom_bare_iff (cycle : o.deadLetter = none) : LeavesRoom group s o
    ↔ (o.queue.bind (·.name) = none → jointBytes group s.name ≤ 243) := by
  refine ⟨LeavesRoom.mainQueue, fun main => ⟨main, ?_, ?_, ?_⟩⟩
  all_goals
    intro c there
    rw [cycle] at there
    cases there

theorem leavesRoom_cycle_iff (cycle : o.deadLetter = some c) : LeavesRoom group s o
    ↔ (o.queue.bind (·.name) = none → jointBytes group s.name ≤ 243)
      ∧ (c.errorQueue.bind (·.name) = none → jointBytes group s.name ≤ 242)
      ∧ (c.endExchange.bind (·.name) = none → jointBytes group s.name ≤ 235)
      ∧ (c.startExchange.bind (·.name) = none → jointBytes group s.name ≤ 233) := by
  constructor
  · intro leaves
    exact ⟨leaves.mainQueue, leaves.errorQueue c cycle, leaves.endExchange c cycle,
      leaves.startExchange c cycle⟩
  · rintro ⟨main, error, ends, start⟩
    have only : ∀ {P : Cycle → Prop}, P c → ∀ c', o.deadLetter = some c' → P c' := by
      intro P here c' there
      rwa [← Option.some.inj (cycle.symm.trans there)]
    exact ⟨main, only error, only ends, only start⟩

-- =============================================================== the plans

section

variable (settings : Settings.Consumer) (built : ∃ draft : Subscription, draft.build = .ok s)
  (source : s.source = .exchange o) (name : IsShort s.name)
  (given : ∀ text ∈ givenTexts s, IsShort text)
include built source name given

/-- Without a cycle it takes the name of the main queue. -/
theorem isSendable_bare_iff (cycle : o.deadLetter = none) :
    (Plan.ofSubscription s settings).IsSendable
      ↔ IsShort (Queue.nameOr o.queue (mainQueueName settings.group s.name)) := by
  simp only [givenTexts, source, cycle, List.forall_mem_append] at given
  obtain ⟨⟨-, key⟩, -⟩ := given
  simp only [Plan.IsSendable, queue_of_exchange settings source,
    operations_of_bare settings built source cycle, List.forall_mem_cons,
    isSendable_declareExchange_iff, isSendable_declareQueue_iff, isSendable_bindQueue_iff key]
  constructor
  · exact And.left
  · exact fun main => ⟨main, name, main, ⟨main, name⟩, fun _ => nofun⟩

/-- With one, it takes the names of its objects as well. -/
theorem isSendable_cycle_iff (cycle : o.deadLetter = some c) :
    (Plan.ofSubscription s settings).IsSendable
      ↔ IsShort (Queue.nameOr o.queue (mainQueueName settings.group s.name))
        ∧ IsShort (Queue.nameOr c.errorQueue (errorQueueName settings.group s.name))
        ∧ IsShort (endNameOf c settings.group s.name)
        ∧ IsShort (startNameOf c settings.group s.name) := by
  simp only [givenTexts, source, cycle, givenToCycle, Option.map_some, Option.getD_some,
    List.forall_mem_append] at given
  obtain ⟨⟨-, key⟩, ⟨-, errorKey⟩, returnKey⟩ := given
  simp only [Plan.IsSendable, queue_of_exchange settings source,
    operations_of_cycle settings built source cycle, List.forall_mem_cons,
    isSendable_declareExchange_iff, isSendable_declareQueue_iff, isSendable_bindQueue_iff key,
    isSendable_bindQueue_iff errorKey, isSendable_bindQueue_iff returnKey]
  constructor
  · rintro ⟨main, -, start, ends, error, -⟩
    exact ⟨main, error, ends, start⟩
  · rintro ⟨main, error, ends, start⟩
    exact ⟨main, name, start, ends, error, ⟨error, start⟩, main, ⟨main, ends⟩, ⟨main, name⟩,
      fun _ => nofun⟩

end

-- ========================================================== the main result

/-- A subscription with texts that are short has a plan that can be sent, if its
exchange and the group leave room for the names that are derived from them, and
only then. -/
theorem isSendable_iff_leavesRoom (s : Subscription) (settings : Settings.Consumer)
    (built : ∃ draft : Subscription, draft.build = .ok s) (name : IsShort s.name)
    (given : ∀ text ∈ givenTexts s, IsShort text) :
    (Plan.ofSubscription s settings).IsSendable
      ↔ ∀ o, s.source = .exchange o → LeavesRoom settings.group s o := by
  cases source : s.source with
  | queue =>
      refine iff_of_true ⟨?_, ?_⟩ fun o same => by cases same
      · rwa [queue_of_queue settings source]
      · rw [operations_of_queue settings source, List.forall_mem_singleton,
          isSendable_declareQueue_iff]
        exact name
  | exchange o =>
      have short := given
      simp only [givenTexts, source, List.forall_mem_append] at short
      obtain ⟨⟨main, -⟩, ofCycle⟩ := short
      have only : (∀ o', Source.exchange o = .exchange o' → LeavesRoom settings.group s o')
          ↔ LeavesRoom settings.group s o :=
        ⟨fun all => all o rfl, fun leaves o' same => by cases same; exact leaves⟩
      rw [only]
      cases cycle : o.deadLetter with
      | none =>
          rw [isSendable_bare_iff settings built source name given cycle,
            leavesRoom_bare_iff cycle, Queue.nameOr, isShort_getD_iff main,
            isShort_mainQueueName_iff]
      | some c =>
          simp only [cycle, givenToCycle, Option.map_some, Option.getD_some,
            List.forall_mem_append] at ofCycle
          obtain ⟨⟨⟨⟨start, ends⟩, error⟩, -⟩, -⟩ := ofCycle
          rw [isSendable_cycle_iff settings built source name given cycle,
            leavesRoom_cycle_iff cycle, Queue.nameOr, isShort_getD_iff main,
            isShort_mainQueueName_iff, Queue.nameOr, isShort_getD_iff error,
            isShort_errorQueueName_iff, endNameOf, isShort_getD_iff ends,
            isShort_endExchangeName_iff, startNameOf, isShort_getD_iff start,
            isShort_startExchangeName_iff]

/-- A subscription to an exchange with a name of so many bytes. -/
def lengthy (bytes : Nat) (cycle : Option Cycle) : Subscription where
  name := String.ofList (List.replicate bytes 'e')
  maxParallelism := 1
  source := .exchange { deadLetter := cycle }
  handler := .scripted ⟨"Parcel", fun _ => .ok .null⟩ []

theorem utf8ByteSize_lengthy (bytes : Nat) (cycle : Option Cycle) :
    (lengthy bytes cycle).name.utf8ByteSize = bytes := by
  have letter : (String.singleton 'e').utf8ByteSize = 1 := rfl
  unfold lengthy
  induction bytes with
  | zero => rfl
  | succ n ih =>
      rw [List.replicate_succ, String.ofList_cons, String.utf8ByteSize_append, letter, ih,
        Nat.add_comm]

/-- However long the name is, it is not blank. -/
theorem build_lengthy (n : Nat) (cycle : Option Cycle) :
    (lengthy (n + 1) cycle).build = .ok (lengthy (n + 1) cycle) := by
  have named : Text.isBlank (lengthy (n + 1) cycle).name = false := by
    rw [Text.isBlank, lengthy, String.toList_ofList]
    rfl
  have checked : (lengthy (n + 1) cycle).check = .ok () :=
    bind_eq_ok_iff.2 ⟨(), required_eq_ok_iff.2 named, rfl⟩
  rw [Subscription.build, checked]
  rfl

/-- Names with all the room that is left. -/
theorem isSendable_of_lengthy : (lengthy 232 (some {})).build = .ok (lengthy 232 (some {}))
    ∧ IsShort (lengthy 232 (some {})).name
    ∧ (∀ text ∈ givenTexts (lengthy 232 (some {})), IsShort text)
    ∧ (Plan.ofSubscription (lengthy 232 (some {})) ⟨"g", 1⟩).IsSendable := by
  have size := utf8ByteSize_lengthy 232 (some {})
  have short : IsShort (lengthy 232 (some {})).name := by
    rw [IsShort, size]
    decide
  have joint : jointBytes "g" (lengthy 232 (some {})).name = 233 := by
    rw [jointBytes, size]
    rfl
  have built := build_lengthy 231 (some {})
  refine ⟨built, short, nofun, ?_⟩
  refine (isSendable_iff_leavesRoom _ ⟨"g", 1⟩ ⟨_, built⟩ short nofun).2 fun o source => ?_
  constructor
  all_goals rw [joint]; omega

/-- A name that is well below 255 bytes is accepted, and its main queue has one
that is above. -/
theorem too_long_of_lengthy : (lengthy 243 none).build = .ok (lengthy 243 none)
    ∧ (⟨"g", 1⟩ : Settings.Consumer).check = .ok ()
    ∧ IsShort (lengthy 243 none).name ∧ IsShort "g"
    ∧ (∀ text ∈ givenTexts (lengthy 243 none), IsShort text)
    ∧ (Plan.ofSubscription (lengthy 243 none) ⟨"g", 1⟩).queue
      = mainQueueName "g" (lengthy 243 none).name
    ∧ ¬ IsShort (mainQueueName "g" (lengthy 243 none).name)
    ∧ ¬ (Plan.ofSubscription (lengthy 243 none) ⟨"g", 1⟩).IsSendable := by
  have size := utf8ByteSize_lengthy 243 none
  have joint : jointBytes "g" (lengthy 243 none).name = 244 := by
    rw [jointBytes, size]
    rfl
  have long : ¬ IsShort (mainQueueName "g" (lengthy 243 none).name) := by
    rw [isShort_mainQueueName_iff, joint]
    decide
  refine ⟨build_lengthy 242 none, rfl, ?_, by decide, nofun, rfl, long, fun sent => long sent.1⟩
  rw [IsShort, size]
  decide

end Courier.Topology
