/-
Init operations, from the order in which they are given to what a channel is
asked for.

Adding an operation puts it behind those of its own kind and in front of those
of later kinds, and moves none of the others (`ordered_add`). So by induction
over those that are still to be added they are all there in the end, in the
order of the kinds, and those of one kind are in the order they were given in
(`ByKind`).

That every object has a name is checked kind by kind, for three kinds of the
four: a binding between exchanges cannot be without names.
-/
import Courier.Proofs.Blueprint.Acceptance
import Courier.Proofs.Topology.Installing

namespace Courier.Topology

-- ===================================================== statement vocabulary

/-- The kinds of operations in the order in which they are asked for. -/
def Operation.rank : Operation → Nat
  | .declareExchange _ => 0
  | .declareQueue _ => 1
  | .bindQueue _ => 2
  | .bindExchange _ => 3

/-- The given operations in the order of their kinds, none lost and none
repeated; those of one kind are in the order they were given in. -/
structure ByKind (ordered given : List Operation) : Prop where
  perm : ordered.Perm given
  sorted : ordered.Pairwise (·.rank ≤ ·.rank)
  stable : ∀ k, ordered.filter (·.rank == k) = given.filter (·.rank == k)

-- =============================================================== the order

namespace Init

/-- Where an operation that is added goes. -/
theorem ordered_add (i : Init) (op : Operation) :
    ∃ front back, i.ordered = front ++ back ∧ (i.add op).ordered = front ++ op :: back
      ∧ (∀ x ∈ front, x.rank ≤ op.rank) ∧ ∀ x ∈ back, op.rank < x.rank := by
  cases op with
  | declareExchange e =>
      refine ⟨i.exchanges.map .declareExchange, i.queues.map .declareQueue
        ++ i.queueBindings.map .bindQueue ++ i.exchangeBindings.map .bindExchange, ?_⟩
      simp [ordered, add, Operation.rank, or_imp, forall_and]
  | declareQueue q =>
      refine ⟨i.exchanges.map .declareExchange ++ i.queues.map .declareQueue,
        i.queueBindings.map .bindQueue ++ i.exchangeBindings.map .bindExchange, ?_⟩
      simp [ordered, add, Operation.rank, or_imp, forall_and]
  | bindQueue b =>
      refine ⟨i.exchanges.map .declareExchange ++ i.queues.map .declareQueue
        ++ i.queueBindings.map .bindQueue, i.exchangeBindings.map .bindExchange, ?_⟩
      simp [ordered, add, Operation.rank, or_imp, forall_and]
  | bindExchange b =>
      refine ⟨i.ordered, [], ?_⟩
      simp [ordered, add, Operation.rank, or_imp, forall_and]

end Init

/-- An operation behind those of its kind is the last one of its kind. -/
theorem ByKind.insert {front back given : List Operation} {op : Operation}
    (byKind : ByKind (front ++ back) given) (low : ∀ x ∈ front, x.rank ≤ op.rank)
    (high : ∀ x ∈ back, op.rank < x.rank) : ByKind (front ++ op :: back) (given ++ [op]) where
  perm := by
    have moved : (front ++ op :: back).Perm (op :: given) :=
      List.perm_middle.trans (byKind.perm.cons op)
    exact moved.trans (List.perm_append_singleton op given).symm
  sorted := by
    obtain ⟨sortedFront, sortedBack, across⟩ := List.pairwise_append.1 byKind.sorted
    refine List.pairwise_append.2 ⟨sortedFront, List.pairwise_cons.2
      ⟨fun x later => Nat.le_of_lt (high x later), sortedBack⟩, fun x early y later => ?_⟩
    rcases List.mem_cons.1 later with rfl | later
    · exact low x early
    · exact across x early y later
  stable k := by
    have stable := byKind.stable k
    rw [List.filter_append] at stable
    rw [List.filter_append, List.filter_append, ← stable]
    by_cases same : op.rank = k
    · have none : back.filter (·.rank == k) = [] := by
        refine List.filter_eq_nil_iff.2 fun x later equal => ?_
        have above := high x later
        have equal : x.rank = k := beq_iff_eq.1 equal
        omega
      have kept : ∀ l, (op :: l).filter (·.rank == k) = op :: l.filter (·.rank == k) :=
        fun l => List.filter_cons_of_pos (beq_iff_eq.2 same)
      rw [kept, kept, none, List.append_nil, List.filter_nil]
    · have left : ∀ l, (op :: l).filter (·.rank == k) = l.filter (·.rank == k) :=
        fun l => List.filter_cons_of_neg fun equal => same (beq_iff_eq.1 equal)
      rw [left, left, List.filter_nil, List.append_nil]

/-- Adding more operations, each goes behind those of its kind. -/
theorem ByKind.add {i : Init} {given : List Operation} (byKind : ByKind i.ordered given)
    (ops : List Operation) : ByKind (ops.foldl Init.add i).ordered (given ++ ops) := by
  induction ops generalizing i given with
  | nil => rwa [List.append_nil]
  | cons op rest ih =>
      obtain ⟨front, back, before, after, low, high⟩ := i.ordered_add op
      rw [before] at byKind
      have inserted := byKind.insert low high
      rw [← after] at inserted
      have last := ih inserted
      rwa [List.append_assoc] at last

/-- The operations that were given are asked for by their kinds. -/
theorem byKind_ofList (ops : List Operation) : ByKind (Init.ofList ops).ordered ops := by
  have none : ByKind (Init.ordered {}) [] := ⟨.nil, .nil, fun _ => rfl⟩
  exact none.add ops

-- =============================================================== the names

/-- What needs a name can be asked for if the name is there, and the rest can be. -/
theorem exists_call_iff {name : Option String} {what : String}
    {rest : String → Except Failure Call} :
    (∃ call, givenName name what >>= rest = .ok call)
      ↔ ∃ given, name = some given ∧ ∃ call, rest given = .ok call := by
  cases name with
  | none => exact ⟨nofun, nofun⟩
  | some given =>
      constructor
      · exact fun called => ⟨given, rfl, called⟩
      · rintro ⟨_, same, called⟩
        cases same
        exact called

theorem named_declareExchange_iff {e : Exchange} :
    (Operation.declareExchange e).Named ↔ e.name ≠ none := by
  refine exists_call_iff.trans (Iff.trans ?_ Option.ne_none_iff_exists'.symm)
  exact exists_congr fun given => and_iff_left ⟨_, rfl⟩

theorem named_declareQueue_iff {q : Queue} :
    (Operation.declareQueue q).Named ↔ q.name ≠ none := by
  refine exists_call_iff.trans (Iff.trans ?_ Option.ne_none_iff_exists'.symm)
  exact exists_congr fun given => and_iff_left ⟨_, rfl⟩

theorem named_bindQueue_iff {b : QueueBinding} :
    (Operation.bindQueue b).Named ↔ b.queue ≠ none ∧ b.exchange ≠ none := by
  refine exists_call_iff.trans ?_
  rw [Option.ne_none_iff_exists', ← exists_and_right]
  refine exists_congr fun queue => and_congr_right fun _ => exists_call_iff.trans ?_
  rw [Option.ne_none_iff_exists']
  exact exists_congr fun exchange => and_iff_left ⟨_, rfl⟩

/-- Of init operations that are named, each has its names. -/
theorem Init.isNamed_iff (i : Init) : i.IsNamed ↔ ∀ op ∈ i.ordered, op.Named := by
  have free : ∀ b, (Operation.bindExchange b).Named := fun b => ⟨_, rfl⟩
  simp only [Init.ordered, List.forall_mem_append, List.forall_mem_map,
    named_declareExchange_iff, named_declareQueue_iff, named_bindQueue_iff, free]
  constructor
  · rintro ⟨exchanges, queues, bindings⟩
    exact ⟨⟨⟨exchanges, queues⟩, bindings⟩, fun _ _ => trivial⟩
  · rintro ⟨⟨⟨exchanges, queues⟩, bindings⟩, -⟩
    exact ⟨exchanges, queues, bindings⟩

/-- Init operations are built as they are, if they are named. -/
theorem Init.build_eq_ok_iff {i i' : Init} : i.build = .ok i' ↔ i.IsNamed ∧ i' = i := by
  have screens : Screens (fun i' => i' = i) i.requirements i.build :=
    screens_of_check i.screens_check rfl
  constructor
  · intro built
    rw [built] at screens
    cases screens with
    | passed met same => exact ⟨i.met_requirements.1 met, same⟩
  · rintro ⟨named, rfl⟩
    cases built : i'.build with
    | ok a =>
        rw [built] at screens
        cases screens with
        | passed _ same => rw [same]
    | error f =>
        rw [built] at screens
        cases screens with
        | stopped unmet => exact absurd (i'.met_requirements.2 named) unmet.not_all

-- ========================================================== the main result

/-- Init operations can be built if each of them has its names, and are then
asked for by their kinds. Whatever the channel refuses, it is asked for all of
them, or for the shortest prefix that ends with one that it refuses; and what is
reported is that refusal, never a missing name. -/
theorem installs_by_kind (ops : List Operation) :
    ((∃ i, (Init.ofList ops).build = .ok i) ↔ ∀ op ∈ ops, op.Named)
      ∧ ∀ i, (Init.ofList ops).build = .ok i →
        ByKind i.ordered ops ∧ (∀ op ∈ i.ordered, op.Named)
          ∧ ∀ (refuses : Refusals) (before : List Operation), ∃ calls result,
            (recorder refuses).install before i.ordered = (result, before ++ calls)
              ∧ refuses.Asks before i.ordered calls result
              ∧ ∀ what, result ≠ .error (.invalidConfiguration (what ++ " without a name")) := by
  have byKind := byKind_ofList ops
  have named : (Init.ofList ops).IsNamed ↔ ∀ op ∈ ops, op.Named := by
    rw [Init.isNamed_iff]
    exact forall_congr' fun op => by rw [byKind.perm.mem_iff]
  refine ⟨?_, fun i built => ?_⟩
  · rw [← named]
    exact ⟨fun ⟨i, built⟩ => (Init.build_eq_ok_iff.1 built).1,
      fun isNamed => ⟨_, Init.build_eq_ok_iff.2 ⟨isNamed, rfl⟩⟩⟩
  · obtain ⟨isNamed, rfl⟩ := Init.build_eq_ok_iff.1 built
    have each := (Init.isNamed_iff _).1 isNamed
    refine ⟨byKind, each, fun refuses before => ?_⟩
    obtain ⟨calls, result, installed, asks⟩ := asks_of_install refuses before each
    exact ⟨calls, result, installed, asks, fun what => asks.ne_invalid _⟩

/-- Operations for a depot, the bindings in front of what they bind. -/
def depotOperations : List Operation := [
  .bindExchange { destination := "depot", source := "orders" },
  .declareQueue (.named "late"),
  .declareExchange (.named "orders"),
  .bindQueue (.between "late" "depot"),
  .declareExchange (.named "depot"),
  .declareQueue (.named "early")]

def depot : Init where
  exchanges := [.named "orders", .named "depot"]
  queues := [.named "late", .named "early"]
  queueBindings := [.between "late" "depot"]
  exchangeBindings := [{ destination := "depot", source := "orders" }]

/-- A channel that refuses the third call is asked for no more than three. -/
theorem installs_by_kind_of_depot : (Init.ofList depotOperations).build = .ok depot
    ∧ ByKind depot.ordered depotOperations
    ∧ Refusals.Asks (fun before _ => before.length == 2) [] depot.ordered
      [.declareExchange (.named "orders"), .declareExchange (.named "depot"),
        .declareQueue (.named "late")] (.error (.queueRefused "late")) := by
  have built : (Init.ofList depotOperations).build = .ok depot := rfl
  obtain ⟨byKind, -, installs⟩ := (installs_by_kind depotOperations).2 depot built
  obtain ⟨calls, result, installed, asks, -⟩ := installs (fun before _ => before.length == 2) []
  cases installed
  exact ⟨built, byKind, asks⟩

end Courier.Topology
