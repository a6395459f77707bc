/-
Argument maps under merging and under the calls of a builder. What a map says
of every key is all there is to it (`Arguments.ext_get?`), and what merged maps
say is one after the other in turn, the custom map first (`Arguments.get?_merge`);
the laws of merging are those of that choice, and no list is looked at.

What a map is as a list does not depend on how it came about: its keys ascend by
their bytes, so there is one order to write it in. A builder goes from map to
map, and of each key the last call counts that says something of it; a call that
replaces the whole map says something of every key.
-/
import Courier.Proofs.Text.ByteOrder
import Courier.Topology.Exchange
import Courier.Topology.Queue

namespace Courier

-- ===================================================== statement vocabulary

/-- Keys ascend by their bytes. -/
def Arguments.InByteOrder (m : Arguments) : Prop :=
  m.entries.Pairwise fun a b => Text.utf8Bytes a.1 < Text.utf8Bytes b.1

/-- A call on a builder that is about its arguments. -/
inductive ArgumentCall where
  | argument (key : String) (value : FieldValue)
  /-- Replaces the whole map. -/
  | arguments (all : Arguments)

/-- What a call says of a key, if it says something: a value, or that there is none. -/
def ArgumentCall.says? (key : String) : ArgumentCall → Option (Option FieldValue)
  | argument key' value => if key = key' then some (some value) else none
  | arguments all => some (all.get? key)

/-- The builder of a queue after a call. -/
def Topology.Queue.called (q : Queue) : ArgumentCall → Queue
  | .argument key value => q.withArgument key value
  | .arguments all => { q with arguments := all }

/-- The builder of an exchange after a call. -/
def Topology.Exchange.called (e : Exchange) : ArgumentCall → Exchange
  | .argument key value => e.withArgument key value
  | .arguments all => { e with arguments := all }

/-- A map that a builder has come to: each key once, in order, and as the last call
says that says something of it; as the first map says, if none does. -/
structure Arguments.Follows (calls : List ArgumentCall) (first last : Arguments) : Prop where
  ordered : last.InByteOrder
  nodup : last.keys.Nodup
  get? : ∀ key, last.get? key = (calls.reverse.findSome? (·.says? key)).getD (first.get? key)

-- ================================================================== merging

namespace Arguments

variable {g c d : Arguments} {k : String}

/-- The keys of arguments stand in byte order, however the arguments came about. -/
theorem inByteOrder (m : Arguments) : m.InByteOrder :=
  m.ordered.imp fun lt => Text.utf8Bytes_lt_iff.2 lt

/-- A merge has the keys of both sides. -/
theorem mem_keys_merge : k ∈ (g.merge c).keys ↔ k ∈ g.keys ∨ k ∈ c.keys := by
  rw [mem_keys_iff, mem_keys_iff, mem_keys_iff, get?_merge, Option.isSome_or, Bool.or_eq_true,
    or_comm]

theorem get?_of_not_mem_keys (absent : k ∉ c.keys) : c.get? k = none := by
  rw [mem_keys_iff, Bool.not_eq_true, Option.isSome_eq_false_iff, Option.isNone_iff_eq_none]
    at absent
  exact absent

/-- A key of the custom map has its value there. -/
theorem get?_merge_of_mem (present : k ∈ c.keys) : (g.merge c).get? k = c.get? k := by
  obtain ⟨v, found⟩ := Option.isSome_iff_exists.1 (mem_keys_iff.1 present)
  rw [get?_merge, found]
  rfl

/-- Any other key has the value of the generated map. -/
theorem get?_merge_of_not_mem (absent : k ∉ c.keys) : (g.merge c).get? k = g.get? k := by
  rw [get?_merge, get?_of_not_mem_keys absent]
  rfl

/-- It does not matter in which order three are merged, as long as they stay in
their places. -/
theorem merge_assoc : (g.merge c).merge d = g.merge (c.merge d) := by
  apply ext_get?
  intro k
  simp only [get?_merge, Option.or_assoc]

/-- Nothing is changed by no custom arguments. -/
theorem merge_empty : g.merge .empty = g := by
  apply ext_get?
  intro k
  rw [get?_merge, get?_empty, Option.none_or]

/-- Without generated arguments the custom ones are all there is. -/
theorem empty_merge : empty.merge g = g := by
  apply ext_get?
  intro k
  rw [get?_merge, get?_empty, Option.or_none]

theorem merge_self : g.merge g = g := by
  apply ext_get?
  intro k
  rw [get?_merge, Option.or_self]

/-- The order matters only where the two maps contradict each other. -/
theorem merge_comm_iff :
    g.merge c = c.merge g ↔ ∀ k, k ∈ g.keys → k ∈ c.keys → g.get? k = c.get? k := by
  constructor
  · intro same k inG inC
    rw [← get?_merge_of_mem inG, ← same, get?_merge_of_mem inC]
  · intro agree
    apply ext_get?
    intro k
    by_cases inC : k ∈ c.keys
    · by_cases inG : k ∈ g.keys
      · rw [get?_merge_of_mem inC, get?_merge_of_mem inG, agree k inG inC]
      · rw [get?_merge_of_mem inC, get?_merge_of_not_mem inG]
    · by_cases inG : k ∈ g.keys
      · rw [get?_merge_of_not_mem inC, get?_merge_of_mem inG]
      · rw [get?_merge_of_not_mem inC, get?_merge_of_not_mem inG, get?_of_not_mem_keys inC,
          get?_of_not_mem_keys inG]

end Arguments

-- ================================================================= builders

/-- Calls are followed if each of them sets what it speaks of, and nothing else. -/
theorem Arguments.follows_foldl {α : Type} (map : α → Arguments) (called : α → ArgumentCall → α)
    (step : ∀ a call key, (map (called a call)).get? key = (call.says? key).getD ((map a).get? key))
    (calls : List ArgumentCall) (a : α) :
    Follows calls (map a) (map (calls.foldl called a)) where
  ordered := inByteOrder _
  nodup := nodup_keys _
  get? key := by
    induction calls generalizing a with
    | nil => rfl
    | cons call rest ih =>
        rw [List.foldl_cons, ih, step, List.reverse_cons, List.findSome?_append,
          List.findSome?_singleton, Option.getD_or]

/-- A call on a queue says what it says, and leaves the other arguments alone. -/
theorem Topology.Queue.get?_called (q : Queue) (call : ArgumentCall) (key : String) :
    (q.called call).arguments.get? key = (call.says? key).getD (q.arguments.get? key) := by
  cases call with
  | argument key' value =>
      rw [called, withArgument, Arguments.get?_set, ArgumentCall.says?]
      split <;> rfl
  | arguments all => rfl

/-- So does a call on an exchange. -/
theorem Topology.Exchange.get?_called (e : Exchange) (call : ArgumentCall) (key : String) :
    (e.called call).arguments.get? key = (call.says? key).getD (e.arguments.get? key) := by
  cases call with
  | argument key' value =>
      rw [called, withArgument, Arguments.get?_set, ArgumentCall.says?]
      split <;> rfl
  | arguments all => rfl

-- ========================================================== the main result

/-- A merged map has the keys of both maps, each once and in order, with the value
of the custom map where that has the key. Merging is associative, an empty map
adds nothing on either side, a map that was merged adds nothing the second time,
and the order of two maps makes no difference exactly if they agree on the keys
they share. The maps that builders come to by any calls are in order as well, and
of each key the last call counts. -/
theorem custom_over_generated (g c : Arguments) :
    ((g.merge c).InByteOrder ∧ (g.merge c).keys.Nodup)
      ∧ (∀ k, k ∈ (g.merge c).keys ↔ k ∈ g.keys ∨ k ∈ c.keys)
      ∧ (∀ k, (g.merge c).get? k = if k ∈ c.keys then c.get? k else g.get? k)
      ∧ (∀ d, (g.merge c).merge d = g.merge (c.merge d))
      ∧ g.merge .empty = g ∧ Arguments.empty.merge g = g
      ∧ (g.merge c).merge c = g.merge c
      ∧ (g.merge c = c.merge g ↔ ∀ k, k ∈ g.keys → k ∈ c.keys → g.get? k = c.get? k)
      ∧ ∀ calls : List ArgumentCall,
        (∀ q : Topology.Queue,
          Arguments.Follows calls q.arguments (calls.foldl Topology.Queue.called q).arguments)
        ∧ ∀ e : Topology.Exchange,
          Arguments.Follows calls e.arguments
            (calls.foldl Topology.Exchange.called e).arguments := by
  refine ⟨⟨Arguments.inByteOrder _, Arguments.nodup_keys _⟩, fun k => Arguments.mem_keys_merge,
    fun k => ?_, fun d => Arguments.merge_assoc, Arguments.merge_empty, Arguments.empty_merge, ?_,
    Arguments.merge_comm_iff, fun calls => ⟨fun q => ?_, fun e => ?_⟩⟩
  · split
    next present => exact Arguments.get?_merge_of_mem present
    next absent => exact Arguments.get?_merge_of_not_mem absent
  · rw [Arguments.merge_assoc, Arguments.merge_self]
  · exact Arguments.follows_foldl (·.arguments) _ Topology.Queue.get?_called calls q
  · exact Arguments.follows_foldl (·.arguments) _ Topology.Exchange.get?_called calls e

end Courier
