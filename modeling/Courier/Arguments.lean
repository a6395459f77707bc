/-
Argument maps: the extra arguments of declarations and bindings, and the
headers of messages. Keys ascend by their bytes, which is the order of
their characters, and no key is repeated.

Merging puts one map over another: the custom value wins, and what the
custom map does not mention is kept.
-/
import Courier.FieldValue

namespace Courier

/-- A map from names to field values. -/
structure Arguments where
  entries : List (String × FieldValue)
  ordered : KeyedList.Ordered entries

namespace Arguments

/-- No arguments. -/
def empty : Arguments := ⟨[], .nil⟩

/-- The value under a key. -/
def get? (m : Arguments) (k : String) : Option FieldValue := KeyedList.get? k m.entries

/-- Sets the value under a key. -/
def set (m : Arguments) (k : String) (v : FieldValue) : Arguments :=
  ⟨KeyedList.put k v m.entries, m.ordered.put k v⟩

/-- The map of a list of pairs; a repeated key keeps its last value. -/
def ofList (pairs : List (String × FieldValue)) : Arguments :=
  ⟨KeyedList.ofList pairs, KeyedList.ordered_ofList pairs⟩

/-- Puts the custom map over the generated one. -/
def merge (generated custom : Arguments) : Arguments :=
  ⟨custom.entries.foldl (fun m e => KeyedList.put e.1 e.2 m) generated.entries,
    KeyedList.ordered_foldl_put _ _ generated.ordered⟩

/-- The keys, in order. -/
def keys (m : Arguments) : List String := m.entries.map (·.1)

/-- Whether there are none. -/
def isEmpty (m : Arguments) : Bool := m.entries.isEmpty

@[ext] theorem ext {m n : Arguments} (h : m.entries = n.entries) : m = n := by
  cases m
  cases n
  cases h
  rfl

/-- The keys are those under which there is a value. -/
theorem mem_keys_iff {m : Arguments} {k : String} : k ∈ m.keys ↔ (m.get? k).isSome :=
  KeyedList.get?_isSome_iff.symm

/-- No key is repeated. -/
theorem nodup_keys (m : Arguments) : m.keys.Nodup := m.ordered.nodup_keys

/-- A map is what it says of every key. -/
theorem ext_get? {m n : Arguments} (same : ∀ k, m.get? k = n.get? k) : m = n :=
  ext (m.ordered.ext n.ordered same)

/-- Setting a key sets it and nothing else. -/
@[simp] theorem get?_set (m : Arguments) (k k' : String) (v : FieldValue) :
    (m.set k v).get? k' = if k' = k then some v else m.get? k' :=
  KeyedList.get?_put k k' v m.entries

/-- The last argument of a list is looked at first. -/
theorem get?_ofList_append (pairs : List (String × FieldValue)) (key : String) (v : FieldValue)
    (k : String) :
    (ofList (pairs ++ [(key, v)])).get? k = if k = key then some v else (ofList pairs).get? k := by
  show KeyedList.get? k (KeyedList.ofList _)
    = if _ then _ else KeyedList.get? k (KeyedList.ofList _)
  unfold KeyedList.ofList
  rw [List.foldl_append, List.foldl_cons, List.foldl_nil, KeyedList.get?_put]

/-- A merged map says what the custom map says, and what the generated one
says where that says nothing. -/
@[simp] theorem get?_merge (generated custom : Arguments) (k : String) :
    (generated.merge custom).get? k = (custom.get? k).or (generated.get? k) :=
  KeyedList.get?_foldl_put custom.ordered generated.entries k

@[simp] theorem get?_empty (k : String) : empty.get? k = none := rfl

end Arguments

end Courier
