/-
What trace headers carry from where they are set to where they are read. An
entry is set under the lower case of its key and replaces any other that has
the same one, so among the headers each lower case stands once, with the value
that was set last (`LastSet.get?_setAll`); the other headers are left alone.

But an entry is read under a key as it is. The keys that entries are set under
are those that are in lower case, which lower-casing does not change
(`lowercase_eq_self_iff`), so under its own key an entry is found if that is in
lower case, and under any other key what was there before is read
(`read_as_set_iff`): a trace whose keys have capitals does not arrive
(`capitals_are_lost`).
-/
import Courier.Proofs.Text.Lowercasing
import Courier.TraceHeaders

namespace Courier.TraceHeaders

open Courier.Text

-- ===================================================== statement vocabulary

/-- The value that was set last under a key, up to the case of the key. -/
def LastSet (pairs : List (String × String)) (key value : String) : Prop :=
  ∃ before key' after, pairs = before ++ (key', value) :: after
    ∧ lowercase key' = lowercase key ∧ ∀ p ∈ after, lowercase p.1 ≠ lowercase key

-- ================================================================= one entry

variable {headers : Arguments} {pairs : List (String × String)} {key value : String}

theorem setAll_append (headers : Arguments) (pairs pairs' : List (String × String)) :
    setAll headers (pairs ++ pairs') = setAll (setAll headers pairs) pairs' :=
  List.foldl_append

/-- A header that no entry is set under stays as it is. -/
theorem get?_setAll_of_unset (unset : ∀ p ∈ pairs, lowercase p.1 ≠ key) (headers : Arguments) :
    (setAll headers pairs).get? key = headers.get? key := by
  induction pairs generalizing headers with
  | nil => rfl
  | cons p rest ih =>
      obtain ⟨here, others⟩ := List.forall_mem_cons.1 unset
      have step : setAll headers (p :: rest) = setAll (set headers p.1 p.2) rest := rfl
      rw [step, ih others, set, Arguments.get?_set, if_neg (Ne.symm here)]

/-- The value that was set last is there. -/
theorem LastSet.get?_setAll (last : LastSet pairs key value) (headers : Arguments) :
    (setAll headers pairs).get? (lowercase key) = some (.text value) := by
  obtain ⟨before, key', after, rfl, same, unset⟩ := last
  have step : setAll headers (before ++ (key', value) :: after)
      = setAll (set (setAll headers before) key' value) after := setAll_append ..
  rw [step, get?_setAll_of_unset unset, set, Arguments.get?_set, if_pos same.symm]

theorem LastSet.cons (last : LastSet pairs key value) (p : String × String) :
    LastSet (p :: pairs) key value := by
  obtain ⟨before, key', after, rfl, same, unset⟩ := last
  exact ⟨p :: before, key', after, rfl, same, unset⟩

/-- Something was set last under every key that something was set under. -/
theorem exists_lastSet (set : ∃ p ∈ pairs, lowercase p.1 = lowercase key) :
    ∃ value, LastSet pairs key value := by
  induction pairs with
  | nil =>
      obtain ⟨p, member, -⟩ := set
      cases member
  | cons p rest ih =>
      by_cases later : ∃ q ∈ rest, lowercase q.1 = lowercase key
      · obtain ⟨value, last⟩ := ih later
        exact ⟨value, last.cons p⟩
      · obtain ⟨q, member, same⟩ := set
        rcases List.mem_cons.1 member with rfl | member
        · exact ⟨q.2, [], q.1, rest, rfl, same, fun q member same => later ⟨q, member, same⟩⟩
        · exact absurd ⟨q, member, same⟩ later

-- ================================================================== reading

/-- A header that is a text is read as it is. -/
theorem get_of_text (found : headers.get? key = some (.text value)) :
    get headers key = (some value, []) := by
  simp only [get, found, FieldValue.text, ofUtf8?_utf8Bytes]

/-- Under a key that has capitals, nothing was set. -/
theorem unset_of_capitals (capitals : lowercase key ≠ key) :
    ∀ p ∈ pairs, lowercase p.1 ≠ key :=
  fun p _ same => capitals (lowercase_eq_self_iff.2 ⟨p.1, same⟩)

/-- What is read under a key that was set, which may have capitals. -/
theorem LastSet.get_setAll (last : LastSet pairs key value) (headers : Arguments) :
    get (setAll headers pairs) key
      = if lowercase key = key then (some value, []) else get headers key := by
  split
  next own =>
    have found := last.get?_setAll headers
    rw [own] at found
    exact get_of_text found
  next capitals =>
    have same : (setAll headers pairs).get? key = headers.get? key :=
      get?_setAll_of_unset (unset_of_capitals capitals) headers
    rw [get, get, same]

/-- A trace that is injected is read under its keys that have no capitals. -/
theorem LastSet.get_inject_iff (last : LastSet pairs key value) :
    (get (inject pairs) key).1 = some value ↔ lowercase key = key := by
  have none : (get .empty key).1 = none := rfl
  rw [inject, last.get_setAll]
  split
  next own => exact iff_of_true rfl own
  next capitals =>
    rw [none]
    exact iff_of_false nofun capitals

/-- One value was set last. -/
theorem LastSet.unique {value' : String} (last : LastSet pairs key value)
    (last' : LastSet pairs key value') : value = value' := by
  have read := get_of_text (last.get?_setAll .empty)
  rw [get_of_text (last'.get?_setAll .empty)] at read
  cases read
  rfl

theorem LastSet.count_keys (last : LastSet pairs key value) (headers : Arguments) :
    (setAll headers pairs).keys.count (lowercase key) = 1 := by
  have member : lowercase key ∈ (setAll headers pairs).keys := by
    rw [Arguments.mem_keys_iff, last.get?_setAll]
    rfl
  rw [(Arguments.nodup_keys _).count, if_pos member]

-- ================================================================ extraction

/-- A trace holds the lower cases of its keys. -/
theorem mem_keys_inject : key ∈ (inject pairs).keys ↔ ∃ p ∈ pairs, lowercase p.1 = key := by
  rw [Arguments.mem_keys_iff]
  constructor
  · intro found
    refine Classical.byContradiction fun unset => ?_
    rw [inject, get?_setAll_of_unset fun p member same => unset ⟨p, member, same⟩] at found
    cases found
  · rintro ⟨p, member, rfl⟩
    obtain ⟨value, last⟩ := exists_lastSet ⟨p, member, rfl⟩
    rw [inject, last.get?_setAll]
    rfl

/-- All of a trace is read: its keys are in lower case. -/
theorem get_inject_of_mem (member : key ∈ (inject pairs).keys) :
    lowercase key = key ∧ ∃ value, LastSet pairs key value
      ∧ get (inject pairs) key = (some value, []) := by
  obtain ⟨p, member, same⟩ := mem_keys_inject.1 member
  have own : lowercase key = key := lowercase_eq_self_iff.2 ⟨p.1, same⟩
  obtain ⟨value, last⟩ := exists_lastSet ⟨p, member, same.trans own.symm⟩
  refine ⟨own, value, last, ?_⟩
  rw [inject, last.get_setAll, if_pos own]

/-- Nothing of a trace is undecodable. -/
theorem extract_logs : (extract (some (inject pairs))).2 = [] := by
  simp only [extract, getAll, Option.getD_some, List.flatMap_eq_nil_iff]
  intro read member
  obtain ⟨key, present, rfl⟩ := List.mem_map.1 member
  obtain ⟨-, value, -, found⟩ := get_inject_of_mem present
  rw [found]

/-- What is extracted of a trace is each lower case with the value set last. -/
theorem mem_extract_iff {read : Option String} :
    (key, read) ∈ (extract (some (inject pairs))).1
      ↔ lowercase key = key ∧ ∃ value, LastSet pairs key value ∧ read = some value := by
  have extracted : (key, read) ∈ (extract (some (inject pairs))).1
      ↔ key ∈ (inject pairs).keys ∧ (get (inject pairs) key).1 = read := by
    show _ ∈ ((inject pairs).keys.map fun k => (k, get (inject pairs) k)).map _ ↔ _
    simp only [List.map_map, List.mem_map, Function.comp_apply, Prod.mk.injEq]
    exact ⟨fun ⟨_, member, same, found⟩ => same ▸ ⟨member, found⟩,
      fun ⟨member, found⟩ => ⟨key, member, rfl, found⟩⟩
  rw [extracted]
  constructor
  · rintro ⟨member, rfl⟩
    obtain ⟨own, value, last, found⟩ := get_inject_of_mem member
    exact ⟨own, value, last, by rw [found]⟩
  · rintro ⟨own, value, last, rfl⟩
    refine ⟨?_, last.get_inject_iff.2 own⟩
    obtain ⟨before, key', after, rfl, same, -⟩ := last
    exact mem_keys_inject.2 ⟨(key', value), by simp, same.trans own⟩

-- ========================================================== the main result

/-- Whatever is set on whatever headers, the value that was set last under a key, up
to its case, stands under its lower case, once, and every header that is not the
lower case of a key that was set is as it was. Under its own key it is read if that
is in lower case, and otherwise what the headers said before is. Of a trace, what is
extracted is each lower case with the value set last, and nothing is reported; under
the keys of the trace themselves, those in lower case are read and no others. -/
theorem read_as_set_iff (headers : Arguments) (pairs : List (String × String)) :
    (∀ key ∈ pairs.map Prod.fst, ∃ value, LastSet pairs key value
        ∧ (setAll headers pairs).get? (lowercase key) = some (.text value)
        ∧ (setAll headers pairs).keys.count (lowercase key) = 1
        ∧ get (setAll headers pairs) key
          = (if lowercase key = key then (some value, []) else get headers key)
        ∧ ((get (inject pairs) key).1 = some value ↔ lowercase key = key))
      ∧ (∀ key, (∀ p ∈ pairs, lowercase p.1 ≠ key) →
        (setAll headers pairs).get? key = headers.get? key)
      ∧ (extract (some (inject pairs))).2 = []
      ∧ ∀ key read, (key, read) ∈ (extract (some (inject pairs))).1
        ↔ lowercase key = key ∧ ∃ value, LastSet pairs key value ∧ read = some value := by
  refine ⟨fun key member => ?_, fun key unset => get?_setAll_of_unset unset headers, extract_logs,
    fun key read => mem_extract_iff⟩
  obtain ⟨p, present, rfl⟩ := List.mem_map.1 member
  obtain ⟨value, last⟩ := exists_lastSet ⟨p, present, rfl⟩
  exact ⟨value, last, last.get?_setAll headers, last.count_keys headers, last.get_setAll headers,
    last.get_inject_iff⟩

/-- A trace whose key was set in two spellings, the first in lower case. -/
def twice : List (String × String) := [("traceparent", "00-1"), ("TraceParent", "00-2")]

/-- Headers that have an entry under that key, and another one. -/
def labelled : Arguments := .ofList [("traceparent", .void), ("priority", .uint8 7)]

/-- The value of the second is read, under the key of the first. -/
theorem read_as_set_of_twice :
    "traceparent" ∈ twice.map Prod.fst ∧ (∀ p ∈ twice, lowercase p.1 ≠ "priority")
      ∧ get (setAll labelled twice) "traceparent" = (some "00-2", [])
      ∧ (setAll labelled twice).keys.count "traceparent" = 1
      ∧ (setAll labelled twice).get? "priority" = labelled.get? "priority"
      ∧ ("traceparent", some "00-2") ∈ (extract (some (inject twice))).1 := by
  have own : lowercase "traceparent" = "traceparent" := by decide +kernel
  have member : "traceparent" ∈ twice.map Prod.fst := by decide
  have unset : ∀ p ∈ twice, lowercase p.1 ≠ "priority" := by decide +kernel
  have last : LastSet twice "traceparent" "00-2" :=
    ⟨[_], "TraceParent", [], rfl, by decide +kernel, nofun⟩
  obtain ⟨keys, others, -, extracted⟩ := read_as_set_iff labelled twice
  obtain ⟨value, last', found, once, read, -⟩ := keys "traceparent" member
  obtain rfl := last'.unique last
  rw [own] at once
  rw [if_pos own] at read
  exact ⟨member, unset, read, once, others _ unset, (extracted _ _).2 ⟨own, _, last, rfl⟩⟩

/-- A key with capitals is set, and nothing is read under it. -/
theorem capitals_are_lost :
    (inject [("TraceParent", "00-1")]).get? "traceparent" = some (.text "00-1")
      ∧ get (inject [("TraceParent", "00-1")]) "TraceParent" = (none, []) := by
  decide +kernel

end Courier.TraceHeaders
