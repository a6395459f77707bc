/-
Lists of entries kept in ascending order of their keys, one entry a key:
the form of every map of this library, so that two maps with the same
entries are the same list, and reading a map out is reading the list.

The functions work on plain lists, because a value that holds a map of
values can only hold it as a list. `put` keeps the order (`Ordered.put`),
and what a map says about a key is the view `get?`: `get?_put` states the
whole effect of an insertion in it, with no hypothesis on the list.
-/
namespace Courier.KeyedList

variable {α : Type}

/-- Inserts an entry, replacing the one with the same key. -/
def put (k : String) (v : α) : List (String × α) → List (String × α)
  | [] => [(k, v)]
  | (k', v') :: rest =>
    if k < k' then (k, v) :: (k', v') :: rest
    else if k = k' then (k, v) :: rest
    else (k', v') :: put k v rest

/-- The value under a key. -/
def get? (k : String) : List (String × α) → Option α
  | [] => none
  | (k', v) :: rest => if k = k' then some v else get? k rest

/-- The map of a list of pairs; a repeated key keeps its last value. -/
def ofList (pairs : List (String × α)) : List (String × α) :=
  pairs.foldl (fun m p => put p.1 p.2 m) []

/-- Keys ascend, so no key is repeated. -/
def Ordered (m : List (String × α)) : Prop :=
  m.Pairwise fun a b => a.1 < b.1

-- ============================================================ the order

theorem mem_put {k : String} {v : α} {e : String × α} {m : List (String × α)}
    (h : e ∈ put k v m) : e = (k, v) ∨ e ∈ m := by
  induction m with
  | nil => simpa [put] using h
  | cons hd tl ih =>
    obtain ⟨k', v'⟩ := hd
    rw [put] at h
    split at h
    · simpa using h
    · split at h <;> grind

/-- Insertion under a new key adds that key. -/
theorem keys_put {k : String} {v : α} {m : List (String × α)} (new : k ∉ m.map Prod.fst) :
    ((put k v m).map Prod.fst).Perm (k :: m.map Prod.fst) := by
  induction m with
  | nil => exact .refl _
  | cons hd tl ih =>
    obtain ⟨k', v'⟩ := hd
    rw [List.map_cons, List.mem_cons, not_or] at new
    rw [put]
    split
    · exact .refl _
    · rw [if_neg new.1]
      exact ((ih new.2).cons k').trans (.swap k k' _)

/-- The empty map is ordered. -/
theorem Ordered.nil : Ordered ([] : List (String × α)) := List.Pairwise.nil

/-- Insertion keeps the order. -/
theorem Ordered.put {m : List (String × α)} (h : Ordered m) (k : String) (v : α) :
    Ordered (KeyedList.put k v m) := by
  induction m with
  | nil => simp [KeyedList.put, Ordered]
  | cons hd tl ih =>
    obtain ⟨k', v'⟩ := hd
    have ⟨hd_lt, tl_ordered⟩ := List.pairwise_cons.1 h
    rw [KeyedList.put]
    split
    next lt =>
      refine List.pairwise_cons.2 ⟨fun e he => ?_, h⟩
      rcases List.mem_cons.1 he with rfl | he
      · exact lt
      · exact String.lt_trans lt (hd_lt e he)
    next not_lt =>
      split
      next eq =>
        subst eq
        exact List.pairwise_cons.2 ⟨hd_lt, tl_ordered⟩
      next ne =>
        have gt : k' < k := by
          rcases String.le_total k k' with le | le
          · exact absurd (String.le_antisymm le (String.not_lt.1 not_lt)) ne
          · exact Classical.byContradiction fun not_gt =>
              ne (String.le_antisymm (String.not_lt.1 not_gt) le)
        refine List.pairwise_cons.2 ⟨fun e he => ?_, ih tl_ordered⟩
        rcases mem_put he with rfl | he
        · exact gt
        · exact hd_lt e he

/-- A map built by insertions is ordered. -/
theorem ordered_foldl_put (pairs m : List (String × α)) (h : Ordered m) :
    Ordered (pairs.foldl (fun m p => put p.1 p.2 m) m) := by
  induction pairs generalizing m with
  | nil => exact h
  | cons p rest ih => exact ih _ (h.put p.1 p.2)

/-- The map of a list of pairs is ordered, whatever the list. -/
theorem ordered_ofList (pairs : List (String × α)) : Ordered (ofList pairs) :=
  ordered_foldl_put pairs [] .nil

/-- No key is repeated. -/
theorem Ordered.nodup_keys {m : List (String × α)} (h : Ordered m) : (m.map Prod.fst).Nodup := by
  rw [List.Nodup, List.pairwise_map]
  refine h.imp fun {a b} lt same => ?_
  rw [same] at lt
  exact String.lt_irrefl b.1 lt

-- ============================================================= the view

@[simp] theorem get?_nil (k : String) : get? k ([] : List (String × α)) = none := rfl

/-- An insertion sets its own key and leaves every other key alone. -/
theorem get?_put (k k' : String) (v : α) (m : List (String × α)) :
    get? k' (put k v m) = if k' = k then some v else get? k' m := by
  induction m with
  | nil => simp [put, get?]
  | cons hd tl ih =>
    obtain ⟨k'', v''⟩ := hd
    rw [put]
    split
    · simp [get?]
    · split
      next eq => subst eq; simp only [get?]; split <;> rfl
      next ne => simp only [get?, ih]; grind

/-- Nothing is found under a key that is before all others. -/
theorem get?_eq_none {k : String} {m : List (String × α)} (before : ∀ e ∈ m, k < e.1) :
    get? k m = none := by
  induction m with
  | nil => rfl
  | cons hd tl ih =>
    obtain ⟨k', v⟩ := hd
    have lt : k < k' := before _ List.mem_cons_self
    have other : k ≠ k' := by
      rintro rfl
      exact String.lt_irrefl k lt
    rw [get?, if_neg other]
    exact ih fun e he => before e (List.mem_cons_of_mem _ he)

/-- What is found under a key is an entry of it. -/
theorem entry_of_get? {name : String} {v : α} {m : List (String × α)}
    (found : get? name m = some v) : (name, v) ∈ m := by
  induction m with
  | nil => cases found
  | cons entry rest ih =>
      unfold get? at found
      split at found
      next same =>
        cases found
        exact same ▸ List.mem_cons_self
      next => exact List.mem_cons_of_mem _ (ih found)

/-- Something is found under the keys of a map. -/
theorem get?_isSome_iff {k : String} {m : List (String × α)} :
    (get? k m).isSome ↔ k ∈ m.map Prod.fst := by
  induction m with
  | nil => simp
  | cons hd tl ih =>
    obtain ⟨k', v⟩ := hd
    rw [get?, List.map_cons, List.mem_cons]
    split
    next same => exact iff_of_true rfl (.inl same)
    next differ => rw [ih, or_iff_right differ]

/-- Ordered maps that say the same of every key are the same. -/
theorem Ordered.ext {m n : List (String × α)} (hm : Ordered m) (hn : Ordered n)
    (same : ∀ k, get? k m = get? k n) : m = n := by
  induction m generalizing n with
  | nil =>
    cases n with
    | nil => rfl
    | cons e _ => simpa [get?] using same e.1
  | cons e m ih =>
    cases n with
    | nil => simpa [get?] using same e.1
    | cons e' n =>
      obtain ⟨k, v⟩ := e
      obtain ⟨k', v'⟩ := e'
      have ⟨before, ordered⟩ := List.pairwise_cons.1 hm
      have ⟨before', ordered'⟩ := List.pairwise_cons.1 hn
      -- Of different first keys, each would be behind the other one.
      have found : get? k ((k', v') :: n) = some v := (same k).symm.trans (if_pos rfl)
      have found' : get? k' ((k, v) :: m) = some v' := (same k').trans (if_pos rfl)
      obtain rfl : k = k' := by
        refine Classical.byContradiction fun differ => ?_
        rw [get?, if_neg differ] at found
        rw [get?, if_neg (Ne.symm differ)] at found'
        have lt := before' _ (entry_of_get? found)
        have lt' := before _ (entry_of_get? found')
        exact String.lt_irrefl k (String.lt_trans lt' lt)
      obtain rfl : v' = v := by simpa [get?] using found
      congr 1
      refine ih ordered ordered' fun j => ?_
      by_cases here : j = k
      · rw [here, get?_eq_none before, get?_eq_none before']
      · simpa [get?, here] using same j

/-- After the entries of an ordered map were inserted, each key has the value
that it has there; if it has none there, the one that it had. -/
theorem get?_foldl_put {entries : List (String × α)} (ordered : Ordered entries)
    (m : List (String × α)) (k : String) :
    get? k (entries.foldl (fun m e => put e.1 e.2 m) m) = (get? k entries).or (get? k m) := by
  induction entries generalizing m with
  | nil => rfl
  | cons hd tl ih =>
    obtain ⟨k', v⟩ := hd
    have ⟨before, ordered⟩ := List.pairwise_cons.1 ordered
    rw [List.foldl_cons, ih ordered, get?_put, get?]
    split
    next same =>
      subst same
      rw [get?_eq_none before]
      rfl
    next => rfl

/-- What is found under a key after a change of all values. -/
theorem get?_map {β : Type} (f : α → β) (k : String) (m : List (String × α)) :
    get? k (m.map fun (k, v) => (k, f v)) = (get? k m).map f := by
  induction m with
  | nil => rfl
  | cons entry rest ih =>
      simp only [List.map_cons, get?]
      split
      · rfl
      · exact ih

/-- What is found under a key is among the values. -/
theorem mem_of_get? {name : String} {v : α} {m : List (String × α)}
    (found : get? name m = some v) : v ∈ m.map Prod.snd :=
  List.mem_map_of_mem (entry_of_get? found)

end Courier.KeyedList
