/-
What is found under a number once a list has changed: one entry replaced or
modified, or one added at the end. Each fact comes in two directions, from
the old list to the new one, and back.

Where entries are counted, or numbers of theirs are added up, the one that
replaces another is counted for what it is then; `countP_set_add` and
`sum_map_set_add` say so without a subtraction.
-/
import Mathlib.Algebra.GroupWithZero.Nat

namespace Courier

variable {α : Type} {l : List α} {i j : Nat} {x y : α}

/-- What a list has under a number after one entry was modified, the modified one
included. -/
theorem getElem?_modify_of_some (f : α → α) (hx : l[j]? = some x) :
    (l.modify i f)[j]? = some (if i = j then f x else x) := by
  rw [List.getElem?_modify, hx]
  rfl

/-- Back: what is found then comes from an entry of the old list under the same
number. -/
theorem of_getElem?_modify {f : α → α} (hy : (l.modify i f)[j]? = some y) :
    ∃ x, l[j]? = some x ∧ y = if i = j then f x else x := by
  rw [List.getElem?_modify] at hy
  cases hx : l[j]? with
  | none =>
      rw [hx] at hy
      cases hy
  | some x =>
      rw [hx] at hy
      exact ⟨x, rfl, (Option.some.inj hy).symm⟩

/-- Where an entry was, the one that replaces it is found. -/
theorem getElem?_set_self_of_some (hx : l[i]? = some x) : (l.set i y)[i]? = some y :=
  List.getElem?_set_self (List.getElem?_eq_some_iff.1 hx).1

/-- Under other numbers nothing changes. -/
theorem getElem?_set_of_ne (other : j ≠ i) (hx : l[j]? = some x) :
    (l.set i y)[j]? = some x := by
  rw [List.getElem?_set_ne other.symm]
  exact hx

/-- Back: what is found then is what was put there, or was there under another
number. -/
theorem of_getElem?_set (hx : (l.set i y)[j]? = some x) :
    j = i ∧ x = y ∨ j ≠ i ∧ l[j]? = some x := by
  rw [List.getElem?_set] at hx
  split at hx
  next same =>
    split at hx
    · exact .inl ⟨same.symm, (Option.some.inj hx).symm⟩
    · cases hx
  next other => exact .inr ⟨fun same => other same.symm, hx⟩

/-- What is found stays under its number when an entry is added at the end. -/
theorem getElem?_append_of_some (hx : l[i]? = some x) : (l ++ [y])[i]? = some x := by
  rw [List.getElem?_append_left (List.getElem?_eq_some_iff.1 hx).1]
  exact hx

/-- Back: it was found before, or is what was added. -/
theorem of_getElem?_append (hx : (l ++ [y])[i]? = some x) :
    l[i]? = some x ∨ i = l.length ∧ x = y := by
  rcases Nat.lt_or_ge i l.length with before | after
  · rw [List.getElem?_append_left before] at hx
    exact .inl hx
  · rw [List.getElem?_append_right after, List.getElem?_singleton] at hx
    split at hx
    · exact .inr ⟨by omega, (Option.some.inj hx).symm⟩
    · cases hx

-- ======================================================== what is counted

/-- An entry that is there is modified by putting the new one in its place. -/
theorem modify_eq_set (f : α → α) (hx : l[i]? = some x) : l.modify i f = l.set i (f x) := by
  obtain ⟨inside, rfl⟩ := List.getElem?_eq_some_iff.1 hx
  refine List.ext_getElem? fun j => ?_
  rw [List.getElem?_modify, List.getElem?_set]
  split
  next same =>
    subst same
    rw [hx]
    rfl
  next => rw [Option.map_eq_map, Option.map_id']

/-- What a change of an entry leaves alone is the same of all entries. -/
theorem map_modify_of_eq {β : Type} (g : α → β) (l : List α) (i : Nat) (f : α → α)
    (same : ∀ x, g (f x) = g x) : (l.modify i f).map g = l.map g := by
  refine List.ext_getElem? fun j => ?_
  rw [List.getElem?_map, List.getElem?_map, List.getElem?_modify, Option.map_eq_map,
    Option.map_map]
  congr 1
  funext x
  show g (if i = j then f x else x) = g x
  split
  next => exact same x
  next => rfl

/-- A sum over the entries changes by what the entry that is replaced and the new
one give. It is said by adding on both sides, since a difference of natural numbers
says less. -/
theorem sum_map_set_add (f : α → Nat) (hx : l[i]? = some x) (y : α) :
    ((l.set i y).map f).sum + f x = (l.map f).sum + f y := by
  induction l generalizing i with
  | nil => cases hx
  | cons a rest ih =>
      cases i with
      | zero =>
          cases hx
          simp only [List.set_cons_zero, List.map_cons, List.sum_cons]
          omega
      | succ i =>
          have kept := ih hx
          simp only [List.set_cons_succ, List.map_cons, List.sum_cons]
          omega

/-- To count is to add up ones, so that what is counted follows from what is added
up. -/
theorem countP_eq_sum (q : α → Bool) (l : List α) :
    l.countP q = (l.map fun x => (q x).toNat).sum := by
  induction l with
  | nil => rfl
  | cons a rest ih =>
      rw [List.countP_cons, List.map_cons, List.sum_cons, ih]
      cases q a <;> simp +arith

/-- How many entries are counted, after one of them was replaced. -/
theorem countP_set_add (q : α → Bool) (hx : l[i]? = some x) (y : α) :
    (l.set i y).countP q + (q x).toNat = l.countP q + (q y).toNat := by
  rw [countP_eq_sum, countP_eq_sum]
  exact sum_map_set_add (fun x => (q x).toNat) hx y

end Courier
