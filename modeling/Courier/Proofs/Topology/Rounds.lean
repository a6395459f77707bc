/-
Messages that go round between two queues. Where an exchange fills one
queue only, that queue sends what it does not keep to a second one only,
and the second one back to the first (`Circle`), a message published to
the exchange has one copy until it is acknowledged, in one of the two. It
neither gets lost nor is it doubled, in whatever order messages are
published, rejected, expire and are acknowledged, there and elsewhere.

Nothing is said here about how the queues came to be connected this way.
-/
import Courier.Proofs.Lookup
import Courier.Topology.Broker

namespace Courier.Topology

variable {b : Broker} {chooses : Choice} {exchange main error : String} {t t' : Traffic}

/-- An exchange, the queue it fills, and the queue that one has its
messages come back from. -/
structure Circle (b : Broker) (chooses : Choice) (exchange main error : String) : Prop where
  enters : ∀ n, b.routes chooses exchange n = [main]
  fails : ∀ n, b.deadLetters chooses main n = [error]
  returns : ∀ n, b.deadLetters chooses error n = [main]
  expires : (b.queue? error).any (·.expires) = true

namespace Traffic

-- ============================================================= the copies

/-- A copy of a message that is taken out of a queue. -/
theorem queues_erase (copies : List (String × Nat)) (queue : String) (n : Nat) :
    ((copies.erase (queue, n)).filter (·.2 == n)).map (·.1)
      = ((copies.filter (·.2 == n)).map (·.1)).erase queue := by
  induction copies with
  | nil => rfl
  | cons copy rest ih =>
      obtain ⟨q, m⟩ := copy
      by_cases same : m = n
      · subst same
        rw [List.filter_cons_of_pos (by simp), List.map_cons]
        by_cases here : q = queue
        · subst here
          rw [List.erase_cons_head, List.erase_cons_head]
        · rw [List.erase_cons_tail (by simpa using here),
            List.erase_cons_tail (by simpa using here), List.filter_cons_of_pos (by simp),
            List.map_cons, ih]
      · rw [List.erase_cons_tail (by simp [same]), List.filter_cons_of_neg (by simpa using same),
          List.filter_cons_of_neg (by simpa using same), ih]

/-- The other messages do not notice. -/
theorem queues_erase_of_ne {m n : Nat} (other : m ≠ n) (copies : List (String × Nat))
    (queue : String) :
    ((copies.erase (queue, m)).filter (·.2 == n)).map (·.1)
      = (copies.filter (·.2 == n)).map (·.1) := by
  induction copies with
  | nil => rfl
  | cons copy rest ih =>
      obtain ⟨q, i⟩ := copy
      by_cases here : (q, i) = (queue, m)
      · rw [here, List.erase_cons_head, List.filter_cons_of_neg (by simpa using other)]
      · rw [List.erase_cons_tail (by simpa using here)]
        by_cases same : i = n
        · rw [List.filter_cons_of_pos (by simpa using same),
            List.filter_cons_of_pos (by simpa using same), List.map_cons, List.map_cons, ih]
        · rw [List.filter_cons_of_neg (by simpa using same),
            List.filter_cons_of_neg (by simpa using same), ih]

/-- Copies of one message that are put into queues. -/
theorem queues_map (queues : List String) (n : Nat) :
    ((queues.map (·, n)).filter (·.2 == n)).map (·.1) = queues := by
  rw [List.filter_eq_self.2 ?_, List.map_map]
  · exact List.map_id _
  · intro copy member
    obtain ⟨queue, -, rfl⟩ := List.mem_map.1 member
    exact beq_self_eq_true n

theorem queues_map_of_ne {m n : Nat} (other : m ≠ n) (queues : List String) :
    ((queues.map (·, m)).filter (·.2 == n)).map (·.1) = [] := by
  rw [List.filter_eq_nil_iff.2 ?_, List.map_nil]
  intro copy member
  obtain ⟨queue, -, rfl⟩ := List.mem_map.1 member
  simpa using other

theorem mem_copiesOf {queue : String} {n : Nat} (member : (queue, n) ∈ t.copies) :
    queue ∈ t.copiesOf n :=
  List.mem_map.2 ⟨(queue, n), List.mem_filter.2 ⟨member, beq_self_eq_true n⟩, rfl⟩

/-- A copy that leaves its queue otherwise than by being acknowledged. -/
theorem copiesOf_deadLetter (t : Traffic) (b : Broker) (chooses : Choice) (queue : String)
    (n : Nat) : (t.deadLetter b chooses queue n).copiesOf n
      = (t.copiesOf n).erase queue ++ b.deadLetters chooses queue n := by
  unfold copiesOf deadLetter
  rw [List.filter_append, List.map_append, queues_erase, queues_map]

/-- What happens to one message is no concern of the copies of another one. -/
theorem copiesOf_deadLetter_of_ne {m n : Nat} (other : m ≠ n) (t : Traffic) (b : Broker)
    (chooses : Choice) (queue : String) :
    (t.deadLetter b chooses queue m).copiesOf n = t.copiesOf n := by
  unfold copiesOf deadLetter
  rw [List.filter_append, List.map_append, queues_erase_of_ne other, queues_map_of_ne other,
    List.append_nil]

-- ========================================================== the invariant

/-- What has become of a message that was published to the exchange. -/
def Kept (t : Traffic) (main error : String) (n : Nat) : Prop :=
  n ∈ t.acked ∧ t.copiesOf n = []
  ∨ n ∉ t.acked ∧ (t.copiesOf n = [main] ∨ t.copiesOf n = [error])

/-- What holds between any two moves. -/
structure Steady (t : Traffic) (exchange main error : String) : Prop where
  kept : ∀ n : Nat, t.published[n]? = some exchange → t.Kept main error n
  copies_lt : ∀ queue n, (queue, n) ∈ t.copies → n < t.published.length
  acked_lt : ∀ n ∈ t.acked, n < t.published.length

/-- A new message has one copy, in the main queue. -/
theorem Steady.publish (s : t.Steady exchange main error)
    (circle : Circle b chooses exchange main error) (source : String) :
    Steady { t with
      published := t.published ++ [source]
      copies := t.copies ++ (b.routes chooses source t.published.length).map
        (·, t.published.length) } exchange main error := by
  refine ⟨?_, ?_, ?_⟩
  · intro n published
    unfold Kept copiesOf
    rw [List.filter_append, List.map_append]
    rcases of_getElem?_append published with before | ⟨rfl, rfl⟩
    · have older := (List.getElem?_eq_some_iff.1 before).1
      rw [queues_map_of_ne (Nat.ne_of_gt older), List.append_nil]
      exact s.kept n before
    · have none : t.copies.filter (·.2 == t.published.length) = [] := by
        rw [List.filter_eq_nil_iff]
        intro copy member same
        have older := s.copies_lt copy.1 copy.2 member
        rw [beq_iff_eq.1 same] at older
        exact Nat.lt_irrefl _ older
      rw [none, queues_map, circle.enters, List.map_nil, List.nil_append]
      refine .inr ⟨?_, .inl rfl⟩
      intro member
      exact Nat.lt_irrefl _ (s.acked_lt _ member)
  · intro queue n member
    rw [List.length_append, List.length_singleton]
    rcases List.mem_append.1 member with before | new
    · exact Nat.lt_succ_of_lt (s.copies_lt queue n before)
    · obtain ⟨q, -, same⟩ := List.mem_map.1 new
      cases same
      exact Nat.lt_succ_self _
  · intro n member
    rw [List.length_append, List.length_singleton]
    exact Nat.lt_succ_of_lt (s.acked_lt n member)

/-- A copy that is rejected or expires goes on to the other queue of the cycle, and
is one copy there. -/
theorem Steady.deadLetter (s : t.Steady exchange main error)
    (circle : Circle b chooses exchange main error) {queue : String} {m : Nat}
    (there : (queue, m) ∈ t.copies) :
    (t.deadLetter b chooses queue m).Steady exchange main error := by
  refine ⟨?_, ?_, s.acked_lt⟩
  · intro n published
    unfold Kept
    by_cases same : m = n
    · subst same
      rw [copiesOf_deadLetter]
      have member := mem_copiesOf there
      rcases s.kept m published with ⟨-, none⟩ | ⟨waits, inMain | inError⟩
      · rw [none] at member
        cases member
      · rw [inMain] at member ⊢
        rw [List.mem_singleton.1 member, List.erase_cons_head, circle.fails]
        exact .inr ⟨waits, .inr rfl⟩
      · rw [inError] at member ⊢
        rw [List.mem_singleton.1 member, List.erase_cons_head, circle.returns]
        exact .inr ⟨waits, .inl rfl⟩
    · rw [copiesOf_deadLetter_of_ne same]
      exact s.kept n published
  · intro q n member
    rcases List.mem_append.1 member with before | new
    · exact s.copies_lt q n (List.mem_of_mem_erase before)
    · obtain ⟨_, -, same⟩ := List.mem_map.1 new
      cases same
      exact s.copies_lt queue m there

/-- A copy that is acknowledged is gone, and was the only one. -/
theorem Steady.ack (s : t.Steady exchange main error) {queue : String} {m : Nat}
    (there : (queue, m) ∈ t.copies) :
    Steady { t with copies := t.copies.erase (queue, m), acked := t.acked ++ [m] }
      exchange main error := by
  refine ⟨?_, ?_, ?_⟩
  · intro n published
    unfold Kept copiesOf
    by_cases same : m = n
    · subst same
      rw [queues_erase]
      have member := mem_copiesOf there
      rcases s.kept m published with ⟨-, none⟩ | ⟨-, one⟩
      · rw [none] at member
        cases member
      · obtain ⟨only, single⟩ : ∃ q, t.copiesOf m = [q] := by
          rcases one with inMain | inError
          · exact ⟨main, inMain⟩
          · exact ⟨error, inError⟩
        unfold copiesOf at single member
        rw [single] at member ⊢
        rw [List.mem_singleton.1 member, List.erase_cons_head]
        exact .inl ⟨List.mem_append_right _ List.mem_cons_self, rfl⟩
    · rw [queues_erase_of_ne same, List.mem_append, List.mem_singleton]
      have kept := s.kept n published
      unfold Kept copiesOf at kept
      rw [or_iff_left (Ne.symm same)]
      exact kept
  · intro q n member
    exact s.copies_lt q n (List.mem_of_mem_erase member)
  · intro n member
    rcases List.mem_append.1 member with before | new
    · exact s.acked_lt n before
    · rw [List.mem_singleton.1 new]
      exact s.copies_lt queue m there

/-- Every move keeps it. -/
theorem Steady.step (s : t.Steady exchange main error)
    (circle : Circle b chooses exchange main error) {m : TrafficMove}
    (step : t.step? b chooses m = some t') : t'.Steady exchange main error := by
  cases m with
  | publish source =>
      simp only [step?] at step
      split at step
      · cases step
        exact s.publish circle source
      · cases step
  | reject queue n =>
      simp only [step?] at step
      split at step
      next there =>
        cases step
        exact s.deadLetter circle (List.contains_iff_mem.1 there)
      · cases step
  | expire queue n =>
      simp only [step?] at step
      split at step
      next there =>
        cases step
        rw [Bool.and_eq_true] at there
        exact s.deadLetter circle (List.contains_iff_mem.1 there.1)
      · cases step
  | ack queue n =>
      simp only [step?] at step
      split at step
      next there =>
        cases step
        exact s.ack (List.contains_iff_mem.1 there)
      · cases step

/-- It holds of all traffic on a broker with the circle. -/
theorem steady_of_reachable (circle : Circle b chooses exchange main error)
    (h : Reachable b chooses t) : t.Steady exchange main error := by
  induction h with
  | start => exact ⟨nofun, nofun, nofun⟩
  | step m _ step steady => exact steady.step circle step

end Traffic

end Courier.Topology
