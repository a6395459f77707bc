/-
The retries of a message. A message that comes to a subscription without a
record of dead-lettering, and comes back from each retry with one more
death on record, is processed at most once more than the cycle grants
retries. How often it was processed is read back from its headers alone,
so the whole argument is one invariant: the processing number `k` of a
course sees `k` deaths.

# The budget

With `r` retries granted, a processing that fails after `k` earlier ones
is retried if `k < r` and dropped if `k = r`; it can have no other number,
because a course goes on only after a retry. Attempts are counted in 64-bit
words, but the retries fit 32 bits, so the comparison does not wrap
(`attempt_lt_retries`).

# The end

`course_bounded_by_retries` collects what is known of every course, be it
over or not, and adds that each one can be brought to an end, so that the
bound is not the bound of a message that is stuck.
-/
import Courier.Delivery.Course

namespace Courier

variable {s : Subscription} {queue : String} {calls : Nat}

-- ============================================================ the record

/-- The deaths on record are the attempts that are read from the headers. -/
theorem Deaths.earlierAttempts {n : Nat} {headers : Option Arguments}
    (deaths : Deaths n headers) : earlierAttempts headers = .ofNat n := by
  cases deaths with
  | unrecorded missing =>
      cases headers with
      | none => rfl
      | some headers =>
          have unset : headers.get? deathHeader = none := by simpa using missing
          simp [Courier.earlierAttempts, deathCount?, unset]
  | counted record count =>
      cases headers with
      | none => simp at record
      | some headers =>
          have set := by simpa using record
          simp [Courier.earlierAttempts, deathCount?, set, count, FieldValue.items?,
            FieldValue.entries?, FieldValue.count?]

theorem deaths_recording (d : Delivery) (n : Nat) : Deaths n (d.recording n).headers := by
  have record : (d.recording n).headers.bind (·.get? deathHeader)
      = some (.list [.table [(deathCountKey, .int64 (.ofNat n))]]) := by
    simp [Delivery.recording]
  have count : KeyedList.get? deathCountKey [(deathCountKey, FieldValue.int64 (.ofNat n))]
      = some (.int64 (.ofNat n)) := by
    simp [KeyedList.get?]
  exact .counted record count

/-- A message can come back with one more death on record, whatever it had. -/
theorem redelivered_recording {n : Nat} {d : Delivery} (deaths : Deaths n d.headers) :
    Redelivered d (d.recording (n + 1)) :=
  ⟨rfl, n, deaths, deaths_recording d (n + 1)⟩

-- ============================================================ the budget

theorem Subscription.retries_lt (s : Subscription) : s.retries < UInt32.size := by
  unfold Subscription.retries
  cases s.deadLetter with
  | none => decide
  | some c => exact c.maxRetryCount.toNat_lt_size

/-- An attempt is compared with the retries as a number. -/
theorem attempt_lt_retries {k r : Nat} (hk : k ≤ r) (hr : r < UInt32.size) :
    Int64.ofNat k < Int64.ofNat r ↔ k < r := by
  unfold UInt32.size at hr
  exact Int64.ofNat_lt_iff_lt (by omega) (by omega)

/-- The outcome of a failure after `k` earlier attempts, as long as the
retries were not passed over. -/
theorem outcomeOfFailure_ofNat {k : Nat} (hk : k ≤ s.retries) :
    outcomeOfFailure s.deadLetter (.ofNat k)
      = if k < s.retries then .retry (.ofNat (s.retries - k)) else .dropped (.ofNat (k + 1)) := by
  have fits := s.retries_lt
  unfold Subscription.retries at hk fits ⊢
  cases hc : s.deadLetter with
  | none =>
      simp only [outcomeOfFailure, Nat.not_lt_zero, if_false, Int64.ofNat_add]
      rfl
  | some c =>
      simp only [hc] at hk fits
      have compared := attempt_lt_retries hk fits
      simp only [outcomeOfFailure, Cycle.retries, compared, Int64.ofNat_sub _ _ hk,
        Int64.ofNat_add]
      rfl

-- =========================================================== one delivery

theorem Subscription.consume_handling (s : Subscription) (queue : String) (calls : Nat)
    (d : Delivery) (cancelled : Bool) :
    (s.consume queue calls d cancelled).1.handling
      = (s.handler.handle calls d.payload cancelled).1 := rfl

/-- A payload that cannot be read is no call, and nothing is shown of it. -/
theorem Handler.handle_unreadable {h : Handler} {payload : List UInt8} {fault : Json.Fault}
    (hr : h.format.read payload = .error fault) (calls : Nat) (cancelled : Bool) :
    h.handle calls payload cancelled
      = ({ shown := [], pause := none, shownLater := [], result := .error (.unreadable fault) },
          calls) := by
  rw [Handler.handle, hr]

theorem Handler.handle_readable {h : Handler} {payload : List UInt8} {message : Json.Value}
    (hr : h.format.read payload = .ok message) (calls : Nat) (cancelled : Bool) :
    h.handle calls payload cancelled
      = ((h.perform calls message cancelled).handling calls message, calls + 1) := by
  rw [Handler.handle, hr]

theorem Performance.built_handling (p : Performance) (call : Nat) (message : Json.Value) :
    (p.handling call message).events.filterMap (·.built?) = [call] := by
  cases p with
  | unbuilt reason => rfl
  | handled pause verdict => cases pause <;> rfl

/-- A handler is built once for a payload that can be read, and never for
another one. -/
theorem Subscription.consume_built (s : Subscription) (queue : String) (calls : Nat)
    (d : Delivery) (cancelled : Bool) :
    (s.consume queue calls d cancelled).1.built
      = if s.handler.reads d.payload then [calls] else [] := by
  rw [Consumption.built, s.consume_handling, Handler.reads]
  cases hr : s.handler.format.read d.payload with
  | error fault =>
      rw [Handler.handle_unreadable hr]
      rfl
  | ok message =>
      rw [Handler.handle_readable hr, Performance.built_handling]
      rfl

/-- Only a payload that can be read counts as a call. -/
theorem Subscription.consume_calls (s : Subscription) (queue : String) (calls : Nat)
    (d : Delivery) (cancelled : Bool) :
    (s.consume queue calls d cancelled).2
      = if s.handler.reads d.payload then calls + 1 else calls := by
  show (s.handler.handle calls d.payload cancelled).2 = _
  rw [Handler.reads]
  cases hr : s.handler.format.read d.payload with
  | error fault =>
      rw [Handler.handle_unreadable hr]
      rfl
  | ok message =>
      rw [Handler.handle_readable hr]
      rfl

/-- A handler that succeeds gives a result that is none of an error. -/
theorem Handler.result_of_succeeds {h : Handler} {calls : Nat} {payload : List UInt8}
    {cancelled : Bool} (hs : h.succeeds calls payload cancelled = true) :
    (h.handle calls payload cancelled).1.result = .ok () := by
  unfold Handler.succeeds at hs
  cases hr : h.format.read payload with
  | error fault => simp [hr] at hs
  | ok message =>
      rw [Handler.handle_readable hr]
      cases hp : h.perform calls message cancelled with
      | unbuilt reason => simp [hr, hp] at hs
      | handled pause verdict =>
          cases verdict with
          | done => rfl
          | failed reason => simp [hr, hp] at hs
          | brokeOff reason => simp [hr, hp] at hs

/-- Whatever else happens is an error: a payload that cannot be read, a
handler that fails or breaks off, one that cannot be built. -/
theorem Handler.result_of_not_succeeds {h : Handler} {calls : Nat} {payload : List UInt8}
    {cancelled : Bool} (hs : h.succeeds calls payload cancelled = false) :
    ∃ e, (h.handle calls payload cancelled).1.result = .error e := by
  unfold Handler.succeeds at hs
  cases hr : h.format.read payload with
  | error fault =>
      rw [Handler.handle_unreadable hr]
      exact ⟨_, rfl⟩
  | ok message =>
      rw [Handler.handle_readable hr]
      cases hp : h.perform calls message cancelled with
      | unbuilt reason => exact ⟨_, rfl⟩
      | handled pause verdict =>
          cases verdict with
          | done => simp [hr, hp] at hs
          | failed reason => exact ⟨_, rfl⟩
          | brokeOff reason => exact ⟨_, rfl⟩

/-- A processing that fails has the outcome of a failure after the attempts
that are read from the headers. -/
theorem Subscription.consume_outcome_eq (s : Subscription) (queue : String) (calls : Nat)
    (d : Delivery) (cancelled : Bool) :
    (s.consume queue calls d cancelled).1.outcome
      = if s.handler.succeeds calls d.payload cancelled then .handled
        else outcomeOfFailure s.deadLetter (earlierAttempts d.headers) := by
  have unfolded : (s.consume queue calls d cancelled).1.outcome
      = outcomeOf s.deadLetter (earlierAttempts d.headers)
        (s.handler.handle calls d.payload cancelled).1.result := rfl
  rw [unfolded]
  cases hs : s.handler.succeeds calls d.payload cancelled with
  | true => rw [Handler.result_of_succeeds hs, outcomeOf, if_pos rfl]
  | false =>
      obtain ⟨e, failed⟩ := Handler.result_of_not_succeeds hs
      rw [failed, outcomeOf, if_neg Bool.false_ne_true]

theorem Subscription.consume_outcome {k : Nat} {d : Delivery} (deaths : Deaths k d.headers)
    (hk : k ≤ s.retries) (cancelled : Bool) :
    (s.consume queue calls d cancelled).1.outcome
      = if s.handler.succeeds calls d.payload cancelled then .handled
        else if k < s.retries then .retry (.ofNat (s.retries - k))
        else .dropped (.ofNat (k + 1)) := by
  rw [s.consume_outcome_eq, deaths.earlierAttempts, outcomeOfFailure_ofNat hk]

-- ========================================================= all deliveries

/-- A payload that cannot be read is never handled well. -/
theorem Handler.succeeds_of_not_reads {h : Handler} {payload : List UInt8}
    (hr : h.reads payload = false) (call : Nat) (cancelled : Bool) :
    h.succeeds call payload cancelled = false := by
  unfold Handler.reads at hr
  unfold Handler.succeeds
  cases hf : h.format.read payload with
  | error fault => rfl
  | ok message => simp [hf, Except.toBool] at hr

/-- What processing number `k` of a course comes to, when the first one saw
`j` deaths. -/
structure Processing (s : Subscription) (calls j k : Nat) (payload : List UInt8)
    (x : Delivery × Bool) (c : Consumption) : Prop where
  payload_eq : x.1.payload = payload
  deaths : Deaths (j + k) x.1.headers
  granted : j + k ≤ s.retries
  outcome_eq : c.outcome
    = if s.handler.succeeds (calls + k) payload x.2 then .handled
      else if j + k < s.retries then .retry (.ofNat (s.retries - (j + k)))
      else .dropped (.ofNat (j + k + 1))
  built_eq : c.built = if s.handler.reads payload then [calls + k] else []

/-- A delivery that is retried has one more retry to come. -/
theorem lt_retries_of_isRetry {k : Nat} {d : Delivery} {cancelled : Bool}
    (deaths : Deaths k d.headers) (hk : k ≤ s.retries)
    (retried : (s.consume queue calls d cancelled).1.outcome.isRetry = true) : k < s.retries := by
  rw [Subscription.consume_outcome deaths hk] at retried
  split at retried
  · cases retried
  · split at retried
    · assumption
    · cases retried

theorem Processing.first {j : Nat} {d : Delivery} (deaths : Deaths j d.headers)
    (hj : j ≤ s.retries) (cancelled : Bool) :
    Processing s calls j 0 d.payload (d, cancelled) (s.consume queue calls d cancelled).1 :=
  { payload_eq := rfl
    deaths := deaths
    granted := hj
    outcome_eq := Subscription.consume_outcome deaths hj cancelled
    built_eq := s.consume_built queue calls d cancelled }

/-- A processing of the rest of a course is one of the whole course. -/
theorem Processing.later {j k : Nat} {d : Delivery} {cancelled : Bool} {x : Delivery × Bool}
    {c : Consumption}
    (p : Processing s (s.consume queue calls d cancelled).2 (j + 1) k d.payload x c) :
    Processing s calls j (k + 1) d.payload x c := by
  obtain ⟨payload_eq, deaths, granted, outcome_eq, built_eq⟩ := p
  have number : j + 1 + k = j + (k + 1) := by omega
  rw [number] at deaths granted outcome_eq
  rw [Subscription.consume_calls] at outcome_eq built_eq
  refine ⟨payload_eq, deaths, granted, ?_, ?_⟩
  · cases hr : s.handler.reads d.payload with
    | true =>
        rw [outcome_eq, hr, if_pos rfl, show calls + 1 + k = calls + (k + 1) by omega]
    | false =>
        -- without a call the numbers differ, but no call succeeds
        rw [outcome_eq, Handler.succeeds_of_not_reads hr, Handler.succeeds_of_not_reads hr]
  · cases hr : s.handler.reads d.payload with
    | true =>
        rw [built_eq, hr, if_pos rfl, if_pos rfl, if_pos rfl,
          show calls + 1 + k = calls + (k + 1) by omega]
    | false => rw [built_eq, hr, if_neg Bool.false_ne_true, if_neg Bool.false_ne_true]

/-- A message comes back with one more death than it was known to have. -/
theorem Redelivered.deaths {d d' : Delivery} {j : Nat} (back : Redelivered d d')
    (deaths : Deaths j d.headers) : Deaths (j + 1) d'.headers := by
  obtain ⟨-, n, before, after⟩ := back
  have same : Int64.ofNat n = Int64.ofNat j := by
    rw [← before.earlierAttempts, deaths.earlierAttempts]
  cases after with
  | counted record count =>
      rw [Int64.ofNat_add, same, ← Int64.ofNat_add] at count
      exact .counted record count

/-- Every delivery of a course is processed as its number says: the run
lemma, by induction on the course. -/
theorem Course.processing {ds : List (Delivery × Bool)}
    (course : Course Redelivered s queue calls ds) :
    ∀ {j : Nat} {x₀ : Delivery × Bool}, ds.head? = some x₀ → Deaths j x₀.1.headers →
      j ≤ s.retries → ∀ {k : Nat} {x : Delivery × Bool} {c : Consumption}, ds[k]? = some x →
        (s.consumeAll queue calls ds)[k]? = some c → Processing s calls j k x₀.1.payload x c := by
  induction course with
  | once d cancelled =>
      intro j x₀ head deaths hj k x c hx hc
      cases head
      cases k with
      | succ k => simp at hx
      | zero =>
          cases hx
          cases hc
          exact .first deaths hj cancelled
  | again retried back course ih =>
      intro j x₀ head deaths hj k x c hx hc
      cases head
      cases k with
      | zero =>
          cases hx
          cases hc
          exact .first deaths hj _
      | succ k =>
          have room := lt_retries_of_isRetry deaths hj retried
          have p := ih rfl (back.deaths deaths) room hx hc
          rw [back.1] at p
          exact p.later

theorem Subscription.length_consumeAll (s : Subscription) (queue : String) (calls : Nat)
    (ds : List (Delivery × Bool)) : (s.consumeAll queue calls ds).length = ds.length := by
  induction ds generalizing calls with
  | nil => rfl
  | cons x rest ih =>
      obtain ⟨d, cancelled⟩ := x
      show (s.consumeAll queue _ rest).length + 1 = rest.length + 1
      rw [ih]

/-- Every processing of a course but the last one ends in a retry. -/
theorem Course.retried {returns : Delivery → Delivery → Prop} {ds : List (Delivery × Bool)}
    (course : Course returns s queue calls ds) :
    ∀ {k : Nat} {c : Consumption}, k + 1 < ds.length →
      (s.consumeAll queue calls ds)[k]? = some c → c.outcome.isRetry = true := by
  induction course with
  | once d cancelled =>
      intro k c hk
      simp at hk
  | again retried back course ih =>
      intro k c hk hc
      cases k with
      | zero =>
          cases hc
          exact retried
      | succ k => exact ih (by simpa using hk) hc

/-- A course that ended in a retry goes on with the next delivery. -/
theorem Course.snoc {returns : Delivery → Delivery → Prop} {ds : List (Delivery × Bool)}
    (course : Course returns s queue calls ds) :
    ∀ {x : Delivery × Bool} {c : Consumption} {d' : Delivery} (cancelled' : Bool),
      ds.getLast? = some x → (s.consumeAll queue calls ds).getLast? = some c →
      c.outcome.isRetry = true → returns x.1 d' →
      Course returns s queue calls (ds ++ [(d', cancelled')]) := by
  induction course with
  | once d cancelled =>
      intro x c d' cancelled' hx hc retried back
      cases hx
      cases hc
      exact .again retried back (.once d' cancelled')
  | again retried' back' course ih =>
      intro x c d' cancelled' hx hc retried back
      rw [List.getLast?_cons_cons] at hx
      exact .again retried' back' (ih cancelled' hx hc retried back)

-- =============================================================== the end

/-- A processing that ends in a retry was no success. -/
theorem Processing.not_succeeds {j k : Nat} {payload : List UInt8} {x : Delivery × Bool}
    {c : Consumption} (p : Processing s calls j k payload x c)
    (retried : c.outcome.isRetry = true) :
    s.handler.succeeds (calls + k) payload x.2 = false := by
  rw [p.outcome_eq] at retried
  split at retried
  · cases retried
  · next failed => simpa using failed

/-- What is known of the deliveries of a course that begins without a record,
each with its processing. -/
theorem Course.processing_of_fresh {ds : List (Delivery × Bool)} {x₀ : Delivery × Bool}
    (course : Course Redelivered s queue calls ds) (first : ds.head? = some x₀)
    (fresh : Deaths 0 x₀.1.headers) {k : Nat} {x : Delivery × Bool} (hx : ds[k]? = some x) :
    ∃ c, (s.consumeAll queue calls ds)[k]? = some c
      ∧ Processing s calls 0 k x₀.1.payload x c := by
  have hk : k < (s.consumeAll queue calls ds).length := by
    rw [s.length_consumeAll]
    exact (List.getElem?_eq_some_iff.1 hx).1
  have hc := List.getElem?_eq_getElem hk
  exact ⟨_, hc, course.processing first fresh (Nat.zero_le _) hx hc⟩

/-- A course is at most one delivery longer than there are retries. -/
theorem Course.length_le {ds : List (Delivery × Bool)} {x₀ : Delivery × Bool}
    (course : Course Redelivered s queue calls ds) (first : ds.head? = some x₀)
    (fresh : Deaths 0 x₀.1.headers) : ds.length ≤ s.retries + 1 := by
  cases hn : ds.length with
  | zero => exact Nat.zero_le _
  | succ n =>
      have hx : ds[n]? = some ds[n] := List.getElem?_eq_getElem (by omega)
      obtain ⟨c, -, p⟩ := course.processing_of_fresh first fresh hx
      have granted := p.granted
      omega

/-- A course that is over ended well at its only success, or it failed as
often as it could. -/
theorem Course.ended {ds : List (Delivery × Bool)} {x₀ : Delivery × Bool} {c : Consumption}
    (course : Course Redelivered s queue calls ds) (first : ds.head? = some x₀)
    (fresh : Deaths 0 x₀.1.headers)
    (last : (s.consumeAll queue calls ds).getLast? = some c) (ended : c.outcome.isRetry = false) :
    c.outcome = .handled
      ∧ (∀ k x, ds[k]? = some x →
          (s.handler.succeeds (calls + k) x.1.payload x.2 = true ↔ k + 1 = ds.length))
    ∨ c.outcome = .dropped (.ofNat (s.retries + 1)) ∧ ds.length = s.retries + 1
      ∧ ∀ k x, ds[k]? = some x → s.handler.succeeds (calls + k) x.1.payload x.2 = false := by
  have lengths := s.length_consumeAll queue calls ds
  rw [List.getLast?_eq_getElem?, lengths] at last
  have hn : ds.length - 1 < ds.length := by
    rw [← lengths]
    exact lengths ▸ (List.getElem?_eq_some_iff.1 last).1
  -- before the last delivery everything failed
  have failed : ∀ k x, ds[k]? = some x → k + 1 < ds.length →
      s.handler.succeeds (calls + k) x.1.payload x.2 = false := by
    intro k x hx hk
    obtain ⟨c', hc', p⟩ := course.processing_of_fresh first fresh hx
    rw [p.payload_eq]
    exact p.not_succeeds (course.retried hk hc')
  obtain ⟨c', hc', p⟩ := course.processing_of_fresh first fresh (List.getElem?_eq_getElem hn)
  rw [last] at hc'
  cases hc'
  -- a delivery that is not before the last one is the last one
  have atEnd : ∀ k x, ds[k]? = some x → ¬k + 1 < ds.length →
      k = ds.length - 1 ∧ x = ds[ds.length - 1] := by
    intro k x hx more
    have hk := (List.getElem?_eq_some_iff.1 hx).1
    obtain rfl : k = ds.length - 1 := by omega
    rw [List.getElem?_eq_getElem hn] at hx
    exact ⟨rfl, (Option.some.inj hx).symm⟩
  have outcome := p.outcome_eq
  have granted := p.granted
  rw [Nat.zero_add] at outcome granted
  rw [← p.payload_eq] at outcome
  cases hs : s.handler.succeeds (calls + (ds.length - 1)) ds[ds.length - 1].1.payload
      ds[ds.length - 1].2 with
  | true =>
      rw [hs, if_pos rfl] at outcome
      refine .inl ⟨outcome, ?_⟩
      intro k x hx
      have hk := (List.getElem?_eq_some_iff.1 hx).1
      constructor
      · intro good
        by_cases more : k + 1 < ds.length
        · rw [failed k x hx more] at good
          cases good
        · omega
      · intro hk
        obtain ⟨rfl, rfl⟩ := atEnd k x hx (by omega)
        exact hs
  | false =>
      rw [hs, if_neg Bool.false_ne_true] at outcome
      split at outcome
      · rw [outcome] at ended
        cases ended
      · have full : ds.length = s.retries + 1 := by omega
        refine .inr ⟨?_, full, ?_⟩
        · rw [outcome, show ds.length - 1 + 1 = s.retries + 1 by omega]
        · intro k x hx
          by_cases more : k + 1 < ds.length
          · exact failed k x hx more
          · obtain ⟨rfl, rfl⟩ := atEnd k x hx more
            exact hs

/-- Every course can be brought to its end: it is over, or it goes on with a
delivery that has one more death on record. The induction is on the
deliveries that there is still room for. -/
theorem Course.exists_ended {x₀ : Delivery × Bool} (fresh : Deaths 0 x₀.1.headers) (room : Nat) :
    ∀ {ds : List (Delivery × Bool)}, Course Redelivered s queue calls ds →
      ds.head? = some x₀ → s.retries + 2 - ds.length ≤ room →
      ∃ more c, Course Redelivered s queue calls (ds ++ more)
        ∧ (s.consumeAll queue calls (ds ++ more)).getLast? = some c
        ∧ c.outcome.isRetry = false := by
  induction room with
  | zero =>
      intro ds course first hroom
      have bounded := course.length_le first fresh
      omega
  | succ room ih =>
      intro ds course first hroom
      have nonempty : ds ≠ [] := by
        intro empty
        rw [empty] at first
        cases first
      have hn : ds.length - 1 < ds.length :=
        Nat.sub_lt (List.length_pos_iff.2 nonempty) Nat.one_pos
      have hx : ds[ds.length - 1]? = some ds[ds.length - 1] := List.getElem?_eq_getElem hn
      obtain ⟨c, hc, p⟩ := course.processing_of_fresh first fresh hx
      have last : (s.consumeAll queue calls ds).getLast? = some c := by
        rw [List.getLast?_eq_getElem?, s.length_consumeAll]
        exact hc
      cases retried : c.outcome.isRetry with
      | false => exact ⟨[], c, by simpa using course, by simpa using last, retried⟩
      | true =>
          have back := redelivered_recording p.deaths
          have longer := course.snoc false (List.getLast?_eq_getElem? ▸ hx) last retried back
          obtain ⟨more, c', course', last', ended⟩ := ih longer
            (by rw [List.head?_append, first]; rfl)
            (by rw [List.length_append, List.length_singleton]; omega)
          rw [List.append_assoc] at course' last'
          exact ⟨_, c', course', last', ended⟩

/-- The course of a message without a record of dead-lettering, with `r`
retries granted: processing number `k` is handled if the handler succeeds,
retried with `r - k` retries left if it fails and `k < r`, dropped after
`r + 1` attempts if it fails and `k = r`. So there are at most `r + 1`
processings, and the course ends with the first success or, after `r + 1`
failures, with the loss of the message; it can always be brought to that
end. A handler is built once a processing if the payload can be read, and
never otherwise. Without a cycle there is one processing. -/
theorem course_bounded_by_retries {s : Subscription} {queue : String} {calls : Nat}
    {ds : List (Delivery × Bool)} {x₀ : Delivery × Bool}
    (course : Course Redelivered s queue calls ds) (first : ds.head? = some x₀)
    (fresh : x₀.1.headers.bind (·.get? deathHeader) = none) :
    (∀ k x c, ds[k]? = some x → (s.consumeAll queue calls ds)[k]? = some c →
        (s.handler.succeeds (calls + k) x.1.payload x.2 = true → c.outcome = .handled)
        ∧ (s.handler.succeeds (calls + k) x.1.payload x.2 = false → k < s.retries →
            c.outcome = .retry (.ofNat (s.retries - k)))
        ∧ (s.handler.succeeds (calls + k) x.1.payload x.2 = false → k = s.retries →
            c.outcome = .dropped (.ofNat (s.retries + 1)))
        ∧ c.built = if s.handler.reads x.1.payload then [calls + k] else [])
    ∧ ds.length ≤ s.retries + 1
    ∧ (∀ c, (s.consumeAll queue calls ds).getLast? = some c → c.outcome.isRetry = false →
        c.outcome = .handled
          ∧ (∀ k x, ds[k]? = some x →
              (s.handler.succeeds (calls + k) x.1.payload x.2 = true ↔ k + 1 = ds.length))
        ∨ c.outcome = .dropped (.ofNat (s.retries + 1)) ∧ ds.length = s.retries + 1
          ∧ ∀ k x, ds[k]? = some x → s.handler.succeeds (calls + k) x.1.payload x.2 = false)
    ∧ (∃ more c, Course Redelivered s queue calls (ds ++ more)
        ∧ (s.consumeAll queue calls (ds ++ more)).getLast? = some c
        ∧ c.outcome.isRetry = false)
    ∧ (s.source = .queue ∨ s.deadLetter = none → s.retries = 0 ∧ ds.length = 1) := by
  have deaths : Deaths 0 x₀.1.headers := .unrecorded fresh
  have bounded := course.length_le first deaths
  refine ⟨?_, bounded, fun c => course.ended first deaths,
    Course.exists_ended deaths _ course first (Nat.le_refl _), ?_⟩
  · intro k x c hx hc
    obtain ⟨c', hc', p⟩ := course.processing_of_fresh first deaths hx
    rw [hc] at hc'
    cases hc'
    have outcome := p.outcome_eq
    rw [Nat.zero_add] at outcome
    rw [p.payload_eq]
    refine ⟨?_, ?_, ?_, p.built_eq⟩
    · intro good
      rw [outcome, if_pos good]
    · intro failed hk
      rw [outcome, failed, if_neg Bool.false_ne_true, if_pos hk]
    · intro failed hk
      rw [outcome, failed, if_neg Bool.false_ne_true, if_neg (by omega), hk]
  · intro alone
    have none : s.retries = 0 := by
      unfold Subscription.retries Subscription.deadLetter
      rcases alone with queue | uncycled
      · rw [queue]
      · unfold Subscription.deadLetter at uncycled
        rw [uncycled]
    have nonempty : 0 < ds.length := by
      cases ds with
      | nil => cases first
      | cons x rest => exact Nat.succ_pos _
    rw [none] at bounded
    exact ⟨none, by omega⟩

/-- A subscription that grants two retries and fails every time. -/
def failingTwice : Subscription where
  name := "orders"
  maxParallelism := 1
  source := .exchange { deadLetter := some { maxRetryCount := 2 } }
  handler := .scripted ⟨"Note", fun _ => .ok .null⟩ [.fail "boom"]

/-- Its messages are processed three times and lost. -/
theorem course_of_failingTwice :
    ∃ d : Delivery, ∃ ds, ds = [(d, false), (d.recording 1, false), (d.recording 2, false)]
      ∧ Course Redelivered failingTwice "orders" 0 ds
      ∧ ds.head? = some (d, false) ∧ d.headers.bind (·.get? deathHeader) = none
      ∧ ds.length ≤ failingTwice.retries + 1
      ∧ ∀ c, (failingTwice.consumeAll "orders" 0 ds)[2]? = some c → c.outcome = .dropped 3 := by
  let d : Delivery := { tag := 0, payload := [] }
  have course : Course Redelivered failingTwice "orders" 0
      [(d, false), (d.recording 1, false), (d.recording 2, false)] :=
    .again rfl (redelivered_recording (.unrecorded rfl))
      (.again rfl (redelivered_recording (deaths_recording d 1)) (.once _ _))
  refine ⟨d, _, rfl, course, rfl, rfl, (course_bounded_by_retries course rfl rfl).2.1, ?_⟩
  intro c hc
  exact ((course_bounded_by_retries course rfl rfl).1 2 _ c rfl hc).2.2.1 rfl rfl

end Courier
