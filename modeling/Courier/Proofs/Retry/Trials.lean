/-
How many attempts are made, and what stands between them.

An attempt that is made again is a round: the attempt, what is logged of it,
and the wait. A trial is some rounds and a last attempt, which is the first
one that is not to be made again, or the one after which the limit is
reached (`Persistence.exists_lasts`). The count of the attempts that were made
again is a word of 32 bits; it is compared before it is raised, so it never
goes round and is the number of the attempt all along. What the limit
exceeds it by is what a log shows of the attempts left.
-/
import Mathlib.Data.List.Basic
import Courier.Retry

namespace Courier

-- ===================================================== statement vocabulary

/-- What was done, without what was logged of it. -/
def Trial.doings {α : Type} (t : Trial α) : List TrialStep := t.steps.filter (!·.isLog)

/-- The number of attempts left that an event shows. -/
def LogEvent.attemptsLeft? (e : LogEvent) : Option LogValue :=
  KeyedList.get? "attempts_left" e.values

/-- An attempt found the broker out of reach. -/
def IsUnreachable {α : Type} (result : Except Failure α) : Prop :=
  ∃ reason, result = .error (.brokerUnreachable reason)

namespace Persistence

variable {α : Type}

/-- What is logged of a result after which the attempt is made again. -/
def repeated? (r : Persistence α) (retried : UInt32) : Except Failure α → Option LogEvent
  | .ok _ => none
  | .error f => (r.again f).map (· retried)

/-- The attempt is made again after such a result. -/
def Repeats (r : Persistence α) (result : Except Failure α) : Prop :=
  ∃ f, result = .error f ∧ (r.again f).isSome

/-- Attempt number `k`, when it is made again. -/
def round (r : Persistence α) (attempt : Nat → Except Failure α) (k : Nat) : List TrialStep :=
  .attempt k :: (r.repeated? (.ofNat k) (attempt k)).toList.map .log ++ [.wait r.wait]

/-- From attempt number `k` on, `last` is the last one. -/
structure Lasts (r : Persistence α) (attempt : Nat → Except Failure α) (k last : Nat)
    (t : Trial α) : Prop where
  from_le : k ≤ last
  le_limit : last ≤ r.limit.toNat
  repeats : ∀ j, k ≤ j → j < last → r.Repeats (attempt j)
  stops : last < r.limit.toNat → ¬ r.Repeats (attempt last)
  result : t.result = attempt last
  steps : t.steps = (List.range' k (last - k)).flatMap (r.round attempt)
    ++ .attempt last :: (r.ended (attempt last)).map .log

variable {r : Persistence α} {attempt : Nat → Except Failure α} {k last : Nat} {t : Trial α}

/-- The numbers up to the limit fit its word. -/
theorem toNat_ofNat_of_le {limit : UInt32} (within : k ≤ limit.toNat) :
    (UInt32.ofNat k).toNat = k :=
  UInt32.toNat_ofNat_of_lt' (Nat.lt_of_le_of_lt within limit.toNat_lt_size)

/-- The last attempt that is made. -/
theorem lasts_last (within : k ≤ r.limit.toNat)
    (stops : k < r.limit.toNat → ¬ r.Repeats (attempt k)) :
    r.Lasts attempt k k (.last k (attempt k) (r.ended (attempt k))) where
  from_le := Nat.le_refl k
  le_limit := within
  repeats j after before := absurd after (Nat.not_le_of_lt before)
  stops := stops
  result := rfl
  steps := by
    rw [Nat.sub_self]
    rfl

/-- A round in front of the others. -/
theorem Lasts.again {f : Failure} {event : UInt32 → LogEvent} (failed : attempt k = .error f)
    (logged : r.again f = some event) (rest : r.Lasts attempt (k + 1) last t) :
    r.Lasts attempt k last (.again k (event (.ofNat k)) r.wait t) where
  from_le := Nat.le_of_succ_le rest.from_le
  le_limit := rest.le_limit
  repeats j after before := by
    by_cases first : j = k
    · subst first
      exact ⟨f, failed, by rw [logged]; rfl⟩
    · exact rest.repeats j (by omega) before
  stops := rest.stops
  result := rest.result
  steps := by
    have round : r.round attempt k
        = [.attempt k, .log (event (.ofNat k)), .wait r.wait] := by
      simp [Persistence.round, repeated?, failed, logged]
    have split : last - k = last - (k + 1) + 1 := by
      have := rest.from_le
      omega
    rw [split, List.range'_succ, List.flatMap_cons, round, List.append_assoc, ← rest.steps]
    rfl

/-- The count is the number of the attempt, so it tells when the limit is
reached. -/
theorem lasts_goOn (r : Persistence α) (attempt : Nat → Except Failure α) (k : Nat)
    (retried : UInt32) (counted : retried.toNat = k) (within : k ≤ r.limit.toNat) :
    ∃ last, r.Lasts attempt k last (r.goOn attempt k retried) := by
  fun_induction goOn r attempt k retried with
  | case1 k retried a done =>
      rw [← done]
      refine ⟨k, lasts_last within fun _ => ?_⟩
      rintro ⟨f, failed, -⟩
      rw [done] at failed
      cases failed
  | case2 k retried f failed unlogged =>
      rw [← failed]
      refine ⟨k, lasts_last within fun _ => ?_⟩
      rintro ⟨f', failed', logged⟩
      rw [failed] at failed'
      cases failed'
      rw [unlogged] at logged
      cases logged
  | case3 k retried f failed event logged below ih =>
      have next : (retried + 1).toNat = k + 1 := by
        rw [toNat_succ_of_lt below, counted]
      have room : k + 1 ≤ r.limit.toNat := by
        rw [UInt32.lt_iff_toNat_lt] at below
        omega
      obtain ⟨last, rest⟩ := ih next room
      have same : retried = .ofNat k := by
        rw [← counted, UInt32.ofNat_toNat]
      refine ⟨last, ?_⟩
      rw [same] at rest ⊢
      exact rest.again failed logged
  | case4 k retried f failed event logged reached =>
      rw [← failed]
      refine ⟨k, lasts_last within fun below => ?_⟩
      rw [UInt32.lt_iff_toNat_lt] at reached
      omega

/-- A trial is some rounds and a last attempt. -/
theorem exists_lasts (r : Persistence α) (attempt : Nat → Except Failure α) :
    ∃ last, r.Lasts attempt 0 last (r.trial attempt) :=
  r.lasts_goOn attempt 0 0 rfl (Nat.zero_le _)

-- =========================================================== what is seen

/-- Between two attempts there is a wait, and none after the last. -/
theorem Lasts.doings (lasts : r.Lasts attempt 0 last t) :
    t.doings = (List.range last).flatMap (fun k => [.attempt k, .wait r.wait])
      ++ [.attempt last] := by
  have round : ∀ k, (r.round attempt k).filter (!·.isLog) = [.attempt k, .wait r.wait] := by
    intro k
    unfold Persistence.round
    cases r.repeated? (.ofNat k) (attempt k) <;> rfl
  have unlogged : ∀ logs : List LogEvent, (logs.map TrialStep.log).filter (!·.isLog) = [] := by
    intro logs
    simp [TrialStep.isLog]
  rw [Trial.doings, lasts.steps, Nat.sub_zero, ← List.range_eq_range', List.filter_append,
    List.filter_flatMap, List.filter_cons_of_pos rfl, unlogged]
  simp only [round]

/-- There is one attempt more than there are rounds. -/
theorem Lasts.attempts (lasts : r.Lasts attempt 0 last t) : t.attempts = last + 1 := by
  have round : ∀ k, (r.round attempt k).countP (·.isAttempt) = 1 := by
    intro k
    unfold Persistence.round
    cases r.repeated? (.ofNat k) (attempt k) <;> rfl
  have unlogged : ∀ logs : List LogEvent, (logs.map TrialStep.log).countP (·.isAttempt) = 0 := by
    intro logs
    simp [TrialStep.isAttempt]
  rw [Trial.attempts, lasts.steps, Nat.sub_zero, List.countP_append, List.countP_flatMap,
    List.countP_cons_of_pos rfl, unlogged]
  simp [Function.comp_def, round, List.map_const']

/-- What is logged: an event for each round, and what comes at the end. -/
theorem Lasts.logs (lasts : r.Lasts attempt 0 last t) :
    t.logs = (List.range last).filterMap (fun k => r.repeated? (.ofNat k) (attempt k))
      ++ r.ended (attempt last) := by
  have round : ∀ k, (r.round attempt k).filterMap (·.log?)
      = (r.repeated? (.ofNat k) (attempt k)).toList := by
    intro k
    unfold Persistence.round
    cases r.repeated? (.ofNat k) (attempt k) <;> rfl
  have logged : ∀ logs : List LogEvent, (logs.map TrialStep.log).filterMap (·.log?) = logs := by
    intro logs
    rw [List.filterMap_map]
    exact List.filterMap_some
  rw [Trial.logs, lasts.steps, Nat.sub_zero, ← List.range_eq_range', List.filterMap_append,
    List.filterMap_flatMap, List.filterMap_cons_none rfl, logged, List.filterMap_eq_flatMap_toList]
  simp only [round]

end Persistence

-- ========================================================== the main result

section Connecting

variable {α : Type} {instanceName : String} {c : Settings.Connection}
  {result : Except Failure α}

/-- Connecting is tried again where the broker is out of reach, and only there. -/
theorem reconnecting_repeats_iff :
    (reconnecting α instanceName c).Repeats result ↔ IsUnreachable result := by
  constructor
  · rintro ⟨f, rfl, again⟩
    cases f with
    | brokerUnreachable reason => exact ⟨reason, rfl⟩
    | _ => cases again
  · rintro ⟨reason, rfl⟩
    exact ⟨_, rfl, rfl⟩

/-- The attempts left that are logged of an attempt to connect. -/
theorem attemptsLeft?_repeated {retried : UInt32} (within : retried ≤ c.maxReconnectCount)
    (unreachable : IsUnreachable result) :
    ((reconnecting α instanceName c).repeated? retried result).bind (·.attemptsLeft?)
      = some (.number (c.maxReconnectCount.toNat - retried.toNat)) := by
  obtain ⟨reason, rfl⟩ := unreachable
  have left : (c.maxReconnectCount - retried).toNat
      = c.maxReconnectCount.toNat - retried.toNat := UInt32.toNat_sub_of_le _ _ within
  have below : retried.toNat ≤ c.maxReconnectCount.toNat := UInt32.le_iff_toNat_le.1 within
  show some (LogValue.number ((c.maxReconnectCount - retried).toNat : Int)) = _
  rw [left, Int.ofNat_sub below]

theorem attemptsLeft?_ended :
    ((reconnecting α instanceName c).ended result).filterMap (·.attemptsLeft?) = [] := by
  cases result with
  | ok a => rfl
  | error f => cases f <;> rfl

end Connecting

/-- Connecting is tried until an attempt does not find the broker out of reach,
and no more often than once and the granted number of times again; the result is
that of the last attempt. There is a wait between two attempts, and none after
the last, and the attempts left that are logged count down from all that are
granted. -/
theorem connects_within_attempts {α : Type} (instanceName : String) (c : Settings.Connection)
    (attempt : Nat → Except Failure α) :
    ∃ last, last ≤ c.maxReconnectCount.toNat
      ∧ (∀ k < last, IsUnreachable (attempt k))
      ∧ (last < c.maxReconnectCount.toNat → ¬ IsUnreachable (attempt last))
      ∧ (connectTrial instanceName c attempt).attempts = last + 1
      ∧ (connectTrial instanceName c attempt).result = attempt last
      ∧ (connectTrial instanceName c attempt).doings
        = (List.range last).flatMap (fun k => [.attempt k, .wait c.retryTimeout])
          ++ [.attempt last]
      ∧ (connectTrial instanceName c attempt).logs.filterMap (·.attemptsLeft?)
        = (List.range last).map fun k => .number (c.maxReconnectCount.toNat - k) := by
  obtain ⟨last, lasts⟩ := (reconnecting α instanceName c).exists_lasts attempt
  have within : last ≤ c.maxReconnectCount.toNat := lasts.le_limit
  have unreachable : ∀ k < last, IsUnreachable (attempt k) :=
    fun k before => reconnecting_repeats_iff.1 (lasts.repeats k (Nat.zero_le k) before)
  refine ⟨last, within, unreachable, ?_, lasts.attempts, lasts.result, lasts.doings, ?_⟩
  · intro more
    rw [← reconnecting_repeats_iff]
    exact lasts.stops more
  · rw [connectTrial, lasts.logs, List.filterMap_append, attemptsLeft?_ended, List.append_nil,
      List.filterMap_filterMap, ← List.filterMap_eq_map]
    apply List.filterMap_congr
    intro k member
    have before : k < last := List.mem_range.1 member
    have room : k ≤ c.maxReconnectCount.toNat := by omega
    have fits := Persistence.toNat_ofNat_of_le room
    have granted : UInt32.ofNat k ≤ c.maxReconnectCount := by
      rw [UInt32.le_iff_toNat_le, fits]
      exact room
    rw [attemptsLeft?_repeated granted (unreachable k before), fits]
    rfl

end Courier
