/-
The delay of a cycle, and how long messages stay in its error queue.

These are not the same quantity. A delay is looked at to the nanosecond, that it
is some time at all, and in whole milliseconds, that they fit a signed word of
32 bits; the queue is declared with whole milliseconds in such a word. A number
that fits does not go round, so the word holds the delay rounded down. But some
time may be less than a millisecond, and rounded down that is none: messages
wait for a delay of a millisecond and more (`time_to_live_of_delay`), and not at
all for a shorter one, which is accepted as well (`no_time_to_live`).
-/
import Courier.Proofs.Topology.Redeclarations

namespace Courier

open Courier.Topology

-- ===================================================== statement vocabulary

/-- A span in milliseconds, rounded down. -/
def Span.RoundsDownTo (d : Span) (millis : Int) : Prop :=
  millis * nanosPerMilli ≤ d.nanoseconds ∧ (d.nanoseconds : Int) < (millis + 1) * nanosPerMilli

variable {c draft : Cycle}

-- =============================================================== the words

/-- A delay fits below 2^31 milliseconds. -/
theorem Span.millis_le_greatestDelay_iff (d : Span) :
    d.millis ≤ Cycle.greatestDelay ↔ d.nanoseconds < 0x80000000 * nanosPerMilli := by
  unfold Span.millis Cycle.greatestDelay nanosPerMilli
  omega

/-- Milliseconds that fit are the word they are put into. -/
theorem Cycle.toInt_millis (fits : c.delay.millis ≤ Cycle.greatestDelay) :
    (Int32.ofNat c.delay.millis).toInt = c.delay.millis := by
  unfold Cycle.greatestDelay at fits
  exact Int32.toInt_ofNat_of_lt (by omega)

theorem Span.roundsDownTo_millis (d : Span) : d.RoundsDownTo d.millis := by
  unfold Span.RoundsDownTo Span.millis nanosPerMilli
  omega

theorem Span.millis_pos_iff (d : Span) : 0 < d.millis ↔ nanosPerMilli ≤ d.nanoseconds := by
  unfold Span.millis nanosPerMilli
  omega

-- ========================================================== the main result

/-- The delays that are accepted are those of some time and below 2^31
milliseconds. Accepted with a retry, a delay is rounded down to the milliseconds
that the error queue is declared with, unless its override says how long
messages stay; and they stay for some time if the delay is a millisecond at
least, and only then. -/
theorem time_to_live_of_delay (draft : Cycle) :
    ((∃ c, draft.build = .ok c) ↔ (0 < draft.delay.nanoseconds
        ∧ draft.delay.nanoseconds < 0x80000000 * nanosPerMilli) ∧ draft.maxRetryCount ≠ 0)
      ∧ ∀ c, draft.build = .ok c → ∃ ttl : Int32,
        c.delay.RoundsDownTo ttl.toInt ∧ 0 ≤ ttl.toInt
          ∧ (0 < ttl.toInt ↔ nanosPerMilli ≤ c.delay.nanoseconds)
          ∧ ∀ (s : Subscription) o settings, (∃ draft : Subscription, draft.build = .ok s) →
            s.source = .exchange o → o.deadLetter = some c →
              (errorQueue settings.group s c).generated.get? messageTtlKey = some (.int32 ttl)
                ∧ (Plan.ofSubscription s settings).operations[3]?
                  = some (.declareQueue (errorQueue settings.group s c).declared)
                ∧ (errorQueue settings.group s c).declared.arguments.get? messageTtlKey
                  = (c.errorQueue.bind (·.arguments.get? messageTtlKey)).or
                    (some (.int32 ttl)) := by
  refine ⟨?_, fun c built => ?_⟩
  · rw [← draft.delay.millis_le_greatestDelay_iff, and_assoc]
    exact ⟨fun ⟨_, built⟩ => (Cycle.build_eq_ok_iff.1 built).1,
      fun accepted => ⟨_, Cycle.build_eq_ok_iff.2 ⟨accepted, rfl⟩⟩⟩
  have whole := Cycle.toInt_millis (Cycle.millis_le_of_build built)
  refine ⟨.ofNat c.delay.millis, ?_, ?_, ?_, fun s o settings drafted source cycle => ?_⟩
  · rw [whole]
    exact c.delay.roundsDownTo_millis
  · rw [whole]
    exact Int.natCast_nonneg _
  · rw [whole, ← c.delay.millis_pos_iff]
    exact Int.natCast_pos
  have generated : (errorQueue settings.group s c).generated.get? messageTtlKey
      = some (.int32 (.ofNat c.delay.millis)) := by
    rw [get?_generated_errorQueue, if_neg (by decide), if_pos rfl]
  refine ⟨generated, ?_, ?_⟩
  · rw [operations_of_cycle settings drafted source cycle]
    rfl
  · rw [QueueObject.get?_declared, generated]
    rfl

/-- A cycle with a delay of almost three milliseconds. -/
def hasty : Cycle where
  delay := .ofNanoseconds 2999999

/-- Its messages stay for two. -/
theorem time_to_live_of_hasty : hasty.build = .ok hasty
    ∧ (Plan.ofSubscription (parcels (some hasty)) ⟨"post", 1⟩).operations[3]?
      = some (.declareQueue (errorQueue "post" (parcels (some hasty)) hasty).declared)
    ∧ (errorQueue "post" (parcels (some hasty)) hasty).declared.arguments.get? messageTtlKey
      = some (.int32 2)
    ∧ hasty.delay.RoundsDownTo 2 := by
  have built : hasty.build = .ok hasty := rfl
  obtain ⟨ttl, rounds, -, -, plans⟩ := (time_to_live_of_delay hasty).2 hasty built
  obtain ⟨generated, declared, argument⟩ :=
    plans (parcels (some hasty)) _ ⟨"post", 1⟩ (isBuilt_parcels _ fun c same =>
      ⟨hasty, by cases same; rfl⟩).draft rfl rfl
  have two : (errorQueue "post" (parcels (some hasty)) hasty).generated.get? messageTtlKey
      = some (.int32 2) := rfl
  rw [two] at generated
  cases generated
  exact ⟨built, declared, argument, rounds⟩

/-- A cycle with a delay of half a millisecond. -/
def blink : Cycle where
  delay := .ofNanoseconds 500000

/-- It is accepted, and its messages do not wait. -/
theorem no_time_to_live : blink.build = .ok blink ∧ 0 < blink.delay.nanoseconds
    ∧ IsBuilt (parcels (some blink))
    ∧ (Plan.ofSubscription (parcels (some blink)) ⟨"post", 1⟩).operations[3]?
      = some (.declareQueue (errorQueue "post" (parcels (some blink)) blink).declared)
    ∧ (errorQueue "post" (parcels (some blink)) blink).declared.arguments.get? messageTtlKey
      = some (.int32 0)
    ∧ ¬ 0 < (0 : Int32).toInt := by
  refine ⟨rfl, by decide, isBuilt_parcels _ fun c same => ⟨blink, by cases same; rfl⟩, rfl, rfl, ?_⟩
  decide

end Courier
