/-
Messages that died elsewhere before they came to a subscription. Attempts
are read from the entry of the last death, whatever queue it is of; so a
message that comes for the first time with entries of other queues is taken
to have been attempted as often as the newest of them counts. That lasts for
one processing: a message that goes round the cycle comes back with the
entry of the error queue in front, which counts the rounds of this cycle and
nothing else.

# The shape of the argument

One round changes two counts of the record, each by one, and puts the second
of them in front (`GoesRound.rounds`). So from the second delivery on, the
message comes back as from a broker that counts its retries only, and all
that Retries.lean says about such a course holds of the rest
(`Course.redelivered`). Two messages with the same payload differ there in
nothing that a processing looks at.
-/
import Courier.Delivery.Record
import Courier.Proofs.Delivery.Retries

namespace Courier

variable {s : Subscription} {c : Cycle} {queue reason main error : String} {calls : Nat}

-- ===================================================== statement vocabulary

/-- The earlier attempts are the deaths of the entry in front. -/
theorem earlierAttempts_eq (headers : Option Arguments) :
    earlierAttempts headers = ((deathRecord headers).head?.bind deathsOf?).getD 0 := by
  unfold earlierAttempts deathRecord
  cases headers with
  | none => rfl
  | some headers =>
      simp only [Option.bind_some, deathCount?]
      cases headers.get? deathHeader with
      | none => rfl
      | some value =>
          cases items : value.items? with
          | none => simp [items]
          | some record =>
              cases record with
              | nil => simp [items]
              | cons entry rest => simp [items, deathsOf?, FieldValue.field?, Option.bind_assoc]

/-- A record that is not empty is the value of the header. -/
theorem header_of_deathRecord {headers : Option Arguments} {entry : FieldValue}
    {others : List FieldValue} (record : deathRecord headers = entry :: others) :
    headers.bind (·.get? deathHeader) = some (.list (entry :: others)) := by
  unfold deathRecord at record
  cases found : headers.bind (·.get? deathHeader) with
  | none => simp [found] at record
  | some value =>
      rw [found] at record
      cases value with
      | list items => simpa [FieldValue.items?] using record
      | _ => simp [FieldValue.items?] at record

/-- A death is counted for its queue and its reason. -/
theorem Dies.deathsIn {before after : List FieldValue} (death : Dies queue reason before after) :
    deathsIn queue reason after = deathsIn queue reason before + 1 := by
  cases death with
  | counted own count =>
      unfold Courier.deathsIn
      rw [List.find?_cons_of_pos own]
      simp [deathsOf?, FieldValue.field?, FieldValue.entries?, FieldValue.count?, count,
        Courier.deathsIn]

/-- It leaves the deaths for another reason alone. -/
theorem Dies.deathsIn_of_ne {before after : List FieldValue} {queue' reason' : String}
    (death : Dies queue reason before after) (other : reason' ≠ reason) :
    Courier.deathsIn queue' reason' after = Courier.deathsIn queue' reason' before := by
  have apart : ∀ e, isDeath queue' reason' e = true → isDeath queue reason e = false := by
    intro e there
    cases here : isDeath queue reason e with
    | false => rfl
    | true =>
        simp only [isDeath, Bool.and_eq_true, beq_iff_eq] at there here
        exact absurd (Option.some.inj (there.2.symm.trans here.2)) other
  cases death with
  | @counted entry own count =>
      have passed : ¬ isDeath queue' reason' (.table entry) = true := by
        intro there
        rw [apart _ there] at own
        cases own
      unfold Courier.deathsIn
      rw [List.find?_cons_of_neg passed, List.find?_filter]
      congr 3
      funext e
      cases there : isDeath queue' reason' e with
      | false => simp
      | true => simp [apart e there]

/-- How often a message went round a cycle, by its record. -/
structure Rounds (main error : String) (k : Nat) (record : List FieldValue) : Prop where
  rejected : deathsIn main "rejected" record = .ofNat k
  expired : deathsIn error "expired" record = .ofNat k

/-- A round is counted for both queues, and the entry of the error queue is in
front after it. -/
theorem GoesRound.rounds {d d' : Delivery} {k : Nat} (round : GoesRound main error d d')
    (rounds : Rounds main error k (deathRecord d.headers)) :
    Rounds main error (k + 1) (deathRecord d'.headers) ∧ Deaths (k + 1) d'.headers := by
  obtain ⟨-, between, rejected, expired⟩ := round
  have waited : Courier.deathsIn error "expired" between = .ofNat k :=
    (rejected.deathsIn_of_ne (by decide)).trans rounds.expired
  have next : Int64.ofNat k + 1 = .ofNat (k + 1) := (Int64.ofNat_add k 1).symm
  refine ⟨⟨?_, ?_⟩, ?_⟩
  · rw [expired.deathsIn_of_ne (by decide), rejected.deathsIn, rounds.rejected, next]
  · rw [expired.deathsIn, waited, next]
  · generalize shown : deathRecord d'.headers = record at expired
    cases expired with
    | counted own count =>
        rw [waited, next] at count
        exact .counted (header_of_deathRecord shown) count

/-- A note that died that often in the queue of the returns. -/
def returned (deaths : Int64) : Delivery :=
  { tag := 0, payload := [] : Delivery }.withRecord [deathEntry "returns" "rejected" deaths]

end Courier
