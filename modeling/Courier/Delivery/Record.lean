/-
The record of its deaths that a message carries in its headers, as a broker
keeps it: one entry for each queue it died in and each reason it died for,
with the number of these deaths; the entry of the last death is in front.

A message that goes round the cycle of a subscription dies twice: it is
rejected in the main queue and expires in the error queue. What else a
broker writes into an entry, and into the other headers, is left open.
-/
import Courier.Delivery.Course
import Courier.Topology.Broker

namespace Courier

-- =========================================================== the entries

/-- The queue in an entry of the death header. -/
def deathQueueKey : String := "queue"

/-- The reason in an entry of that header. -/
def deathReasonKey : String := "reason"

/-- The value under a key of a table. -/
def FieldValue.field? (entry : FieldValue) (key : String) : Option FieldValue :=
  entry.entries?.bind (KeyedList.get? key)

/-- The queue that an entry counts deaths in. -/
def deathQueue? (entry : FieldValue) : Option String :=
  (entry.field? deathQueueKey).bind (·.text?)

/-- The reason of the deaths that an entry counts. -/
def deathReason? (entry : FieldValue) : Option String :=
  (entry.field? deathReasonKey).bind (·.text?)

/-- The deaths that an entry counts. -/
def deathsOf? (entry : FieldValue) : Option Int64 :=
  (entry.field? deathCountKey).bind (·.count?)

/-- Whether an entry is the one of a queue and a reason. -/
def isDeath (queue reason : String) (entry : FieldValue) : Bool :=
  deathQueue? entry == some queue && deathReason? entry == some reason

/-- The entries in the headers of a message. -/
def deathRecord (headers : Option Arguments) : List FieldValue :=
  ((headers.bind (·.get? deathHeader)).bind (·.items?)).getD []

-- ============================================================ the deaths

/-- How often a message died in a queue for a reason, by its record. -/
def deathsIn (queue reason : String) (record : List FieldValue) : Int64 :=
  ((record.find? (isDeath queue reason)).bind deathsOf?).getD 0

/-- One more death in a queue for a reason: its entry counts one more and is
moved to the front. -/
inductive Dies (queue reason : String) (record : List FieldValue) : List FieldValue → Prop
  | counted {entry : List (String × FieldValue)} :
      isDeath queue reason (.table entry) = true →
      KeyedList.get? deathCountKey entry = some (.int64 (deathsIn queue reason record + 1)) →
      Dies queue reason record (.table entry :: record.filter fun e => !isDeath queue reason e)

/-- The same payload again, once it was rejected in the main queue of a cycle
and has expired in the error queue. -/
def GoesRound (main error : String) (d d' : Delivery) : Prop :=
  d'.payload = d.payload ∧ ∃ between, Dies main "rejected" (deathRecord d.headers) between
    ∧ Dies error "expired" between (deathRecord d'.headers)

/-- The entry of a death, with nothing else in it. -/
def deathEntry (queue reason : String) (deaths : Int64) : FieldValue :=
  .table [(deathCountKey, .int64 deaths), (deathQueueKey, .text queue),
    (deathReasonKey, .text reason)]

/-- A record with one more death. -/
def bury (queue reason : String) (record : List FieldValue) : List FieldValue :=
  deathEntry queue reason (deathsIn queue reason record + 1)
    :: record.filter fun e => !isDeath queue reason e

/-- The same delivery with that record. -/
def Delivery.withRecord (d : Delivery) (record : List FieldValue) : Delivery :=
  { d with headers := some ((d.headers.getD .empty).set deathHeader (.list record)) }

/-- The delivery once it went round a cycle. -/
def Delivery.round (d : Delivery) (main error : String) : Delivery :=
  d.withRecord (bury error "expired" (bury main "rejected" (deathRecord d.headers)))

end Courier
