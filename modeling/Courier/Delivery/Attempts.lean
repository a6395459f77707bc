/-
How often a delivery was attempted before. A broker that sends a message
round a dead-letter cycle records it in a header of the message: a list of
tables, newest first, each with a count. The count of the first table is
the number of attempts; a message without that record, or with one of
another form, was not attempted yet.
-/
import Courier.Arguments

namespace Courier

/-- The header that records dead-lettering. -/
def deathHeader : String := "x-death"

/-- The count in an entry of that header. -/
def deathCountKey : String := "count"

/-- The count of the first entry of the death header. -/
def deathCount? (headers : Arguments) : Option Int64 := do
  let deaths ← (← headers.get? deathHeader).items?
  let death ← (← deaths.head?).entries?
  (← KeyedList.get? deathCountKey death).count?

/-- The number of attempts that the headers of a delivery record. -/
def earlierAttempts (headers : Option Arguments) : Int64 :=
  (headers.bind deathCount?).getD 0

end Courier
