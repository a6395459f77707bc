/-
The names that are derived from an exchange and the group that consumes it.
-/
namespace Courier.Topology

/-- The queue that a group consumes an exchange from. -/
def mainQueueName (group exchange : String) : String :=
  exchange ++ "_" ++ group ++ "_main_queue"

/-- The exchange that failed deliveries enter the cycle by. -/
def startExchangeName (group exchange : String) : String :=
  exchange ++ "_" ++ group ++ "_error_exchange_start"

/-- The exchange that delayed deliveries leave the cycle by. -/
def endExchangeName (group exchange : String) : String :=
  exchange ++ "_" ++ group ++ "_error_exchange_end"

/-- The queue that failed deliveries wait in. -/
def errorQueueName (group exchange : String) : String :=
  exchange ++ "_" ++ group ++ "_error_queue"

/-- Exchanges of one group have different main queues. -/
theorem mainQueueName_inj {group exchange exchange' : String} :
    mainQueueName group exchange = mainQueueName group exchange' ↔ exchange = exchange' := by
  unfold mainQueueName
  rw [String.append_left_inj, String.append_left_inj, String.append_left_inj]

/-- So they have different error queues. -/
theorem errorQueueName_inj {group exchange exchange' : String} :
    errorQueueName group exchange = errorQueueName group exchange' ↔ exchange = exchange' := by
  unfold errorQueueName
  rw [String.append_left_inj, String.append_left_inj, String.append_left_inj]

/-- Names that end differently differ. -/
theorem ne_of_ends {front front' ends ends' : String}
    (length : ends.toList.length = ends'.toList.length) (differ : ends.toList ≠ ends'.toList) :
    front ++ ends ≠ front' ++ ends' := by
  intro same
  have lists := congrArg String.toList same
  rw [String.toList_append, String.toList_append] at lists
  exact differ (List.append_inj_right' lists length)

/-- No main queue is an error queue: their last eleven characters differ. -/
theorem mainQueueName_ne_errorQueueName (group exchange group' exchange' : String) :
    mainQueueName group exchange ≠ errorQueueName group' exchange' := by
  have split : errorQueueName group' exchange'
      = exchange' ++ "_" ++ group' ++ "_" ++ "error_queue" := by
    have tail : "_error_queue" = "_" ++ "error_queue" := rfl
    unfold errorQueueName
    rw [tail, ← String.append_assoc]
  rw [split]
  exact ne_of_ends (by decide) (by decide)

/-- No exchange is the start of one cycle and the end of another. -/
theorem startExchangeName_ne_endExchangeName (group exchange group' exchange' : String) :
    startExchangeName group exchange ≠ endExchangeName group' exchange' := by
  have split : startExchangeName group exchange
      = exchange ++ "_" ++ group ++ "_e" ++ "rror_exchange_start" := by
    have tail : "_error_exchange_start" = "_e" ++ "rror_exchange_start" := rfl
    unfold startExchangeName
    rw [tail, ← String.append_assoc]
  rw [split]
  exact ne_of_ends (by decide) (by decide)

end Courier.Topology
