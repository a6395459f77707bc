/-
What the moves of a relay do to its intakes, read off once (`intakes_step`):
one reader goes on, all tokens are cancelled, or a startup pass does its next
job. No other move concerns them.
-/
import Courier.Proofs.Intake.Permits
import Courier.Proofs.Relay.Moves

namespace Courier

namespace Relay

variable {b : Blueprint} {r r' : Relay} {k : Nat} {m : RelayMove}

-- ======================================================== what moves do

/-- The intake of an instance as it begins. -/
def newIntake (r : Relay) (i : Instance) : Intake where
  permits := i.dispatchConcurrency.toNat
  cancelled := r.cancelled

/-- Start `k` is done with the job `j` of its pass. -/
structure Did (r r' : Relay) (k : Nat) (j : Job) (rest : List Job) (n : Nat) : Prop where
  before : r.starts[k]? = some (.passing (j :: rest) n)
  starts : r'.starts = r.starts.set k (.passing rest (n + listenersOf j))

/-- What a move does to the intakes of a relay. -/
inductive IntakesTurn (r r' : Relay) : Prop where
  | same : r'.intakes = r.intakes → r'.cancelled = r.cancelled → IntakesTurn r r'
  | passed {name : String} {t t' : Intake} {m : IntakeMove} {n : Nat} {q q' : Reader} :
    KeyedList.get? name r.intakes = some t → t.step? m = some t' → Intake.Passed t t' n q q' →
    r'.intakes = KeyedList.put name t' r.intakes → r'.cancelled = r.cancelled → IntakesTurn r r'
  | cancels : r'.intakes = r.intakes.map (fun (name, t) => (name, t.cancel)) →
    r'.cancelled = true → IntakesTurn r r'
  | connects {k n : Nat} {i : Instance} {rest : List Job} : Did r r' k ⟨i, .connect⟩ rest n →
    r'.intakes = KeyedList.put i.name (r.newIntake i) r.intakes →
    r'.cancelled = r.cancelled → IntakesTurn r r'
  | begins {k n p : Nat} {i : Instance} {rest : List Job} {s : Subscription} {queue : String}
      {t : Intake} : Did r r' k ⟨i, .consume p s queue⟩ rest n →
    KeyedList.get? i.name r.intakes = some t →
    r'.intakes = KeyedList.put i.name (t.consume s queue) r.intakes →
    r'.cancelled = r.cancelled → IntakesTurn r r'

/-- A job that is done begins an intake, begins a reader in one, or is no concern of
them. -/
theorem intakes_jobDone (step : r.jobDone k = some r') : IntakesTurn r r' := by
  unfold jobDone at step
  obtain ⟨φ, before, step⟩ := Option.bind_eq_some_iff.1 step
  split at step
  next j rest n =>
    cases step
    obtain ⟨i, task⟩ := j
    cases task with
    | connect => exact .connects ⟨before, rfl⟩ rfl rfl
    | declare p s plan => exact .same rfl rfl
    | consume p s queue =>
        simp only [perform]
        split
        next t found => exact .begins ⟨before, rfl⟩ found rfl rfl
        next => exact .same rfl rfl
  next => cases step

/-- What happens to the listeners of an instance is the move of one reader of its
intake: the other moves of an intake are kept for the relay. -/
theorem intakes_consume {name : String} {m : IntakeMove} (step : r.consume name m = some r') :
    IntakesTurn r r' := by
  unfold consume at step
  cases m with
  | limit prefetch => cases step
  | register s queue => cases step
  | cancel => cases step
  | listen n m =>
      obtain ⟨t, found, step⟩ := Option.bind_eq_some_iff.1 step
      obtain ⟨t', moved, step⟩ := Option.bind_eq_some_iff.1 step
      cases step
      obtain ⟨q, q', passed⟩ := Intake.passed_listen moved
      exact .passed found moved passed rfl rfl
  | assign n =>
      obtain ⟨t, found, step⟩ := Option.bind_eq_some_iff.1 step
      obtain ⟨t', moved, step⟩ := Option.bind_eq_some_iff.1 step
      cases step
      obtain ⟨q, q', passed⟩ := Intake.passed_assign moved
      exact .passed found moved passed rfl rfl
  | work n k =>
      obtain ⟨t, found, step⟩ := Option.bind_eq_some_iff.1 step
      obtain ⟨t', moved, step⟩ := Option.bind_eq_some_iff.1 step
      cases step
      obtain ⟨q, q', passed⟩ := Intake.passed_work moved
      exact .passed found moved passed rfl rfl

/-- A shutdown concerns the intakes once, when it cancels the tokens. -/
theorem intakes_advanceShutdown (step : r.advanceShutdown k = some r') : IntakesTurn r r' := by
  unfold advanceShutdown at step
  obtain ⟨φ, -, step⟩ := Option.bind_eq_some_iff.1 step
  split at step
  · split at step
    · cases step
      exact .same rfl rfl
    · cases step
      exact .same rfl rfl
  · cases step
    exact .cancels rfl rfl
  · split at step
    · cases step
      exact .same rfl rfl
    · cases step
  · cases step
    exact .same rfl rfl
  · cases step
    exact .same rfl rfl
  · obtain ⟨result, -, step⟩ := Option.bind_eq_some_iff.1 step
    cases step
    exact .same rfl rfl
  · cases step
  · cases step

/-- A start that goes on by itself leaves the intakes alone; only its jobs begin
any. -/
theorem intakes_advanceStart (step : r.advanceStart k = some r') : IntakesTurn r r' := by
  unfold advanceStart at step
  obtain ⟨φ, -, step⟩ := Option.bind_eq_some_iff.1 step
  split at step
  · cases step
    exact .same rfl rfl
  · split at step
    · cases step
      exact .same rfl rfl
    · cases step
      exact .same rfl rfl
  · cases step
    exact .same rfl rfl
  · cases step
    exact .same rfl rfl
  · cases step
  · cases step
  · cases step

theorem intakes_publish {m : PublisherMove} (step : r.publish m = some r') : IntakesTurn r r' := by
  unfold publish at step
  cases m with
  | fire => cases step
  | close name => cases step
  | _ =>
      obtain ⟨p, -, step⟩ := Option.bind_eq_some_iff.1 step
      cases step
      exact .same rfl rfl

theorem intakes_connect {m : ConnectionMove} (step : r.connect m = some r') : IntakesTurn r r' := by
  unfold connect at step
  cases m with
  | dispose => cases step
  | _ =>
      obtain ⟨cs, -, step⟩ := Option.bind_eq_some_iff.1 step
      cases step
      exact .same rfl rfl

/-- One reader goes on, or all tokens are cancelled, or a pass does its next
job; nothing else happens to the intakes of a relay. -/
theorem intakes_step (step : r.step? m = some r') : IntakesTurn r r' := by
  cases m with
  | start =>
      cases step
      exact .same rfl rfl
  | advanceStart k => exact intakes_advanceStart step
  | jobDone k => exact intakes_jobDone step
  | jobFailed k f =>
      obtain ⟨φ, -, step⟩ := Option.bind_eq_some_iff.1 step
      split at step
      · cases step
        exact .same rfl rfl
      · cases step
  | dropStart k =>
      obtain ⟨φ, -, step⟩ := Option.bind_eq_some_iff.1 step
      split at step
      · cases step
      · cases step
      · cases step
        exact .same rfl rfl
  | shutdown =>
      cases step
      exact .same rfl rfl
  | advanceShutdown k => exact intakes_advanceShutdown step
  | dropShutdown k =>
      obtain ⟨φ, -, step⟩ := Option.bind_eq_some_iff.1 step
      split at step
      · cases step
      · cases step
      · cases step
        exact .same rfl rfl
  | cancelToken =>
      cases step
      exact .cancels rfl rfl
  | publish m => exact intakes_publish step
  | connect m => exact intakes_connect step
  | consume name m => exact intakes_consume step

end Relay

end Courier
