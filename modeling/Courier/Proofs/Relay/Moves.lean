/-
What the moves of a relay do, read off once. Later files look at three
things: how far each start is, what happens to the publisher, and the flags
that say that the relay was started or shut down.

- A move is the turn of one start (`Passed`), adds a start, or is no concern
  of the starts (`Aside`): `step_cases`.
- The publisher makes one of its own moves, or none (`publisher_step`). The
  signal fires in one place only, at the end of a startup pass: every other
  move leaves it as it was (`Aside.ready`).
- The instances never change (`instances_step`), and the signal is never taken
  back (`ready_step`).
-/
import Mathlib.Logic.Relation
import Courier.Proofs.Publisher.Links
import Courier.Relay

namespace Courier

/-- Whether a start has ended, in whatever way. -/
def StartPhase.isOver : StartPhase → Bool
  | finished _ | dropped => true
  | _ => false

/-- Start `k` goes on. -/
inductive StartTurn (r : Relay) (k : Nat) : RelayMove → StartPhase → StartPhase → Prop where
  | enters : r.disposed = false → StartTurn r k (.advanceStart k) .entering .claiming
  | late : r.disposed = true →
    StartTurn r k (.advanceStart k) .entering (.finished (.error .alreadyDisposed))
  | claims : r.started = false →
    StartTurn r k (.advanceStart k) .claiming (.passing (Job.all r.instances) 0)
  | second : r.started = true →
    StartTurn r k (.advanceStart k) .claiming (.finished (.error Relay.startedTwice))
  | fires {n : Nat} : StartTurn r k (.advanceStart k) (.passing [] n) (.reporting n)
  | reports {n : Nat} : StartTurn r k (.advanceStart k) (.reporting n) (.finished (.ok n))
  | does {j : Job} {rest : List Job} {n : Nat} :
    StartTurn r k (.jobDone k) (.passing (j :: rest) n)
      (.passing rest (n + Relay.listenersOf j))
  | fails {j : Job} {rest : List Job} {n : Nat} {f : Failure} :
    StartTurn r k (.jobFailed k f) (.passing (j :: rest) n)
      (.passing (rest.filter fun other => !other.buildsOn j) n)
  | drops {φ : StartPhase} : φ.isOver = false → StartTurn r k (.dropStart k) φ .dropped

namespace Relay

variable {r r' : Relay} {k : Nat} {m : RelayMove}

-- ========================================================= the starts

/-- What a move of start `k` leaves of the relay. -/
structure Passed (r r' : Relay) (k : Nat) (m : RelayMove) (φ φ' : StartPhase) : Prop where
  before : r.starts[k]? = some φ
  turn : StartTurn r k m φ φ'
  starts : r'.starts = r.starts.set k φ'
  instances : r'.instances = r.instances
  disposed : r'.disposed = r.disposed
  started : r'.started = (r.started || (φ matches .claiming) && (φ' matches .passing _ _))
  publisher : r'.publisher = if φ' matches .reporting _
    then { r.publisher with ready := true } else r.publisher
  shutdowns : r'.shutdowns = r.shutdowns
  connections : r'.connections = r.connections
  cancelled : r'.cancelled = r.cancelled

/-- A start that goes on by itself makes its turn, one case for each of its phases. -/
theorem passed_advanceStart (step : r.advanceStart k = some r') :
    ∃ φ φ', Passed r r' k (.advanceStart k) φ φ' := by
  unfold advanceStart at step
  obtain ⟨φ, before, step⟩ := Option.bind_eq_some_iff.1 step
  cases φ with
  | entering =>
      simp only [Option.some.injEq] at step
      subst step
      cases shut : r.disposed with
      | true =>
          exact ⟨_, _, before, .late shut, rfl, rfl, rfl, by simp [setStart], rfl, rfl, rfl, rfl⟩
      | false =>
          exact ⟨_, _, before, .enters shut, rfl, rfl, rfl, by simp [setStart], rfl, rfl, rfl, rfl⟩
  | claiming =>
      simp only at step
      split at step
      next begun =>
        cases step
        exact ⟨_, _, before, .second begun, rfl, rfl, rfl, by simp [setStart, begun], rfl,
          rfl, rfl, rfl⟩
      next fresh =>
        cases step
        exact ⟨_, _, before, .claims (by simpa using fresh), rfl, rfl, rfl,
          by simp [setStart], rfl, rfl, rfl, rfl⟩
  | passing jobs n =>
      cases jobs with
      | nil =>
          cases step
          exact ⟨_, _, before, .fires, rfl, rfl, rfl, by simp [setStart], rfl, rfl, rfl, rfl⟩
      | cons j rest => cases step
  | reporting n =>
      cases step
      exact ⟨_, _, before, .reports, rfl, rfl, rfl, by simp [setStart], rfl, rfl, rfl, rfl⟩
  | finished result => cases step
  | dropped => cases step

/-- A job leaves a relay with other intakes. -/
theorem perform_eq (r : Relay) (j : Job) :
    ∃ intakes, r.perform j = { r with intakes := intakes } := by
  unfold perform setIntake
  split
  · exact ⟨_, rfl⟩
  · exact ⟨r.intakes, rfl⟩
  · split <;> exact ⟨_, rfl⟩

/-- A job that is done leaves the other jobs ahead of the start. -/
theorem passed_jobDone (step : r.jobDone k = some r') :
    ∃ φ φ', Passed r r' k (.jobDone k) φ φ' := by
  unfold jobDone at step
  obtain ⟨φ, before, step⟩ := Option.bind_eq_some_iff.1 step
  split at step
  next j rest n =>
    cases step
    obtain ⟨intakes, same⟩ := perform_eq r j
    rw [same]
    exact ⟨_, _, before, .does, rfl, rfl, rfl, by simp [setStart], rfl, rfl, rfl, rfl⟩
  next => cases step

/-- A job that failed takes along those that build on it. -/
theorem passed_jobFailed {f : Failure} (step : r.jobFailed k = some r') :
    ∃ φ φ', Passed r r' k (.jobFailed k f) φ φ' := by
  unfold jobFailed at step
  obtain ⟨φ, before, step⟩ := Option.bind_eq_some_iff.1 step
  split at step
  next j rest n =>
    cases step
    exact ⟨_, _, before, .fails, rfl, rfl, rfl, by simp [setStart], rfl, rfl, rfl, rfl⟩
  next => cases step

theorem passed_dropStart (step : r.dropStart k = some r') :
    ∃ φ φ', Passed r r' k (.dropStart k) φ φ' := by
  unfold dropStart at step
  obtain ⟨φ, before, step⟩ := Option.bind_eq_some_iff.1 step
  cases φ with
  | finished result => cases step
  | dropped => cases step
  | _ =>
      cases step
      exact ⟨_, _, before, .drops rfl, rfl, rfl, rfl, by simp [setStart], rfl, rfl, rfl, rfl⟩

-- ===================================================== everything else

/-- A move that lets all starts be where they are. -/
structure Aside (r r' : Relay) : Prop where
  instances : r'.instances = r.instances
  started : r'.started = r.started
  disposed : r.disposed = true → r'.disposed = true
  publisher : r'.publisher = r.publisher
    ∨ ∃ m, m ≠ .fire ∧ r.publisher.step? m = some r'.publisher

/-- What happens to the publisher is no concern of the starts, and does not fire the
signal. -/
theorem aside_publish {m : PublisherMove} (step : r.publish m = some r') :
    Aside r r' ∧ r'.starts = r.starts := by
  unfold publish at step
  cases m with
  | fire => cases step
  | close name => cases step
  | _ =>
      obtain ⟨p, moved, step⟩ := Option.bind_eq_some_iff.1 step
      cases step
      refine ⟨⟨rfl, rfl, id, .inr ⟨_, ?_, moved⟩⟩, rfl⟩
      nofun

theorem aside_connect {m : ConnectionMove} (step : r.connect m = some r') :
    Aside r r' ∧ r'.starts = r.starts := by
  unfold connect at step
  cases m with
  | dispose => cases step
  | _ =>
      obtain ⟨cs, -, step⟩ := Option.bind_eq_some_iff.1 step
      cases step
      exact ⟨⟨rfl, rfl, id, .inl rfl⟩, rfl⟩

/-- What happens to listeners is no concern of the starts either. -/
theorem aside_consume {name : String} {m : IntakeMove} (step : r.consume name m = some r') :
    Aside r r' ∧ r'.starts = r.starts := by
  unfold consume at step
  cases m with
  | limit prefetch => cases step
  | register s queue => cases step
  | cancel => cases step
  | _ =>
      obtain ⟨t, -, step⟩ := Option.bind_eq_some_iff.1 step
      obtain ⟨t', -, step⟩ := Option.bind_eq_some_iff.1 step
      cases step
      exact ⟨⟨rfl, rfl, id, .inl rfl⟩, rfl⟩

/-- Nor is a shutdown; of the publisher it only closes pools. -/
theorem aside_advanceShutdown (step : r.advanceShutdown k = some r') :
    Aside r r' ∧ r'.starts = r.starts := by
  unfold advanceShutdown at step
  obtain ⟨φ, -, step⟩ := Option.bind_eq_some_iff.1 step
  split at step
  · split at step
    · cases step
      exact ⟨⟨rfl, rfl, id, .inl rfl⟩, rfl⟩
    · cases step
      exact ⟨⟨rfl, rfl, fun _ => rfl, .inl rfl⟩, rfl⟩
  · cases step
    exact ⟨⟨rfl, rfl, id, .inl rfl⟩, rfl⟩
  · split at step
    · cases step
      exact ⟨⟨rfl, rfl, id, .inl rfl⟩, rfl⟩
    · cases step
  next name rest =>
    cases step
    refine ⟨⟨rfl, rfl, id, ?_⟩, rfl⟩
    cases closed : r.publisher.step? (.close name) with
    | none =>
        left
        show (r.publisher.step? (.close name)).getD r.publisher = r.publisher
        rw [closed]
        rfl
    | some p =>
        right
        refine ⟨.close name, nofun, ?_⟩
        show _ = some ((r.publisher.step? (.close name)).getD r.publisher)
        rw [closed]
        rfl
  · cases step
    exact ⟨⟨rfl, rfl, id, .inl rfl⟩, rfl⟩
  · obtain ⟨result, -, step⟩ := Option.bind_eq_some_iff.1 step
    cases step
    exact ⟨⟨rfl, rfl, id, .inl rfl⟩, rfl⟩
  · cases step
  · cases step

theorem aside_dropShutdown (step : r.dropShutdown k = some r') :
    Aside r r' ∧ r'.starts = r.starts := by
  unfold dropShutdown at step
  obtain ⟨φ, -, step⟩ := Option.bind_eq_some_iff.1 step
  split at step
  · cases step
  · cases step
  · cases step
    exact ⟨⟨rfl, rfl, id, .inl rfl⟩, rfl⟩

/-- A move is the turn of a start, or a new start, or no concern of the
starts. -/
theorem step_cases (step : r.step? m = some r') :
    (∃ k φ φ', Passed r r' k m φ φ')
      ∨ Aside r r' ∧ (r'.starts = r.starts ∨ m = .start ∧ r'.starts = r.starts ++ [.entering]) := by
  have aside : Aside r r' ∧ r'.starts = r.starts →
      Aside r r' ∧ (r'.starts = r.starts ∨ m = .start ∧ r'.starts = r.starts ++ [.entering]) :=
    fun ⟨aside, same⟩ => ⟨aside, .inl same⟩
  cases m with
  | start =>
      cases step
      exact .inr ⟨⟨rfl, rfl, id, .inl rfl⟩, .inr ⟨rfl, rfl⟩⟩
  | advanceStart k => exact .inl ⟨k, passed_advanceStart step⟩
  | jobDone k => exact .inl ⟨k, passed_jobDone step⟩
  | jobFailed k f => exact .inl ⟨k, passed_jobFailed step⟩
  | dropStart k => exact .inl ⟨k, passed_dropStart step⟩
  | shutdown =>
      cases step
      exact .inr ⟨⟨rfl, rfl, id, .inl rfl⟩, .inl rfl⟩
  | advanceShutdown k => exact .inr (aside (aside_advanceShutdown step))
  | dropShutdown k => exact .inr (aside (aside_dropShutdown step))
  | cancelToken =>
      cases step
      exact .inr ⟨⟨rfl, rfl, id, .inl rfl⟩, .inl rfl⟩
  | publish m => exact .inr (aside (aside_publish step))
  | connect m => exact .inr (aside (aside_connect step))
  | consume name m => exact .inr (aside (aside_consume step))

/-- A start that has begun was there before, if no start went on. -/
theorem begun_of_aside {φ : StartPhase}
    (starts : r'.starts = r.starts ∨ m = .start ∧ r'.starts = r.starts ++ [.entering])
    (found : r'.starts[k]? = some φ) (begun : φ ≠ .entering) : r.starts[k]? = some φ := by
  rcases starts with same | ⟨-, added⟩
  · rw [← same, found]
  · rw [added] at found
    rcases of_getElem?_append found with old | ⟨-, new⟩
    · exact old
    · exact absurd new begun

-- ========================================================== its publisher

/-- A publisher in a relay makes the moves of a publisher. -/
theorem publisher_step (step : r.step? m = some r') : r'.publisher = r.publisher
    ∨ ∃ m, r.publisher.step? m = some r'.publisher := by
  rcases step_cases step with ⟨k, φ, φ', passed⟩ | ⟨aside, -⟩
  · rw [passed.publisher]
    split
    · exact .inr ⟨.fire, rfl⟩
    · exact .inl rfl
  · rcases aside.publisher with same | ⟨m, -, step⟩
    · exact .inl same
    · exact .inr ⟨m, step⟩

theorem instances_step (step : r.step? m = some r') : r'.instances = r.instances := by
  rcases step_cases step with ⟨k, φ, φ', passed⟩ | ⟨aside, -⟩
  · exact passed.instances
  · exact aside.instances

/-- A relay begins with nothing done. Its signal has fired if no instance consumes. -/
theorem create_cases {b : Blueprint} (created : create b = some (.ok r)) :
    ∃ p, Publisher.create b.instances = some (.ok p)
      ∧ r = { instances := b.instances
              publisher := { p with ready := !b.instances.any consumes } } := by
  unfold create at created
  obtain ⟨made, hmade, created⟩ := Option.bind_eq_some_iff.1 created
  cases made with
  | error f => cases created
  | ok p =>
      cases created
      exact ⟨p, hmade, rfl⟩

/-- A relay keeps the instances of its blueprint. -/
theorem instances_of_reachable {b : Blueprint} (reachable : Reachable b r) :
    r.instances = b.instances := by
  induction reachable with
  | start created =>
      obtain ⟨p, -, rfl⟩ := create_cases created
      rfl
  | step m _ step same => exact (instances_step step).trans same

/-- The publisher of a relay is one that can come about. -/
theorem publisher_of_reachable {b : Blueprint} (reachable : Reachable b r) :
    Publisher.Reachable b.instances r.publisher := by
  induction reachable with
  | start created =>
      obtain ⟨p, made, rfl⟩ := create_cases created
      have fresh : Publisher.Reachable b.instances p := .start made
      cases consumed : b.instances.any consumes with
      | true =>
          have unready := (Publisher.create_cases made).2.1
          obtain ⟨outlets, ready, sends⟩ := p
          cases unready
          exact fresh
      | false => exact .step .fire fresh rfl
  | step m _ step reachable =>
      rcases publisher_step step with same | ⟨m', step⟩
      · exact same ▸ reachable
      · exact .step m' reachable step

-- ============================================================ the signal

/-- Only the start in its pass fires the signal. -/
theorem Aside.ready {b : Blueprint} (aside : Aside r r') (reachable : Reachable b r) :
    r'.publisher.ready = r.publisher.ready := by
  rcases aside.publisher with same | ⟨m, unfired, step⟩
  · rw [same]
  · have links := Publisher.links_of_reachable (publisher_of_reachable reachable)
    exact Publisher.ready_step links unfired step

/-- No move takes the signal back. -/
theorem ready_step {b : Blueprint} (reachable : Reachable b r) (step : r.step? m = some r')
    (ready : r.publisher.ready = true) : r'.publisher.ready = true := by
  rcases step_cases step with ⟨k, φ, φ', passed⟩ | ⟨aside, -⟩
  · rw [passed.publisher]
    split
    · rfl
    · exact ready
  · exact (aside.ready reachable).trans ready

/-- Some moves lead from one relay to the other. -/
def Leads : Relay → Relay → Prop := Relation.ReflTransGen fun r r' => ∃ m, r.step? m = some r'

theorem Leads.reachable {b : Blueprint} (leads : Leads r r') (reachable : Reachable b r) :
    Reachable b r' := by
  induction leads with
  | refl => exact reachable
  | tail _ step reachable =>
      obtain ⟨m, step⟩ := step
      exact .step m reachable step

/-- A run of possible moves leads to where it ends. -/
theorem leads_of_run (moves : List RelayMove) (run : moves.foldlM step? r = some r') :
    Leads r r' := by
  induction moves generalizing r with
  | nil =>
      cases run
      exact .refl
  | cons m rest ih =>
      obtain ⟨next, step, run⟩ := Option.bind_eq_some_iff.1 run
      exact .head ⟨m, step⟩ (ih run)

/-- So it leads to what can come about. -/
theorem Reachable.run {b : Blueprint} (reachable : Reachable b r) (moves : List RelayMove)
    (run : moves.foldlM step? r = some r') : Reachable b r' :=
  (leads_of_run moves run).reachable reachable

/-- What every move keeps, a run keeps. -/
theorem Leads.keeps {b : Blueprint} {I : Relay → Prop} (leads : Leads r r')
    (reachable : Reachable b r) (before : I r)
    (step : ∀ (q q' : Relay) (m : RelayMove), Reachable b q → I q → q.step? m = some q' → I q') :
    I r' := by
  induction leads with
  | refl => exact before
  | tail leads last kept =>
      obtain ⟨m, last⟩ := last
      exact step _ _ m (Leads.reachable leads reachable) kept last

end Relay

end Courier
