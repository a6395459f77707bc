/-
What it means that publications are let through. Messages for exchanges wait
until the consumers are ready, so that no queue is missing when they come.
This file says what is there then: every consuming instance was gone
through, and every subscription has its whole plan installed, or the log
tells of its failure or of that of its instance.

It is said of every run that a ledger goes along with. What happens in a
session is one (`RelaySession.Reachable.kept`).

# The invariant

Of a start in its pass, every job is ahead of it or settled, that is: the
ledger of the run tells what became of it (`Standing`). A job that fails takes
those that build on it away with it, and they are settled by the same log. So
the signal, which fires when no job is left, finds all of them settled.
-/
import Courier.Proofs.Relay.Moves
import Courier.Proofs.Relay.Sessions

namespace Courier

open Courier.Topology (Operation Plan)

namespace Relay

variable {b : Blueprint} {l : Ledger} {r r' : Relay} {k : Nat} {m : RelayMove}

-- ======================================================== the invariant

/-- Whatever start is in its pass has all unsettled jobs ahead of it, and the
signal has fired after one of them at the earliest. -/
structure Standing (l : Ledger) (r : Relay) : Prop where
  current : ∀ k, (l.current k).Sublist l.accepted
  passing : ∀ (k : Nat) (jobs : List Job) (n : Nat), r.starts[k]? = some (.passing jobs n) →
    r.started = true ∧ ∀ j ∈ Job.all r.instances, j ∈ jobs ∨ l.Settled j
  ready : r.publisher.ready = true → (∀ i ∈ r.instances, i.consumer = none)
    ∨ r.started = true ∧ ∀ j ∈ Job.all r.instances, l.Settled j

/-- Moves that leave the starts alone, or add one. -/
theorem Standing.aside {l' : Ledger} (standing : Standing l r) (grows : l.Grows l')
    (current : ∀ k, (l'.current k).Sublist l'.accepted) (aside : Aside r r')
    (starts : r'.starts = r.starts ∨ m = .start ∧ r'.starts = r.starts ++ [.entering])
    (ready : r'.publisher.ready = r.publisher.ready) : Standing l' r' := by
  refine ⟨current, ?_, ?_⟩
  · intro k jobs n passing
    obtain ⟨begun, ahead⟩ :=
      standing.passing k jobs n (begun_of_aside starts passing (by simp))
    refine ⟨aside.started.trans begun, ?_⟩
    intro j member
    rw [aside.instances] at member
    exact (ahead j member).imp_right (·.mono grows)
  · intro fired
    rw [aside.instances, aside.started]
    rcases standing.ready (ready ▸ fired) with silent | ⟨begun, settled⟩
    · exact .inl silent
    · exact .inr ⟨begun, fun j member => (settled j member).mono grows⟩

/-- The turn of a start keeps the invariant if what the start is then in its
pass is right. -/
theorem Standing.passed {l' : Ledger} {φ φ' : StartPhase} (standing : Standing l r)
    (grows : l.Grows l') (current : ∀ k, (l'.current k).Sublist l'.accepted)
    (passed : Passed r r' k m φ φ')
    (ahead : ∀ jobs n, φ' = .passing jobs n → r'.started = true
      ∧ ∀ j ∈ Job.all r.instances, j ∈ jobs ∨ l'.Settled j) : Standing l' r' := by
  have still : r.started = true → r'.started = true := by
    intro begun
    rw [passed.started, begun]
    rfl
  refine ⟨current, ?_, ?_⟩
  · intro k' jobs n passing
    rw [passed.instances]
    rw [passed.starts] at passing
    rcases of_getElem?_set passing with ⟨-, rfl⟩ | ⟨-, old⟩
    · exact ahead jobs n rfl
    · obtain ⟨begun, ahead⟩ := standing.passing k' jobs n old
      exact ⟨still begun, fun j member => (ahead j member).imp_right (·.mono grows)⟩
  · intro fired
    rw [passed.instances]
    have before := passed.before
    have publisher := passed.publisher
    have kept : r'.publisher = r.publisher → (∀ i ∈ r.instances, i.consumer = none)
        ∨ r'.started = true ∧ ∀ j ∈ Job.all r.instances, l'.Settled j := by
      intro same
      rcases standing.ready (same ▸ fired) with silent | ⟨begun, settled⟩
      · exact .inl silent
      · exact .inr ⟨still begun, fun j member => (settled j member).mono grows⟩
    cases passed.turn with
    | fires =>
        obtain ⟨begun, ahead⟩ := standing.passing k [] _ before
        refine .inr ⟨still begun, fun j member => ?_⟩
        rcases ahead j member with none | settled
        · cases none
        · exact settled.mono grows
    | _ => exact kept publisher

-- ======================================================== one job ends

/-- A job that is done is settled by what was accepted for it. -/
theorem settled_of_done {j : Job} {logs : List LogEvent}
    (current : (l.current k).Sublist l.accepted)
    (done : j.IsDoneBy (l.current k)) : (l.leave k [j] logs).Settled j := by
  right
  cases task : j.task with
  | connect => exact List.mem_append_right _ List.mem_cons_self
  | declare p s plan =>
      simp only [Job.IsDoneBy, task] at done
      exact .inl (done ▸ current)
  | consume p s queue => trivial

/-- A job that fails is settled by what is logged of it, and so are those
that build on it. -/
theorem settled_of_failed {j other : Job} {f : Failure} (l : Ledger)
    (logged : j.failedLogs f ⊆ l.logs) (gone : other = j ∨ other.buildsOn j = true) :
    l.Settled other := by
  rcases gone with rfl | builds
  · cases task : other.task with
    | connect =>
        simp only [Job.failedLogs, task] at logged
        exact .inl ⟨f, logged List.mem_cons_self⟩
    | declare p s plan =>
        simp only [Job.failedLogs, task] at logged
        unfold Ledger.Settled
        rw [task]
        exact .inr (.inr ⟨f, logged (List.mem_cons_of_mem _ List.mem_cons_self)⟩)
    | consume p s queue =>
        unfold Ledger.Settled
        rw [task]
        exact .inr trivial
  · unfold Job.buildsOn at builds
    rw [Bool.and_eq_true, beq_iff_eq] at builds
    obtain ⟨same, builds⟩ := builds
    cases task : j.task with
    | connect =>
        simp only [Job.failedLogs, task] at logged
        unfold Ledger.Settled
        rw [same]
        exact .inl ⟨f, logged List.mem_cons_self⟩
    | declare p s plan =>
        -- only the consuming builds on a plan, and it is not asked about
        cases theirs : other.task with
        | consume p' s' queue =>
            unfold Ledger.Settled
            rw [theirs]
            exact .inr trivial
        | _ => simp [task, theirs] at builds
    | consume p s queue => simp [task] at builds

/-- What starts are at has been accepted, also after one of them leaves its job. -/
theorem current_leave {logs : List LogEvent} {done : List Job}
    (current : ∀ k, (l.current k).Sublist l.accepted) (k' : Nat) :
    ((l.leave k done logs).current k').Sublist (l.leave k done logs).accepted :=
  Ledger.forall_current_leave (P := (·.Sublist l.accepted)) (List.nil_sublist _)
    (fun k' _ => current k') done logs k'

/-- The invariant is kept where a job is done. -/
theorem Standing.done {j : Job} {rest : List Job} {n : Nat} (standing : Standing l r)
    (before : r.starts[k]? = some (.passing (j :: rest) n)) (done : j.IsDoneBy (l.current k))
    (step : r.step? (.jobDone k) = some r') :
    Standing (l.leave k [j] (r.logs (.jobDone k))) r' := by
  obtain ⟨φ, φ', passed⟩ := passed_jobDone step
  refine standing.passed (l.grows_leave _ _ _) (current_leave standing.current) passed ?_
  intro jobs n' ended
  have same := passed.before
  rw [before] at same
  cases same
  obtain ⟨begun, ahead⟩ := standing.passing k _ _ before
  refine ⟨by rw [passed.started, begun]; rfl, ?_⟩
  intro j' member
  cases passed.turn with
  | does =>
      cases ended
      rcases ahead j' member with inside | settled
      · rcases List.mem_cons.1 inside with rfl | inside
        · exact .inr (settled_of_done (standing.current k) done)
        · exact .inl inside
      · exact .inr (settled.mono (l.grows_leave _ _ _))

theorem logs_jobFailed {j : Job} {rest : List Job} {n : Nat} (f : Failure)
    (before : r.starts[k]? = some (.passing (j :: rest) n)) :
    r.logs (.jobFailed k f) = j.failedLogs f := by
  simp [logs, jobLogs, before]

/-- It is kept where a job fails. -/
theorem Standing.failed {j : Job} {rest : List Job} {n : Nat} {f : Failure}
    (standing : Standing l r) (before : r.starts[k]? = some (.passing (j :: rest) n))
    (step : r.step? (.jobFailed k f) = some r') :
    Standing (l.leave k [] (r.logs (.jobFailed k f))) r' := by
  obtain ⟨φ, φ', passed⟩ := passed_jobFailed (f := f) step
  refine standing.passed (l.grows_leave _ _ _) (current_leave standing.current) passed ?_
  intro jobs n' ended
  have same := passed.before
  rw [before] at same
  cases same
  obtain ⟨begun, ahead⟩ := standing.passing k _ _ before
  refine ⟨by rw [passed.started, begun]; rfl, ?_⟩
  have logged : j.failedLogs f ⊆ (l.leave k [] (r.logs (.jobFailed k f))).logs := by
    rw [logs_jobFailed f before]
    exact List.subset_append_right _ _
  intro j' member
  cases passed.turn with
  | fails =>
      cases ended
      -- what builds on the job is not ahead of the start any more, so it has to be settled too
      rcases ahead j' member with inside | settled
      · rcases List.mem_cons.1 inside with rfl | inside
        · exact .inr (settled_of_failed _ logged (.inl rfl))
        · cases builds : j'.buildsOn j with
          | true => exact .inr (settled_of_failed _ logged (.inr builds))
          | false => exact .inl (List.mem_filter.2 ⟨inside, by simp [builds]⟩)
      · exact .inr (settled.mono (l.grows_leave _ _ _))

/-- A move of a start that ends no job. -/
theorem Standing.turn {φ φ' : StartPhase} {logs : List LogEvent} (standing : Standing l r)
    (noJob : ¬ m.EndsJob) (passed : Passed r r' k m φ φ') : Standing (l.log logs) r' := by
  refine standing.passed (l.grows_log _) standing.current passed ?_
  intro jobs n passing
  have started := passed.started
  cases passed.turn with
  | claims =>
      cases passing
      exact ⟨by simp [started], fun j member => .inl member⟩
  | does => exact absurd trivial noJob
  | fails => exact absurd trivial noJob
  | _ => cases passing

/-- A relay without consuming instances has nothing to set up. -/
theorem standing_create (created : create b = some (.ok r)) : Standing {} r := by
  obtain ⟨p, made, rfl⟩ := create_cases created
  refine ⟨fun _ => List.Sublist.refl _, nofun, ?_⟩
  intro fired
  left
  intro i member
  have none : b.instances.any consumes = false := by simpa using fired
  simpa [consumes] using List.any_eq_false.1 none i member

/-- Every run keeps it, one case for each way that a run goes on. -/
theorem Run.standing (run : Run b l r) : Standing l r := by
  induction run with
  | start created => exact standing_create created
  | @accept l r k n p j rest s plan op run before task next named standing =>
      have grows := l.grows_accept k j.owner.name op
      refine ⟨?_, ?_, ?_⟩
      · intro k'
        by_cases same : k' = k
        · rw [same, l.current_accept_self]
          exact (standing.current k).append (List.Sublist.refl _)
        · rw [l.current_accept_of_ne same]
          exact (standing.current k').trans grows.accepted
      · intro k' jobs n passing
        obtain ⟨begun, ahead⟩ := standing.passing k' jobs n passing
        exact ⟨begun, fun j member => (ahead j member).imp_right (·.mono grows)⟩
      · intro fired
        rcases standing.ready fired with silent | ⟨begun, settled⟩
        · exact .inl silent
        · exact .inr ⟨begun, fun j member => (settled j member).mono grows⟩
  | done _ before done step standing => exact standing.done before done step
  | failed _ before _ step standing => exact standing.failed before step
  | @other l r r' m run noJob step standing =>
      rcases step_cases step with ⟨k, φ, φ', passed⟩ | ⟨aside, starts⟩
      · exact standing.turn noJob passed
      · exact standing.aside (l.grows_log _) standing.current aside starts
          (aside.ready run.reachable)

-- ======================================================== every run

/-- What became of an instance: it got no channel, which was logged, or every
one of its subscriptions has its plan installed or its failure logged. -/
def GoneThrough (l : Ledger) (i : Instance) (c : ConsumerRole) : Prop :=
  l.Failed i.name ∨ ⟨i, .connect⟩ ∈ l.done ∧ ∀ s ∈ c.subscriptions,
    (Job.operations i.name (Plan.ofSubscription s c.settings)).Sublist l.accepted
      ∨ ∃ f, setupFailureLog i.name s f ∈ l.logs

/-- If all jobs are settled, so is each consuming instance with all its
subscriptions. -/
theorem goneThrough_of_settled {instances : List Instance} {i : Instance} {c : ConsumerRole}
    (settled : ∀ j ∈ Job.all instances, l.Settled j) (member : i ∈ instances)
    (consumer : i.consumer = some c) : GoneThrough l i c := by
  have jobs : ∀ j ∈ Job.ofConsumer i c, l.Settled j := by
    intro j hj
    refine settled j (List.mem_flatMap.2 ⟨i, member, ?_⟩)
    rw [Job.ofInstance, consumer]
    exact hj
  rcases jobs ⟨i, .connect⟩ (by simp [Job.ofConsumer]) with failed | connected
  · exact .inl failed
  · by_cases failed : l.Failed i.name
    · exact .inl failed
    · refine .inr ⟨connected, ?_⟩
      intro s hs
      obtain ⟨n, hn, rfl⟩ := List.getElem_of_mem hs
      have position : (c.subscriptions[n], n) ∈ c.subscriptions.zipIdx :=
        List.mem_zipIdx_iff_getElem?.2 (List.getElem?_eq_getElem hn)
      have job : ⟨i, .declare n c.subscriptions[n] (Plan.ofSubscription c.subscriptions[n]
          c.settings)⟩ ∈ Job.ofConsumer i c := by
        simp only [Job.ofConsumer, List.cons_append, List.mem_cons, List.mem_append, List.mem_map]
        exact .inr (.inl ⟨_, ⟨_, position, rfl⟩, rfl⟩)
      exact (jobs _ job).resolve_left failed

/-- When publications are let through. No message for an exchange is handed
to the broker before the signal; the signal has not fired unless no instance
consumes or the startup pass has gone through every consuming instance; and
it is never taken back. -/
theorem ready_after_pass (run : Run b l r) :
    (∀ (k : Nat) (s : Send) (t n : Nat), r.publisher.sends[k]? = some s →
        s.posting.target.isGated = true → s.phase = .publishing t n → r.publisher.ready = true)
      ∧ (r.publisher.ready = true → (∀ i ∈ b.instances, i.consumer = none)
        ∨ r.started = true ∧ ∀ i ∈ b.instances, ∀ c, i.consumer = some c → GoneThrough l i c)
      ∧ (r.publisher.ready = true → ∀ r', Leads r r' → r'.publisher.ready = true) := by
  have reachable := run.reachable
  have links := Publisher.links_of_reachable (publisher_of_reachable reachable)
  refine ⟨?_, ?_, ?_⟩
  · intro k s t n sent gated phase
    obtain ⟨o, φ, -, -, fits⟩ := links.fits k s t sent (by rw [phase]; rfl)
    rw [phase] at fits
    exact fits.2 gated
  · intro ready
    have same := instances_of_reachable reachable
    rcases run.standing.ready ready with silent | ⟨begun, settled⟩
    · exact .inl (same ▸ silent)
    · rw [same] at settled
      exact .inr ⟨begun, fun i member c consumer => goneThrough_of_settled settled member consumer⟩
  · intro ready r' leads
    exact leads.keeps (I := fun q => q.publisher.ready = true) reachable ready
      fun _ _ _ reachable ready step => ready_step reachable step ready

/-- A subscription to a queue. -/
def takes (queue : String) : Subscription where
  name := queue
  maxParallelism := 1
  source := .queue
  handler := .scripted ⟨"Sack", fun _ => .ok .null⟩ []

/-- An instance that consumes two queues, and publishes. -/
def mill : Instance where
  name := "mill"
  connection := {}
  consumer := some ⟨{ group := "millers", maxParallelism := 1 }, [takes "flour", takes "bran"]⟩
  producer := some { maxPoolLength := 1 }
  init := none

/-- A broker that refuses one queue and accepts the other one. -/
def withoutFlour : Network Unit where
  ask _ _ request :=
    (match request with
      | .perform (.declareQueue q) => q.name != "flour"
      | _ => true, ())
  reason := ""

/-- A message for an exchange. -/
def priceList : Posting where
  instanceName := "mill"
  target := .exchange "prices" ""
  messageType := "Prices"
  body := .ok [91, 93]

/-- The message was posted before the mill is started. -/
def early (r : Relay) : RelaySession (Unit × List (String × Operation)) :=
  (RelaySession.post withoutFlour.recording ⟨r, ((), []), [], []⟩ priceList).1

/-- The mill is then started, and the message goes on. -/
def opened (r : Relay) : RelaySession (Unit × List (String × Operation)) :=
  (((early r).move .start).runStart withoutFlour.recording 0 9).stepSend withoutFlour.recording 0

/-- The message waits until the pass is over, and is then handed over. -/
theorem ready_after_pass_of_mill : ∃ r l, create ⟨[mill]⟩ = some (.ok r)
    ∧ (early r).relay.publisher.sends[0]? = some ⟨priceList, .gated 0⟩
    ∧ (early r).relay.publisher.ready = false
    ∧ RelaySession.Keeps ⟨[mill]⟩ Prod.snd (opened r) l
    ∧ (opened r).network.2 = Job.operations "mill" (.ofQueue "bran")
    ∧ (opened r).relay.publisher.sends[0]? = some ⟨priceList, .publishing 0 0⟩
    ∧ (opened r).relay.publisher.ready = true
    ∧ ((∀ i ∈ [mill], i.consumer = none) ∨ (opened r).relay.started = true
      ∧ ∀ i ∈ [mill], ∀ c, i.consumer = some c → GoneThrough l i c) := by
  have created : create ⟨[mill]⟩ = some (.ok _) := rfl
  have new : RelaySession.Reachable withoutFlour.recording ⟨[mill]⟩ ⟨_, ((), []), [], []⟩ :=
    .new created
  have started := (new.post priceList).move .start id
  obtain ⟨l, keeps⟩ := ((started.runStart 0 9).stepSend 0).kept withoutFlour.records_recording
  obtain ⟨unpublished, gone, -⟩ := ready_after_pass keeps.run
  have ready := unpublished 0 ⟨priceList, .publishing 0 0⟩ 0 0 rfl rfl rfl
  exact ⟨_, l, created, rfl, rfl, keeps, rfl, rfl, ready, gone ready⟩

end Relay

end Courier
