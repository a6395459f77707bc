/-
The subscriptions of a consumer, set up over one channel that may refuse any
call. A call that is refused ends the plan it belongs to and no other: the next
subscription has its own plan asked for, behind all that was asked before.

So the calls fall into runs, one for the plan of each subscription, and which
subscriptions are set up can be read off them (`Setup.Comprises`). The induction
goes over the subscriptions: the run of the first one is before all others.
-/
import Courier.Proofs.Topology.Installing
import Courier.Startup

namespace Courier

open Courier.Topology (Operation Plan Refusals recorder asks_of_install)

-- ===================================================== statement vocabulary

/-- What a channel was asked for one plan, and what came of it. -/
structure PlanRun where
  calls : List Operation
  result : Except Failure Unit

/-- What is logged of the subscription whose plan it was. -/
def PlanRun.logs (run : PlanRun) (instanceName : String) (sub : Subscription) : List LogEvent :=
  creatingLog instanceName sub :: match run.result with
    | .ok () => []
    | .error f => [setupFailureLog instanceName sub f]

/-- What setting up subscriptions comes to, told by the runs of their plans,
over a channel with such refusals that was asked for something before. -/
structure Setup.Comprises (setup : Setup (List Operation)) (refuses : Refusals)
    (instanceName : String) (settings : Settings.Consumer) (before : List Operation)
    (subs : List Subscription) (runs : List PlanRun) : Prop where
  length : runs.length = subs.length
  /-- Each plan is asked for behind the runs before, up to and including the
  first operation that is refused. -/
  asked : ∀ (n : Nat) sub run, subs[n]? = some sub → runs[n]? = some run →
    refuses.Asks (before ++ (runs.take n).flatMap (·.calls))
      (Plan.ofSubscription sub settings).operations run.calls run.result
  /-- It is installed if none is refused, and only then. -/
  installed : ∀ (n : Nat) sub run, subs[n]? = some sub → runs[n]? = some run →
    (run.result.isOk = true ↔ refuses.Spares (before ++ (runs.take n).flatMap (·.calls))
      (Plan.ofSubscription sub settings).operations)
  /-- Nothing else is asked for. -/
  channel : setup.channel = before ++ runs.flatMap (·.calls)
  /-- Those whose plan was installed, each with the queue that it consumes. -/
  declared : setup.declared = ((subs.zip runs).filter (·.2.result.isOk)).map
    fun (sub, _) => (sub, (Plan.ofSubscription sub settings).queue)
  logs : setup.logs = (subs.zip runs).flatMap fun (sub, run) => run.logs instanceName sub

-- ============================================================= one by one

variable {refuses : Refusals} {instanceName : String} {settings : Settings.Consumer}
  {before : List Operation} {sub : Subscription} {rest : List Subscription} {run : PlanRun}
  {runs : List PlanRun}

/-- The setup of more subscriptions, behind that of a first one. -/
def Setup.behind (setup : Setup (List Operation)) (run : PlanRun) (instanceName : String)
    (settings : Settings.Consumer) (sub : Subscription) : Setup (List Operation) where
  declared := (if run.result.isOk then [(sub, (Plan.ofSubscription sub settings).queue)] else [])
    ++ setup.declared
  logs := run.logs instanceName sub ++ setup.logs
  channel := setup.channel

/-- The first run, and behind its calls those of all others. -/
theorem Setup.Comprises.cons {setup : Setup (List Operation)}
    (first : refuses.Asks before (Plan.ofSubscription sub settings).operations run.calls
      run.result)
    (others : setup.Comprises refuses instanceName settings (before ++ run.calls) rest runs) :
    (setup.behind run instanceName settings sub).Comprises refuses instanceName settings before
      (sub :: rest) (run :: runs) := by
  have asked : ∀ (n : Nat) sub' run', (sub :: rest)[n]? = some sub' →
      (run :: runs)[n]? = some run' →
        refuses.Asks (before ++ ((run :: runs).take n).flatMap (·.calls))
          (Plan.ofSubscription sub' settings).operations run'.calls run'.result := by
    intro n sub' run' at_n at_n'
    cases n with
    | zero =>
        cases at_n
        cases at_n'
        rw [List.take_zero, List.flatMap_nil, List.append_nil]
        exact first
    | succ n =>
        rw [List.take_succ_cons, List.flatMap_cons, ← List.append_assoc]
        exact others.asked n sub' run' at_n at_n'
  refine ⟨congrArg (· + 1) others.length, asked, fun n sub' run' at_n at_n' =>
    (asked n sub' run' at_n at_n').isOk_iff, ?_, ?_, ?_⟩
  · rw [List.flatMap_cons, ← List.append_assoc]
    exact others.channel
  · rw [List.zip_cons_cons, behind, others.declared]
    cases kept : run.result.isOk with
    | true =>
        simp only [List.filter_cons, kept]
        rfl
    | false =>
        simp only [List.filter_cons, kept]
        rfl
  · rw [List.zip_cons_cons, List.flatMap_cons, behind, others.logs]

/-- One subscription is set up, or left out, and then the others are set up. -/
theorem declareAll_cons {result : Except Failure Unit} {calls : List Operation}
    (installed : (recorder refuses).install before (Plan.ofSubscription sub settings).operations
      = (result, before ++ calls)) :
    declareAll (recorder refuses) instanceName settings before (sub :: rest)
      = (declareAll (recorder refuses) instanceName settings (before ++ calls) rest).behind
        ⟨calls, result⟩ instanceName settings sub := by
  cases result with
  | ok value =>
      simp only [declareAll, installed]
      rfl
  | error f =>
      simp only [declareAll, installed]
      rfl

/-- Setting up subscriptions comes to one run after another. -/
theorem comprises_declareAll (subs : List Subscription) (before : List Operation) :
    ∃ runs, (declareAll (recorder refuses) instanceName settings before subs).Comprises refuses
      instanceName settings before subs runs := by
  induction subs generalizing before with
  | nil =>
      have none : ∀ (n : Nat) (sub : Subscription), [][n]? ≠ some sub := by simp
      exact ⟨[], rfl, fun n sub _ found => absurd found (none n sub),
        fun n sub _ found => absurd found (none n sub), (List.append_nil before).symm, rfl, rfl⟩
  | cons sub rest ih =>
      obtain ⟨calls, result, installed, asks⟩ :=
        asks_of_install refuses before (Plan.named sub settings)
      obtain ⟨runs, others⟩ := ih (before ++ calls)
      rw [declareAll_cons installed]
      exact ⟨⟨calls, result⟩ :: runs, .cons asks others⟩

-- ========================================================== the main result

/-- Whatever a channel refuses, the subscriptions that are set up are those
whose plan has no operation that it refuses, in their order and each with its
queue. It is asked for the plans in the order of the subscriptions, for each of
them up to and including the first operation that it refuses. -/
theorem ConsumerRole.declares_installed (c : ConsumerRole) (refuses : Refusals)
    (instanceName : String) (before : List Operation) :
    ∃ runs, (c.declare (recorder refuses) instanceName before).Comprises refuses instanceName
      c.settings before c.subscriptions runs :=
  comprises_declareAll c.subscriptions before

end Courier
