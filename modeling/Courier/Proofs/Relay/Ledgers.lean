/-
What is known of a run of a relay besides the relay itself. A relay does not
keep what the brokers accepted, nor what was logged; a run carries both along
(`Ledger`).

It goes operation by operation: while a start is at the job of a plan, the
brokers accept the operations of the plan one after another, with any moves of
others in between; the job is done when all are accepted, and fails with the
first one that is not. Everything else is a move of the relay by itself.
-/
import Mathlib.Logic.Function.Basic
import Courier.Topology.Plan
import Courier.Relay

namespace Courier

open Courier.Topology (Operation Plan)

-- ========================================================== the ledger

/-- Why an operation fails: it cannot be asked for, or it is refused. -/
def Topology.Operation.FailsWith (op : Operation) (f : Failure) : Prop :=
  op.call = .error f ∨ ∃ call, op.call = .ok call ∧ f = call.refusal

/-- What the brokers accepted, which jobs were done, and what was logged. -/
structure Ledger where
  /-- The operations, each with the name of its instance. -/
  accepted : List (String × Operation) := []
  /-- Those of the job that each start is at. -/
  current : Nat → List (String × Operation) := fun _ => []
  done : List Job := []
  logs : List LogEvent := []

/-- The operations of a plan for an instance. -/
def Job.operations (name : String) (plan : Plan) : List (String × Operation) :=
  plan.operations.map (name, ·)

namespace Ledger

variable {l l' : Ledger}

/-- A broker accepts an operation of the job that start `k` is at. -/
def accept (l : Ledger) (k : Nat) (name : String) (op : Operation) : Ledger :=
  { l with
    accepted := l.accepted ++ [(name, op)]
    current := Function.update l.current k (l.current k ++ [(name, op)]) }

/-- Start `k` is done with a job, or has given it up. -/
def leave (l : Ledger) (k : Nat) (done : List Job) (logs : List LogEvent) : Ledger :=
  { l with
    current := Function.update l.current k []
    done := l.done ++ done
    logs := l.logs ++ logs }

def log (l : Ledger) (logs : List LogEvent) : Ledger := { l with logs := l.logs ++ logs }

/-- What start `k` is at grows by what was accepted for it. -/
theorem current_accept_self (l : Ledger) (k : Nat) (name : String) (op : Operation) :
    (l.accept k name op).current k = l.current k ++ [(name, op)] :=
  Function.update_self ..

/-- No other start is concerned by that. -/
theorem current_accept_of_ne (l : Ledger) {k k' : Nat} (other : k' ≠ k) (name : String)
    (op : Operation) : (l.accept k name op).current k' = l.current k' :=
  Function.update_of_ne other ..

/-- What holds of nothing, and of what the other starts are at, holds of what all are at
when start `k` has left its job. -/
theorem forall_current_leave {P : List (String × Operation) → Prop} {k : Nat} (nothing : P [])
    (others : ∀ k' ≠ k, P (l.current k')) (done : List Job) (logs : List LogEvent) (k' : Nat) :
    P ((l.leave k done logs).current k') := by
  show P (Function.update l.current k [] k')
  by_cases same : k' = k
  · subst same
    rw [Function.update_self]
    exact nothing
  · rw [Function.update_of_ne same]
    exact others k' same

/-- Nothing is taken off a ledger. -/
structure Grows (l l' : Ledger) : Prop where
  accepted : l.accepted.Sublist l'.accepted
  done : l.done ⊆ l'.done
  logs : l.logs ⊆ l'.logs

/-- A ledger only grows, by whatever is entered. -/
theorem grows_accept (l : Ledger) (k : Nat) (name : String) (op : Operation) :
    Grows l (l.accept k name op) :=
  ⟨List.sublist_append_left _ _, List.Subset.refl _, List.Subset.refl _⟩

theorem grows_leave (l : Ledger) (k : Nat) (done : List Job) (logs : List LogEvent) :
    Grows l (l.leave k done logs) :=
  ⟨List.Sublist.refl _, List.subset_append_left _ _, List.subset_append_left _ _⟩

theorem grows_log (l : Ledger) (logs : List LogEvent) : Grows l (l.log logs) :=
  ⟨List.Sublist.refl _, List.Subset.refl _, List.subset_append_left _ _⟩

/-- The instance got no channel, and that was logged. -/
def Failed (l : Ledger) (name : String) : Prop := ∃ f, Job.instanceFailureLog name f ∈ l.logs

/-- The ledger tells what became of a job. -/
def Settled (l : Ledger) (j : Job) : Prop :=
  l.Failed j.owner.name ∨ match j.task with
    | .connect => j ∈ l.done
    | .declare _ s plan => (Job.operations j.owner.name plan).Sublist l.accepted
      ∨ ∃ f, setupFailureLog j.owner.name s f ∈ l.logs
    | .consume .. => True

/-- What became of a job is not forgotten: a ledger that grows still tells it. -/
theorem Settled.mono {j : Job} (settled : l.Settled j) (grows : Grows l l') : l'.Settled j := by
  rcases settled with ⟨f, logged⟩ | settled
  · exact .inl ⟨f, grows.logs logged⟩
  · right
    split at settled
    next => exact grows.done settled
    next =>
      rcases settled with installed | ⟨f, logged⟩
      · exact .inl (installed.trans grows.accepted)
      · exact .inr ⟨f, grows.logs logged⟩
    next => trivial

end Ledger

-- ============================================================= the runs

namespace Job

/-- A job is done with those operations accepted: those of its whole plan. -/
def IsDoneBy (j : Job) (accepted : List (String × Operation)) : Prop :=
  match j.task with
  | .declare _ _ plan => accepted = operations j.owner.name plan
  | _ => True

/-- A job fails with those operations accepted: the next one of its plan does. -/
def IsStoppedBy (j : Job) (accepted : List (String × Operation)) (f : Failure) : Prop :=
  match j.task with
  | .declare _ _ plan => ∃ op, plan.operations[accepted.length]? = some op ∧ op.FailsWith f
  | _ => True

end Job

/-- Whether a move is the end of a job. -/
def RelayMove.EndsJob : RelayMove → Prop
  | jobDone _ | jobFailed _ _ => True
  | _ => False

namespace Relay

variable {b : Blueprint} {l : Ledger} {r r' : Relay} {k : Nat} {m : RelayMove}

/-- The relays that come about from a blueprint, with their ledgers. -/
inductive Run (b : Blueprint) : Ledger → Relay → Prop where
  | start {r : Relay} : create b = some (.ok r) → Run b {} r
  /-- The next operation of the plan that a start installs is accepted. -/
  | accept {l : Ledger} {r : Relay} {k n p : Nat} {j : Job} {rest : List Job} {s : Subscription}
      {plan : Plan} {op : Operation} :
    Run b l r → r.starts[k]? = some (.passing (j :: rest) n) → j.task = .declare p s plan →
    plan.operations[(l.current k).length]? = some op → (∃ call, op.call = .ok call) →
    Run b (l.accept k j.owner.name op) r
  | done {l : Ledger} {r r' : Relay} {k n : Nat} {j : Job} {rest : List Job} :
    Run b l r → r.starts[k]? = some (.passing (j :: rest) n) → j.IsDoneBy (l.current k) →
    r.step? (.jobDone k) = some r' → Run b (l.leave k [j] (r.logs (.jobDone k))) r'
  | failed {l : Ledger} {r r' : Relay} {k n : Nat} {j : Job} {rest : List Job} {f : Failure} :
    Run b l r → r.starts[k]? = some (.passing (j :: rest) n) → j.IsStoppedBy (l.current k) f →
    r.step? (.jobFailed k f) = some r' → Run b (l.leave k [] (r.logs (.jobFailed k f))) r'
  | other {l : Ledger} {r r' : Relay} {m : RelayMove} :
    Run b l r → ¬ m.EndsJob → r.step? m = some r' → Run b (l.log (r.logs m)) r'

/-- Without its ledger a run is one of the relay: what a broker accepts in the midst
of a plan is no move. -/
theorem Run.reachable (run : Run b l r) : Reachable b r := by
  induction run with
  | start created => exact .start created
  | accept _ _ _ _ _ reachable => exact reachable
  | done _ _ _ step reachable => exact .step _ reachable step
  | failed _ _ _ step reachable => exact .step _ reachable step
  | other _ _ step reachable => exact .step _ reachable step

end Relay

end Courier
