/-
The part of a startup pass that is about one instance, once it has its
channel. A session does it job by job; here it is told as a whole
(`ConsumerRole.begin`): all subscriptions are set up, and those that were are
consumed. `run_connected` says that the jobs come to the same, in a move each
at most, and leave the other instances alone.

The jobs left are of three kinds, in this order: plans to install, queues to
consume, and whatever comes after this instance. A plan that fails takes the
consuming of its subscription away, which is found by its position among the
subscriptions; so the induction goes over the plans left, and keeps apart the
queues of plans that were installed (`done`) from those of plans that are
ahead (`run_declares`). A queue that cannot be consumed takes nothing with it
(`run_consumes`).
-/
import Courier.Proofs.Lookup
import Courier.Relay.Session

namespace Courier

open Courier.Topology (Channel Plan)

-- ========================================================= told as a whole

/-- A subscription at its position, with its plan. -/
structure Planned where
  position : Nat
  subscription : Subscription
  plan : Plan

/-- What is consumed for it. -/
def Planned.source (x : Planned) : Subscription × String := (x.subscription, x.plan.queue)

/-- The subscriptions of a consumer from position `p` on, with their plans. -/
def planned (settings : Settings.Consumer) (p : Nat) : List Subscription → List Planned
  | [] => []
  | s :: rest => ⟨p, s, Plan.ofSubscription s settings⟩ :: planned settings (p + 1) rest

/-- Installs plans over a channel; those that were installed, and the channel
after it. -/
def installAll {σ : Type} (ch : Channel σ) (s : σ) : List Planned → List Planned × σ
  | [] => ([], s)
  | x :: rest =>
    match ch.install s x.plan.operations with
    | (.ok (), s) =>
      let (installed, s) := installAll ch s rest
      (x :: installed, s)
    | (.error _, s) => installAll ch s rest

/-- Asks for the deliveries of queues; those that the broker gives. -/
def subscribeAll {σ : Type} (net : Network σ) (name : String) (s : σ) :
    List (Subscription × String) → List (Subscription × String) × σ
  | [] => ([], s)
  | (sub, queue) :: rest =>
    match net.subscribe s name sub queue with
    | (.ok (), s) =>
      let (begun, s) := subscribeAll net name s rest
      ((sub, queue) :: begun, s)
    | (.error _, s) => subscribeAll net name s rest

section

variable {σ : Type} {net : Network σ} {name queue : String} {s network : σ} {sub : Subscription}
  {rest : List (Subscription × String)}

/-- A queue that is given joins those that are consumed. -/
theorem subscribeAll_given (given : net.subscribe s name sub queue = (.ok (), network)) :
    subscribeAll net name s ((sub, queue) :: rest)
      = ((sub, queue) :: (subscribeAll net name network rest).1,
        (subscribeAll net name network rest).2) := by
  simp only [subscribeAll, given]

/-- One that is refused is left out, and the others go on. -/
theorem subscribeAll_refused {f : Failure}
    (refused : net.subscribe s name sub queue = (.error f, network)) :
    subscribeAll net name s ((sub, queue) :: rest) = subscribeAll net name network rest := by
  simp only [subscribeAll, refused]

end

/-- Sets up the subscriptions of a consumer and consumes those that were set up:
those consumed then, and the network after it. -/
def ConsumerRole.begin {σ : Type} (c : ConsumerRole) (net : Network σ) (name : String) (s : σ) :
    List (Subscription × String) × σ :=
  let setup := c.declare (net.channel name) name s
  subscribeAll net name setup.channel setup.declared

/-- The intake of an instance once these are consumed. -/
def Intake.consumeAll (t : Intake) (sources : List (Subscription × String)) : Intake :=
  sources.foldl (fun t (s, queue) => t.consume s queue) t

theorem length_installAll {σ : Type} (ch : Channel σ) (s : σ) (plans : List Planned) :
    (installAll ch s plans).1.length ≤ plans.length := by
  induction plans generalizing s with
  | nil => exact Nat.le_refl 0
  | cons x rest ih =>
      unfold installAll
      split
      next s _ => exact Nat.succ_le_succ (ih s)
      next s _ => exact Nat.le_succ_of_le (ih s)

/-- Setting up subscriptions is installing their plans. -/
theorem declareAll_eq {σ : Type} (ch : Channel σ) (name : String) (settings : Settings.Consumer)
    (subs : List Subscription) (p : Nat) (s : σ) :
    (declareAll ch name settings s subs).declared
        = (installAll ch s (planned settings p subs)).1.map Planned.source
      ∧ (declareAll ch name settings s subs).channel
        = (installAll ch s (planned settings p subs)).2 := by
  induction subs generalizing p s with
  | nil => exact ⟨rfl, rfl⟩
  | cons sub rest ih =>
      cases answer : ch.install s (Plan.ofSubscription sub settings).operations with
      | mk result next =>
      simp only [declareAll, planned, installAll, answer]
      cases result with
      | ok value =>
          obtain ⟨declared, channel⟩ := ih (p + 1) next
          exact ⟨congrArg _ declared, channel⟩
      | error f => exact ih (p + 1) next

/-- Positions count on from where they begin, so no two are the same. -/
theorem le_position (settings : Settings.Consumer) (subs : List Subscription) (p : Nat) :
    ∀ x ∈ planned settings p subs, p ≤ x.position := by
  induction subs generalizing p with
  | nil =>
      intro x member
      cases member
  | cons s rest ih =>
      intro x member
      rcases List.mem_cons.1 member with rfl | later
      · exact Nat.le_refl p
      · exact Nat.le_of_succ_le (ih (p + 1) x later)

/-- No two subscriptions have one position. -/
theorem positions_nodup (settings : Settings.Consumer) (p : Nat) (subs : List Subscription) :
    ((planned settings p subs).map (·.position)).Nodup := by
  induction subs generalizing p with
  | nil => exact List.nodup_nil
  | cons s rest ih =>
      refine List.nodup_cons.2 ⟨fun again => ?_, ih (p + 1)⟩
      obtain ⟨x, member, same⟩ := List.mem_map.1 again
      have later : p + 1 ≤ x.position := le_position settings rest (p + 1) x member
      have here : x.position = p := same
      omega

/-- Without one of them, the others have positions of their own still, and none has its. -/
theorem nodup_of_middle {done later : List Planned} {x : Planned}
    (distinct : ((done ++ x :: later).map (·.position)).Nodup) :
    ((done ++ later).map (·.position)).Nodup ∧ ∀ y ∈ done ++ later, y.position ≠ x.position := by
  have swapped := (List.perm_middle.map Planned.position).nodup_iff.1 distinct
  obtain ⟨fresh, distinct⟩ := List.nodup_cons.1 swapped
  exact ⟨distinct, fun y inside same => fresh (List.mem_map.2 ⟨y, inside, same⟩)⟩

-- ================================================================ the jobs

namespace Job

/-- The jobs that install plans. -/
def declares (i : Instance) (plans : List Planned) : List Job :=
  plans.map fun x => ⟨i, .declare x.position x.subscription x.plan⟩

/-- The jobs that consume the queues of plans. -/
def consumes (i : Instance) (plans : List Planned) : List Job :=
  plans.map fun x => ⟨i, .consume x.position x.subscription x.plan.queue⟩

/-- The jobs of an instance are those of its planned subscriptions. -/
theorem planned_eq (settings : Settings.Consumer) (subs : List Subscription) (p : Nat) :
    ((subs.zipIdx p).map fun (s, n) => (n, s, Plan.ofSubscription s settings))
      = (planned settings p subs).map fun x => (x.position, x.subscription, x.plan) := by
  induction subs generalizing p with
  | nil => rfl
  | cons s rest ih => exact congrArg _ (ih (p + 1))

/-- An instance gets its channel, then its plans are installed, and then its
queues are consumed. -/
theorem ofConsumer_eq (i : Instance) (c : ConsumerRole) :
    ofConsumer i c = ⟨i, .connect⟩ ::
      (declares i (planned c.settings 0 c.subscriptions)
        ++ consumes i (planned c.settings 0 c.subscriptions)) := by
  unfold ofConsumer
  simp only [planned_eq, List.map_map]
  rfl

/-- Without its plan, a queue is not consumed. -/
theorem filter_declare {i : Instance} {x : Planned} {todo done later : List Planned}
    {rest : List Job} (others : ∀ j ∈ rest, j.owner.name ≠ i.name)
    (apart : ∀ y ∈ done ++ later, y.position ≠ x.position) :
    (declares i todo ++ consumes i (done ++ x :: later) ++ rest).filter
        (fun other => !other.buildsOn ⟨i, .declare x.position x.subscription x.plan⟩)
      = declares i todo ++ consumes i (done ++ later) ++ rest := by
  have plans : (declares i todo).filter
      (fun other => !other.buildsOn ⟨i, .declare x.position x.subscription x.plan⟩)
        = declares i todo := by
    refine List.filter_eq_self.2 fun j member => ?_
    obtain ⟨y, -, rfl⟩ := List.mem_map.1 member
    simp [buildsOn]
  have queues : ∀ plans : List Planned, (∀ y ∈ plans, y.position ≠ x.position) →
      (consumes i plans).filter
        (fun other => !other.buildsOn ⟨i, .declare x.position x.subscription x.plan⟩)
          = consumes i plans := by
    intro plans apart
    refine List.filter_eq_self.2 fun j member => ?_
    obtain ⟨y, inside, rfl⟩ := List.mem_map.1 member
    simp [buildsOn, Ne.symm (apart y inside)]
  have foreign : rest.filter
      (fun other => !other.buildsOn ⟨i, .declare x.position x.subscription x.plan⟩) = rest := by
    refine List.filter_eq_self.2 fun j member => ?_
    simp [buildsOn, others j member]
  have split : ∀ plans, consumes i (done ++ plans) = consumes i done ++ consumes i plans :=
    fun _ => List.map_append
  have own : (consumes i (x :: later)).filter
      (fun other => !other.buildsOn ⟨i, .declare x.position x.subscription x.plan⟩)
        = consumes i later := by
    refine (List.filter_cons_of_neg (by simp [buildsOn])).trans ?_
    exact queues later fun y inside => apart y (List.mem_append_right _ inside)
  rw [split, split, List.filter_append, List.filter_append, List.filter_append, plans, foreign, own,
    queues done fun y inside => apart y (List.mem_append_left _ inside)]

/-- Nothing builds on the consuming of a queue. -/
theorem filter_consume (i : Instance) (p : Nat) (s : Subscription) (queue : String)
    (jobs : List Job) :
    jobs.filter (fun other => !other.buildsOn ⟨i, .consume p s queue⟩) = jobs :=
  List.filter_eq_self.2 fun j _ => by simp [buildsOn]

end Job

-- =============================================================== the runs

namespace RelaySession

variable {σ : Type} {net : Network σ} {k : Nat} {s s' s'' : RelaySession σ}

/-- Some moves of a start lead from one session to the other. -/
def Runs (net : Network σ) (k : Nat) (s s' : RelaySession σ) : Prop :=
  ∃ moves, s.runStart net k moves = s'

/-- At most so many moves of a start lead from one session to the other. -/
def RunsIn (net : Network σ) (k n : Nat) (s s' : RelaySession σ) : Prop :=
  ∃ moves ≤ n, s.runStart net k moves = s'

theorem RunsIn.refl (s : RelaySession σ) : RunsIn net k 0 s s := ⟨0, Nat.le_refl 0, rfl⟩

theorem RunsIn.head {n : Nat} (run : RunsIn net k n (s.stepStart net k) s') :
    RunsIn net k (n + 1) s s' := by
  obtain ⟨moves, within, run⟩ := run
  exact ⟨moves + 1, Nat.succ_le_succ within, run⟩

/-- More moves may be granted than are needed. -/
theorem RunsIn.mono {m n : Nat} (run : RunsIn net k m s s') (more : m ≤ n) :
    RunsIn net k n s s' := by
  obtain ⟨moves, within, run⟩ := run
  exact ⟨moves, Nat.le_trans within more, run⟩

theorem runStart_add (s : RelaySession σ) (m n : Nat) :
    s.runStart net k (m + n) = (s.runStart net k m).runStart net k n := by
  induction m generalizing s with
  | zero => rw [Nat.zero_add]; rfl
  | succ m ih =>
      rw [Nat.succ_add]
      exact ih (s.stepStart net k)

/-- Two runs of a start, one after the other. -/
theorem RunsIn.trans {m n : Nat} (first : RunsIn net k m s s') (second : RunsIn net k n s' s'') :
    RunsIn net k (m + n) s s'' := by
  obtain ⟨p, within, rfl⟩ := first
  obtain ⟨q, within', rfl⟩ := second
  exact ⟨p + q, Nat.add_le_add within within', runStart_add s p q⟩

theorem RunsIn.runs {n : Nat} (run : RunsIn net k n s s') : Runs net k s s' := by
  obtain ⟨moves, -, run⟩ := run
  exact ⟨moves, run⟩

/-- What happened between two sessions concerns one instance: the others have the cells and
intakes they had. -/
structure Concerns (name : String) (s s' : RelaySession σ) : Prop where
  publisher : s'.relay.publisher = s.relay.publisher
  disposed : s'.relay.connections.disposed = s.relay.connections.disposed
  cells : ∀ other, other ≠ name → KeyedList.get? other s'.relay.connections.index
    = KeyedList.get? other s.relay.connections.index
  intakes : ∀ other, other ≠ name → KeyedList.get? other s'.relay.intakes
    = KeyedList.get? other s.relay.intakes

theorem Concerns.refl (name : String) (s : RelaySession σ) : Concerns name s s :=
  ⟨rfl, rfl, fun _ _ => rfl, fun _ _ => rfl⟩

theorem Concerns.trans {name : String} (first : Concerns name s s')
    (second : Concerns name s' s'') : Concerns name s s'' where
  publisher := second.publisher.trans first.publisher
  disposed := second.disposed.trans first.disposed
  cells other different := (second.cells other different).trans (first.cells other different)
  intakes other different :=
    (second.intakes other different).trans (first.intakes other different)

/-- What changes a start alone concerns no other instance. -/
theorem Concerns.of_starts (name : String)
    (same : s'.relay = { s.relay with starts := s'.relay.starts }) : Concerns name s s' where
  publisher := by rw [same]
  disposed := by rw [same]
  cells other _ := by rw [same]
  intakes other _ := by rw [same]

/-- The intake of an instance is set. -/
theorem Concerns.of_setIntake {name : String} {t : Intake} {phase : StartPhase}
    (moved : s'.relay = (s.relay.setIntake name t).setStart k phase) : Concerns name s s' where
  publisher := by rw [moved]; rfl
  disposed := by rw [moved]; rfl
  cells other _ := by rw [moved]; rfl
  intakes other different := by
    rw [moved]
    show KeyedList.get? other (KeyedList.put name t s.relay.intakes) = _
    rw [KeyedList.get?_put, if_neg different]

/-- The next job is done, and leaves the starts alone while it is done. -/
theorem stepStart_done {t : RelaySession σ} {j : Job} {rest : List Job} {n : Nat}
    (passing : s.relay.starts[k]? = some (.passing (j :: rest) n))
    (done : s.perform net j = (t, some (.ok ()))) (starts : t.relay.starts = s.relay.starts) :
    (s.stepStart net k).network = t.network
      ∧ (s.stepStart net k).relay
        = (t.relay.perform j).setStart k (.passing rest (n + Relay.listenersOf j)) := by
  unfold stepStart
  rw [passing]
  simp only [done]
  refine ⟨rfl, ?_⟩
  simp [move, Relay.step, Relay.step?, Relay.jobDone, starts, passing]

/-- The next job failed, and takes those that build on it away. -/
theorem stepStart_failed {t : RelaySession σ} {j : Job} {rest : List Job} {n : Nat} {f : Failure}
    (passing : s.relay.starts[k]? = some (.passing (j :: rest) n))
    (failed : s.perform net j = (t, some (.error f))) (starts : t.relay.starts = s.relay.starts) :
    (s.stepStart net k).network = t.network
      ∧ (s.stepStart net k).relay
        = t.relay.setStart k (.passing (rest.filter fun other => !other.buildsOn j) n) := by
  unfold stepStart
  rw [passing]
  simp only [failed]
  refine ⟨rfl, ?_⟩
  simp [move, Relay.step, Relay.step?, Relay.jobFailed, starts, passing]

/-- A channel was opened last, and only the connections have changed otherwise. -/
theorem channel_opened {t : RelaySession σ} {i : Instance} {refusal : LogEvent}
    (opened : s.channel net i refusal = (t, some (.ok ()))) :
    t.relay.starts = s.relay.starts ∧ t.relay.intakes = s.relay.intakes
      ∧ t.relay.cancelled = s.relay.cancelled
      ∧ ∃ before, net.ask before i.name .openChannel = (true, t.network) := by
  unfold channel withConnections at opened
  simp only at opened
  split at opened
  next => cases opened
  next => cases opened
  next u _ got =>
    unfold ask at opened
    cases answer : net.ask u.network i.name .openChannel with
    | mk accepted network =>
    simp only [answer] at opened
    cases accepted with
    | false => cases opened
    | true =>
        cases opened
        obtain rfl := (Prod.mk.inj got).1
        exact ⟨rfl, rfl, rfl, _, answer⟩

/-- The job of a plan installs it, and tells what came of that. -/
theorem perform_declare {i : Instance} {x : Planned} {result : Except Failure Unit} {network : σ}
    (answer : (net.channel i.name).install s.network x.plan.operations = (result, network)) :
    s.perform net ⟨i, .declare x.position x.subscription x.plan⟩
      = ({ s with network := network }, some result) := by
  simp only [perform, answer]

theorem perform_consume {i : Instance} {x : Planned} {result : Except Failure Unit} {network : σ}
    (answer : net.subscribe s.network i.name x.subscription x.plan.queue = (result, network)) :
    s.perform net ⟨i, .consume x.position x.subscription x.plan.queue⟩
      = ({ s with network := network }, some result) := by
  simp only [perform, answer]

/-- The plans of an instance are installed one after another; the queues of
those that were installed are left to be consumed. -/
theorem run_declares (net : Network σ) {i : Instance} {rest : List Job} {n : Nat}
    (others : ∀ j ∈ rest, j.owner.name ≠ i.name) (todo : List Planned) :
    ∀ (s : RelaySession σ) (done : List Planned),
      ((done ++ todo).map (·.position)).Nodup →
      s.relay.starts[k]?
        = some (.passing (Job.declares i todo ++ Job.consumes i (done ++ todo) ++ rest) n) →
      ∃ last, RunsIn net k todo.length s last
        ∧ last.relay = { s.relay with starts := last.relay.starts }
        ∧ last.network = (installAll (net.channel i.name) s.network todo).2
        ∧ last.relay.starts[k]? = some (.passing
          (Job.consumes i (done ++ (installAll (net.channel i.name) s.network todo).1) ++ rest)
          n) := by
  induction todo with
  | nil => exact fun s done _ passing => ⟨s, .refl s, rfl, rfl, passing⟩
  | cons x todo ih =>
      intro s done distinct passing
      have next : s.relay.starts[k]? = some (.passing
          (⟨i, .declare x.position x.subscription x.plan⟩
            :: (Job.declares i todo ++ Job.consumes i (done ++ x :: todo) ++ rest)) n) := passing
      unfold installAll
      cases answer : (net.channel i.name).install s.network x.plan.operations with
      | mk result network =>
      cases result with
      | ok value =>
          obtain ⟨same, moved⟩ := stepStart_done next (perform_declare answer) rfl
          have left : (s.stepStart net k).relay.starts[k]? = some (.passing
              (Job.declares i todo ++ Job.consumes i ((done ++ [x]) ++ todo) ++ rest) n) := by
            rw [moved, List.append_assoc done [x] todo]
            exact getElem?_set_self_of_some next
          obtain ⟨last, run, kept, network', ended⟩ := ih (s.stepStart net k) (done ++ [x])
            (by rw [List.append_assoc]; exact distinct) left
          rw [same] at network' ended
          rw [List.append_assoc] at ended
          refine ⟨last, run.head, kept.trans ?_, network', ended⟩
          rw [moved]
          rfl
      | error f =>
          obtain ⟨same, moved⟩ := stepStart_failed next (perform_declare answer) rfl
          obtain ⟨distinct, apart⟩ := nodup_of_middle distinct
          have left : (s.stepStart net k).relay.starts[k]? = some (.passing
              (Job.declares i todo ++ Job.consumes i (done ++ todo) ++ rest) n) := by
            rw [moved, Job.filter_declare others apart]
            exact getElem?_set_self_of_some next
          obtain ⟨last, run, kept, network', ended⟩ := ih (s.stepStart net k) done distinct left
          rw [same] at network' ended
          refine ⟨last, run.head, kept.trans ?_, network', ended⟩
          rw [moved]
          rfl

/-- A queue that is given is consumed by a listener of the instance. -/
theorem stepStart_consumed {i : Instance} {x : Planned} {jobs : List Job} {n : Nat} {t : Intake}
    {network : σ}
    (passing : s.relay.starts[k]? = some (.passing
      (⟨i, .consume x.position x.subscription x.plan.queue⟩ :: jobs) n))
    (intake : KeyedList.get? i.name s.relay.intakes = some t)
    (answer : net.subscribe s.network i.name x.subscription x.plan.queue = (.ok (), network)) :
    (s.stepStart net k).network = network ∧ Concerns i.name s (s.stepStart net k)
      ∧ (s.stepStart net k).relay.starts[k]? = some (.passing jobs (n + 1))
      ∧ KeyedList.get? i.name (s.stepStart net k).relay.intakes
        = some (t.consume x.subscription x.plan.queue) := by
  obtain ⟨same, moved⟩ := stepStart_done passing (perform_consume answer) rfl
  have moved : (s.stepStart net k).relay = (s.relay.setIntake i.name
      (t.consume x.subscription x.plan.queue)).setStart k (.passing jobs (n + 1)) := by
    rw [moved, Relay.perform, intake]
    rfl
  refine ⟨same, .of_setIntake moved, ?_, ?_⟩
  · rw [moved]
    exact getElem?_set_self_of_some passing
  · rw [moved]
    show KeyedList.get? i.name (KeyedList.put i.name _ _) = _
    rw [KeyedList.get?_put, if_pos rfl]

/-- A queue that is refused leaves everything as it was. -/
theorem stepStart_unconsumed {i : Instance} {x : Planned} {jobs : List Job} {n : Nat}
    {network : σ} {f : Failure}
    (passing : s.relay.starts[k]? = some (.passing
      (⟨i, .consume x.position x.subscription x.plan.queue⟩ :: jobs) n))
    (answer : net.subscribe s.network i.name x.subscription x.plan.queue = (.error f, network)) :
    (s.stepStart net k).network = network
      ∧ (s.stepStart net k).relay = { s.relay with starts := (s.stepStart net k).relay.starts }
      ∧ (s.stepStart net k).relay.starts[k]? = some (.passing jobs n) := by
  obtain ⟨same, moved⟩ := stepStart_failed passing (perform_consume answer) rfl
  rw [Job.filter_consume] at moved
  refine ⟨same, by rw [moved]; rfl, ?_⟩
  rw [moved]
  exact getElem?_set_self_of_some passing

/-- The queues of an instance are consumed one after another. -/
theorem run_consumes (net : Network σ) {i : Instance} {rest : List Job} (todo : List Planned) :
    ∀ (s : RelaySession σ) (n : Nat) (t : Intake),
      s.relay.starts[k]? = some (.passing (Job.consumes i todo ++ rest) n) →
      KeyedList.get? i.name s.relay.intakes = some t →
      ∃ last, RunsIn net k todo.length s last ∧ Concerns i.name s last
        ∧ last.network = (subscribeAll net i.name s.network (todo.map Planned.source)).2
        ∧ last.relay.starts[k]? = some (.passing rest
          (n + (subscribeAll net i.name s.network (todo.map Planned.source)).1.length))
        ∧ KeyedList.get? i.name last.relay.intakes
          = some (t.consumeAll
            (subscribeAll net i.name s.network (todo.map Planned.source)).1) := by
  induction todo with
  | nil => exact fun s n t passing intake => ⟨s, .refl s, .refl i.name s, rfl, passing, intake⟩
  | cons x todo ih =>
      intro s n t passing intake
      have sources : (x :: todo).map Planned.source
          = (x.subscription, x.plan.queue) :: todo.map Planned.source := rfl
      rw [sources]
      cases answer : net.subscribe s.network i.name x.subscription x.plan.queue with
      | mk result network =>
      cases result with
      | ok value =>
          rw [subscribeAll_given answer]
          obtain ⟨same, apart, left, begun⟩ := stepStart_consumed passing intake answer
          obtain ⟨last, run, others, network', ended, intake'⟩ := ih _ _ _ left begun
          rw [same] at network' ended intake'
          refine ⟨last, run.head, apart.trans others, network', ?_, intake'⟩
          rw [ended, List.length_cons, Nat.add_right_comm, Nat.add_assoc]
      | error f =>
          rw [subscribeAll_refused answer]
          obtain ⟨same, unchanged, left⟩ := stepStart_unconsumed passing answer
          have intake : KeyedList.get? i.name (s.stepStart net k).relay.intakes = some t := by
            rw [unchanged]
            exact intake
          obtain ⟨last, run, others, network', ended, intake'⟩ := ih _ _ _ left intake
          rw [same] at network' ended intake'
          exact ⟨last, run.head, (Concerns.of_starts i.name unchanged).trans others, network',
            ended, intake'⟩

/-- Once an instance has its channel, its other jobs come to the same as setting
up its subscriptions and consuming those that were set up. -/
theorem run_connected {t : RelaySession σ} {i : Instance} {c : ConsumerRole} {rest : List Job}
    {n : Nat} (others : ∀ j ∈ rest, j.owner.name ≠ i.name)
    (passing : s.relay.starts[k]? = some (.passing (Job.ofConsumer i c ++ rest) n))
    (connected : s.perform net ⟨i, .connect⟩ = (t, some (.ok ()))) :
    ∃ last, RunsIn net k (Job.ofConsumer i c).length s last ∧ Concerns i.name t last
      ∧ last.network = (c.begin net i.name t.network).2
      ∧ last.relay.starts[k]?
        = some (.passing rest (n + (c.begin net i.name t.network).1.length))
      ∧ KeyedList.get? i.name last.relay.intakes
        = some (Intake.consumeAll
          { permits := i.dispatchConcurrency.toNat, cancelled := s.relay.cancelled }
          (c.begin net i.name t.network).1) := by
  rw [Job.ofConsumer_eq] at passing ⊢
  obtain ⟨starts, -, cancelled, -⟩ := channel_opened connected
  obtain ⟨same, moved⟩ := stepStart_done passing connected starts
  have jobs : (s.stepStart net k).relay.starts[k]? = some (.passing
      (Job.declares i (planned c.settings 0 c.subscriptions)
        ++ Job.consumes i ([] ++ planned c.settings 0 c.subscriptions) ++ rest) n) := by
    rw [moved]
    exact getElem?_set_self_of_some (starts ▸ passing)
  have fresh : KeyedList.get? i.name (s.stepStart net k).relay.intakes = some
      { permits := i.dispatchConcurrency.toNat, cancelled := s.relay.cancelled } := by
    rw [moved, ← cancelled]
    show KeyedList.get? i.name (KeyedList.put i.name _ _) = _
    rw [KeyedList.get?_put, if_pos rfl]
  obtain ⟨middle, declared, unchanged, network, left⟩ :=
    run_declares net others _ _ [] (positions_nodup c.settings 0 c.subscriptions) jobs
  have intake : KeyedList.get? i.name middle.relay.intakes = some
      { permits := i.dispatchConcurrency.toNat, cancelled := s.relay.cancelled } := by
    rw [unchanged]
    exact fresh
  obtain ⟨last, consumed, apart, network', ended, intake⟩ :=
    run_consumes net _ middle _ _ left intake
  obtain ⟨sources, channel⟩ :=
    declareAll_eq (net.channel i.name) i.name c.settings c.subscriptions 0 t.network
  have whole : c.begin net i.name t.network = subscribeAll net i.name middle.network
      (([] ++ (installAll (net.channel i.name) (s.stepStart net k).network
        (planned c.settings 0 c.subscriptions)).1).map Planned.source) := by
    unfold ConsumerRole.begin ConsumerRole.declare
    simp only [sources, channel, network, same, List.nil_append]
  have concerns : Concerns i.name t last :=
    ((Concerns.of_setIntake moved).trans (.of_starts i.name unchanged)).trans apart
  have fewer := length_installAll (net.channel i.name) (s.stepStart net k).network
    (planned c.settings 0 c.subscriptions)
  rw [whole]
  refine ⟨last, ((declared.trans consumed).mono ?_).head, concerns, network', ended, intake⟩
  rw [List.nil_append, List.length_append, Job.declares, Job.consumes, List.length_map,
    List.length_map]
  omega

/-- The same, without the count of the moves and without the other instances. -/
theorem run_instance {t : RelaySession σ} {i : Instance} {c : ConsumerRole} {rest : List Job}
    {n : Nat} (others : ∀ j ∈ rest, j.owner.name ≠ i.name)
    (passing : s.relay.starts[k]? = some (.passing (Job.ofConsumer i c ++ rest) n))
    (connected : s.perform net ⟨i, .connect⟩ = (t, some (.ok ()))) :
    ∃ last, Runs net k s last
      ∧ last.network = (c.begin net i.name t.network).2
      ∧ last.relay.starts[k]?
        = some (.passing rest (n + (c.begin net i.name t.network).1.length))
      ∧ KeyedList.get? i.name last.relay.intakes
        = some (Intake.consumeAll
          { permits := i.dispatchConcurrency.toNat, cancelled := s.relay.cancelled }
          (c.begin net i.name t.network).1) := by
  obtain ⟨last, run, -, rest⟩ := run_connected others passing connected
  exact ⟨last, run.runs, rest⟩

end RelaySession

end Courier
