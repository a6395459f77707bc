/-
What happens in a session is a run. A session brings a request as far as it
comes, through the broker of each instance and in one go; a run goes move by
move, and operation by operation. This file says that the one is a case of the
other (`Reachable.kept`): however a session goes on, with whatever network, a
ledger can be kept of it.

Between two steps of a session no start is in the midst of a plan; what the
ledger has as logged the session has logged, and what it has as accepted the
brokers accepted, in the same order (`Keeps`). A network need not remember what
it accepted, so the second is said of those that do (`Network.Records`); any
network does when it is told to (`Network.recording`).

Two of the steps are more than a move of the relay: calls for connections go on
in a session of their own, each move of which is one of the relay
(`after_move`), and the plan of a job is installed in one step, which is its
operations accepted one after another up to the first that fails
(`run_of_install`).
-/
import Courier.Proofs.Relay.Ledgers
import Courier.Relay.Session

namespace Courier

open Courier.Topology (Operation Plan)

variable {σ : Type} {b : Blueprint} {l : Ledger} {r : Relay} {net : Network σ}
  {history : σ → List (String × Operation)}

-- ================================================ statement vocabulary

/-- The state of a network tells which operations the brokers accepted, each with the name
of its instance. -/
structure Network.Records (net : Network σ) (history : σ → List (String × Operation)) :
    Prop where
  accepted : ∀ state name op, (net.ask state name (.perform op)).1 = true →
    history (net.ask state name (.perform op)).2 = history state ++ [(name, op)]
  kept : ∀ state name request, (history state).Sublist (history (net.ask state name request).2)

/-- A network, told to record what it accepts. -/
def Network.recording (net : Network σ) : Network (σ × List (String × Operation)) where
  ask state name request :=
    let (ok, network) := net.ask state.1 name request
    let accepted := match request with
      | .perform op => if ok then [(name, op)] else []
      | _ => []
    (ok, network, state.2 ++ accepted)
  reason := net.reason

/-- A ledger is kept of a session: what happened to its relay is a run, in which no start
is in the midst of a plan, and the ledger has nothing that was not logged or accepted. -/
structure RelaySession.Keeps (b : Blueprint) (history : σ → List (String × Operation))
    (s : RelaySession σ) (l : Ledger) : Prop where
  run : Relay.Run b l s.relay
  current : ∀ k, l.current k = []
  logs : l.logs.Sublist s.logs
  accepted : l.accepted.Sublist (history s.network)

/-- A ledger can be kept of a session. -/
def RelaySession.Kept (b : Blueprint) (history : σ → List (String × Operation))
    (s : RelaySession σ) : Prop :=
  ∃ l, Keeps b history s l

-- ========================================================= the records

namespace Network

/-- Whatever is asked, a recording network records. -/
theorem records_recording (net : Network σ) : net.recording.Records Prod.snd where
  accepted state name op ok := by
    have granted : (net.ask state.1 name (.perform op)).1 = true := ok
    show state.2 ++ (if (net.ask state.1 name (.perform op)).1 then [(name, op)] else []) = _
    rw [if_pos granted]
  kept _ _ _ := List.sublist_append_left _ _

/-- Asking for deliveries forgets nothing. -/
theorem Records.subscribe (records : net.Records history) (state : σ) (name : String)
    (sub : Subscription) (queue : String) :
    (history state).Sublist (history (net.subscribe state name sub queue).2) := by
  have limited := records.kept state name (.prefetch sub.maxParallelism)
  unfold Network.subscribe
  split
  next same =>
    rw [same] at limited
    exact limited
  next state' same =>
    rw [same] at limited
    have asked := limited.trans (records.kept state' name (.consume queue))
    split
    all_goals
      next same =>
        rw [same] at asked
        exact asked

end Network

-- ================================================= plans over a channel

/-- What a job came to, with those operations accepted. -/
def Job.EndsBy (j : Job) (accepted : List (String × Operation)) : Except Failure Unit → Prop
  | .ok () => j.IsDoneBy accepted
  | .error f => j.IsStoppedBy accepted f

/-- A ledger that differs from another one in what start `k` is at, and in what
was accepted. -/
structure Ledger.Beside (l l' : Ledger) (k : Nat) : Prop where
  current : ∀ k' ≠ k, l'.current k' = l.current k'
  logs : l'.logs = l.logs

namespace Relay

/-- Installing a plan over a channel is a run: the operations are accepted
one after another, and the result says whether it came to the end. -/
theorem run_of_install {j : Job} {rest : List Job} {k n p : Nat} {s : Subscription}
    {plan : Plan} (records : net.Records history) (state : σ) (run : Run b l r)
    (before : r.starts[k]? = some (.passing (j :: rest) n)) (task : j.task = .declare p s plan)
    (done : List Operation) {todo : List Operation} (ops : plan.operations = done ++ todo)
    (current : l.current k = done.map (j.owner.name, ·))
    (accepted : l.accepted.Sublist (history state)) :
    ∃ l', Run b l' r ∧ l.Beside l' k
      ∧ l'.accepted.Sublist (history ((net.channel j.owner.name).install state todo).2)
      ∧ j.EndsBy (l'.current k) ((net.channel j.owner.name).install state todo).1 := by
  induction todo generalizing l done state with
  | nil =>
      refine ⟨l, run, ⟨fun _ _ => rfl, rfl⟩, accepted, ?_⟩
      rw [List.append_nil] at ops
      simp only [Topology.Channel.install, Job.EndsBy, Job.IsDoneBy, task, Job.operations]
      rw [ops, current]
  | cons op todo ih =>
      have next : plan.operations[(l.current k).length]? = some op := by
        rw [current, ops, List.length_map, List.getElem?_append_right (Nat.le_refl _), Nat.sub_self]
        rfl
      have stops : ∀ f, op.FailsWith f → j.EndsBy (l.current k) (.error f) := by
        intro f fails
        simp only [Job.EndsBy, Job.IsStoppedBy, task]
        exact ⟨op, next, fails⟩
      have kept := records.kept state j.owner.name (.perform op)
      have recorded := records.accepted state j.owner.name op
      unfold Topology.Channel.install Topology.Channel.perform
      cases named : op.call with
      | error f => exact ⟨l, run, ⟨fun _ _ => rfl, rfl⟩, accepted, stops f (.inl named)⟩
      | ok call =>
          cases answer : (net.channel j.owner.name).ask state op with
          | mk ok state' =>
              rw [show net.ask state j.owner.name (.perform op) = (ok, state') from answer]
                at kept recorded
              cases ok with
              | false =>
                  exact ⟨l, run, ⟨fun _ _ => rfl, rfl⟩, accepted.trans kept,
                    stops _ (.inr ⟨call, named, rfl⟩)⟩
              | true =>
                  have more : (l.accept k j.owner.name op).accepted.Sublist (history state') := by
                    rw [recorded rfl]
                    exact accepted.append (List.Sublist.refl _)
                  obtain ⟨l', run, beside, accepted, ends⟩ :=
                    ih state' (run.accept before task next ⟨call, named⟩) (done ++ [op])
                      (by rw [ops, List.append_cons])
                      (by rw [Ledger.current_accept_self, current, List.map_append]; rfl) more
                  refine ⟨l', run, ⟨fun k' other => ?_, beside.logs⟩, accepted, ends⟩
                  rw [beside.current k' other, Ledger.current_accept_of_ne l other]

/-- What happens to the connections of a relay happens to nothing else of it. -/
theorem step_connect (r : Relay) {m : ConnectionMove} (noDisposal : m ≠ .dispose) :
    r.step (.connect m) = { r with connections := r.connections.step m } := by
  have moved : r.step? (.connect m)
      = (r.connections.step? m).map fun cs => { r with connections := cs } := by
    rw [Option.map_eq_bind]
    cases m with
    | dispose => exact absurd rfl noDisposal
    | _ => rfl
  unfold step Connections.step
  rw [moved]
  cases r.connections.step? m <;> rfl

theorem step?_jobDone {j : Job} {rest : List Job} {k n : Nat}
    (before : r.starts[k]? = some (.passing (j :: rest) n)) :
    r.step? (.jobDone k) = some (r.step (.jobDone k)) := by
  simp [step, step?, jobDone, before]

theorem step?_jobFailed {j : Job} {rest : List Job} {k n : Nat} (f : Failure)
    (before : r.starts[k]? = some (.passing (j :: rest) n)) :
    r.step? (.jobFailed k f) = some (r.step (.jobFailed k f)) := by
  simp [step, step?, jobFailed, before]

end Relay

namespace RelaySession

variable {s : RelaySession σ} {k : Nat} {i : Instance}

/-- Start `k` did a job and has not gone on yet: of the session that came of it there is a
ledger in which the job has come to what the answer says. -/
structure Performed (b : Blueprint) (history : σ → List (String × Operation))
    (s : RelaySession σ) (k : Nat) (j : Job)
    (answered : RelaySession σ × Option (Except Failure Unit)) (l : Ledger) : Prop where
  run : Relay.Run b l answered.1.relay
  others : ∀ k' ≠ k, l.current k' = []
  logs : l.logs.Sublist answered.1.logs
  accepted : l.accepted.Sublist (history answered.1.network)
  starts : answered.1.relay.starts = s.relay.starts
  ends : ∀ result, answered.2 = some result → j.EndsBy (l.current k) result
  waits : answered.2 = none → l.current k = []

-- ========================================================== single moves

/-- A move that ends no job is one of the run; where it is not possible, nothing
happens. -/
theorem Kept.move (kept : s.Kept b history) {m : RelayMove} (noJob : ¬ m.EndsJob) :
    (s.move m).Kept b history := by
  obtain ⟨l, run, current, logs, accepted⟩ := kept
  unfold RelaySession.move Relay.step
  cases step : s.relay.step? m with
  | none => exact ⟨l, run, current, logs.trans (List.sublist_append_left _ _), accepted⟩
  | some r' => exact ⟨_, run.other noJob step, current, logs.append_right _, accepted⟩

/-- What only asks the brokers, or logs more, is no part of a run. -/
theorem Kept.aside {s' : RelaySession σ} (kept : s.Kept b history) (relay : s'.relay = s.relay)
    (logs : s.logs.Sublist s'.logs)
    (more : (history s.network).Sublist (history s'.network)) : s'.Kept b history := by
  obtain ⟨l, run, current, logged, accepted⟩ := kept
  exact ⟨l, relay ▸ run, current, logged.trans logs, accepted.trans more⟩

-- ========================================================== connections

/-- A session, its connections having been used. -/
def after (s : RelaySession σ) (cs : ConnectionSession σ) : RelaySession σ :=
  { s with
    relay := { s.relay with connections := cs.connections }
    network := cs.network
    logs := s.logs ++ cs.logs }

/-- But for a new disposal, what happens to the connections is a move of the
relay. -/
theorem after_move (s : RelaySession σ) (cs : ConnectionSession σ) {m : ConnectionMove}
    (noDisposal : m ≠ .dispose) : s.after (cs.move m) = (s.after cs).move (.connect m) := by
  unfold RelaySession.move
  rw [Relay.step_connect _ noDisposal]
  unfold after ConnectionSession.move
  rw [← List.append_assoc]
  rfl

/-- Getting a channel leaves the starts alone. -/
theorem starts_channel (s : RelaySession σ) (net : Network σ) (i : Instance)
    (refusal : LogEvent) : (s.channel net i refusal).1.relay.starts = s.relay.starts := by
  have used : (s.withConnections (·.get net i)).1.relay.starts = s.relay.starts := rfl
  unfold RelaySession.channel RelaySession.ask
  split
  next same => rw [same] at used; exact used
  next same => rw [same] at used; exact used
  next same =>
    rw [same] at used
    split
    all_goals
      next asked =>
        cases congrArg Prod.snd asked
        exact used

namespace Kept

variable {cs : ConnectionSession σ}

/-- A move of the connections is one of the relay. -/
theorem connect (kept : (s.after cs).Kept b history) {m : ConnectionMove}
    (noDisposal : m ≠ .dispose) : (s.after (cs.move m)).Kept b history := by
  rw [after_move s cs noDisposal]
  exact kept.move id

theorem runDisposal {d : Nat} (kept : (s.after cs).Kept b history) (n : Nat) :
    (s.after (cs.runDisposal d n)).Kept b history := by
  induction n generalizing cs with
  | zero => exact kept
  | succ n ih => exact ih (kept.connect nofun)

/-- A use of the connections that keeps the ledger from wherever it begins. -/
theorem withConnections {α : Type} (kept : s.Kept b history)
    (use : ConnectionSession σ → ConnectionSession σ × α)
    (keeps : ∀ cs, (s.after cs).Kept b history → (s.after (use cs).1).Kept b history) :
    (s.withConnections use).1.Kept b history :=
  keeps { connections := s.relay.connections, network := s.network }
    (kept.aside rfl (List.sublist_append_left _ _) (List.Sublist.refl _))

section records

variable (records : net.Records history)
include records

/-- What the broker answers to a call is a move of the call. -/
theorem askCall (kept : (s.after cs).Kept b history) (i : Instance) (request : Request) :
    (s.after (cs.ask net k i request)).Kept b history := by
  have more := records.kept cs.network i.name request
  unfold ConnectionSession.ask
  split
  all_goals
    next network same =>
      rw [same] at more
      have asked : (s.after { cs with network := network }).Kept b history :=
        kept.aside rfl (List.Sublist.refl _) more
      exact asked.connect nofun

theorem stepCall (kept : (s.after cs).Kept b history) :
    (s.after (cs.stepCall net k)).Kept b history := by
  unfold ConnectionSession.stepCall
  split
  next => exact kept.askCall records _ _
  next => exact kept.askCall records _ _
  next =>
    split
    next => exact kept.askCall records _ _
    next => exact kept.connect nofun
  next => exact kept.connect nofun

theorem runCall (kept : (s.after cs).Kept b history) (n : Nat) :
    (s.after (cs.runCall net k n)).Kept b history := by
  induction n generalizing cs with
  | zero => exact kept
  | succ n ih => exact ih (kept.stepCall records)

/-- A call for a connection, from its beginning to its end. -/
theorem get (kept : (s.after cs).Kept b history) (i : Instance) :
    (s.after (cs.get net i).1).Kept b history := by
  have called := kept.connect (m := .call i) nofun
  unfold ConnectionSession.get ConnectionSession.finishCall
  dsimp only
  split
  next => exact called.runCall records _
  next => exact called

theorem ask (kept : s.Kept b history) (name : String) (request : Request) :
    (s.ask net name request).2.Kept b history :=
  kept.aside rfl (List.Sublist.refl _) (records.kept _ _ _)

/-- Getting a channel is a call for the connection, and one question more. -/
theorem channel (kept : s.Kept b history) (i : Instance) (refusal : LogEvent) :
    (s.channel net i refusal).1.Kept b history := by
  have got := kept.withConnections (·.get net i) fun _ kept => kept.get records i
  unfold RelaySession.channel
  split
  next same =>
    rw [same] at got
    exact got
  next same =>
    rw [same] at got
    exact got
  next same =>
    rw [same] at got
    have asked := got.ask records i.name .openChannel
    split
    next same =>
      rw [same] at asked
      exact asked
    next same =>
      rw [same] at asked
      exact asked.aside rfl (List.sublist_append_left _ _) (List.Sublist.refl _)

-- ================================================================ sends

/-- The channel for a message is made or not; either is a move of the publisher. -/
theorem makeChannel (kept : s.Kept b history) (posting : Posting) :
    (s.makeChannel net k posting).Kept b history := by
  unfold RelaySession.makeChannel
  split
  next => exact kept
  next i _ =>
    have reached := kept.channel records i (Publisher.channelLog i.name)
    split
    next same =>
      rw [same] at reached
      exact reached.move id
    next same =>
      rw [same] at reached
      exact reached.move id
    next same =>
      rw [same] at reached
      exact reached

/-- The broker takes a message or not; either is a move of the publisher. -/
theorem handOver (kept : s.Kept b history) (posting : Posting) (body : List UInt8) :
    (s.handOver net k posting body).Kept b history := by
  have asked := kept.ask records posting.instanceName
    (.publish (posting.publication s.trace body))
  unfold RelaySession.handOver
  split
  all_goals
    next same =>
      rw [same] at asked
      exact asked.move id

/-- A message goes on. -/
theorem stepSend (kept : s.Kept b history) : (s.stepSend net k).Kept b history := by
  unfold RelaySession.stepSend
  split
  next =>
    split
    next => exact kept.makeChannel records _
    next => exact kept.move id
  next =>
    split
    next => exact kept.handOver records _ _
    next => exact kept.move id
  next => exact kept.move id

-- ================================================================= jobs

/-- The job that a start is at is done, one case for each kind of job. -/
theorem perform {j : Job} {rest : List Job} {n : Nat} (kept : s.Kept b history)
    (before : s.relay.starts[k]? = some (.passing (j :: rest) n)) :
    ∃ l, Performed b history s k j (s.perform net j) l := by
  unfold RelaySession.perform
  cases task : j.task with
  | connect =>
      obtain ⟨l, run, current, logs, accepted⟩ := kept.channel records j.owner consumerChannelLog
      refine ⟨l, run, fun k' _ => current k', logs, accepted, starts_channel s .., ?_,
        fun _ => current k⟩
      intro result _
      cases result <;> simp [Job.EndsBy, Job.IsDoneBy, Job.IsStoppedBy, task]
  | declare p sub plan =>
      obtain ⟨l, run, current, logs, accepted⟩ := kept
      obtain ⟨l', run, beside, accepted, ends⟩ :=
        Relay.run_of_install records s.network run before task [] rfl (current k) accepted
      refine ⟨l', run, fun k' other => (beside.current k' other).trans (current k'),
        beside.logs ▸ logs, accepted, rfl, ?_, nofun⟩
      intro result answered
      cases answered
      exact ends
  | consume p sub queue =>
      obtain ⟨l, run, current, logs, accepted⟩ := kept
      refine ⟨l, run, fun k' _ => current k', logs,
        accepted.trans (records.subscribe s.network j.owner.name sub queue), rfl, ?_,
        fun _ => current k⟩
      intro result _
      cases result <;> simp [Job.EndsBy, Job.IsDoneBy, Job.IsStoppedBy, task]

/-- A start goes on: with its next job if it is in its pass. -/
theorem stepStart (kept : s.Kept b history) : (s.stepStart net k).Kept b history := by
  unfold RelaySession.stepStart
  split
  next j rest n before =>
    obtain ⟨l, performed⟩ := kept.perform records before
    have left := Ledger.forall_current_leave (P := (· = [])) rfl performed.others
    split
    next s' same =>
      rw [same] at performed
      have before : s'.relay.starts[k]? = some (.passing (j :: rest) n) :=
        performed.starts ▸ before
      exact ⟨_, performed.run.done before (performed.ends _ rfl) (Relay.step?_jobDone before),
        left _ _, performed.logs.append_right _, performed.accepted⟩
    next s' f same =>
      rw [same] at performed
      have before : s'.relay.starts[k]? = some (.passing (j :: rest) n) :=
        performed.starts ▸ before
      exact ⟨_, performed.run.failed before (performed.ends _ rfl)
        (Relay.step?_jobFailed f before), left _ _, performed.logs.append_right _,
        performed.accepted⟩
    next s' same =>
      rw [same] at performed
      refine ⟨l, performed.run, fun k' => ?_, performed.logs, performed.accepted⟩
      by_cases same : k' = k
      · rw [same]
        exact performed.waits rfl
      · exact performed.others k' same
  next => exact kept.move id

end records

-- ============================================================= stopping

/-- Every listener looks at its token, each by a move of its own. -/
theorem lookAll (kept : s.Kept b history) : s.lookAll.Kept b history := by
  unfold RelaySession.lookAll
  refine List.foldlRecOn _ _ kept fun s kept entry _ => ?_
  exact List.foldlRecOn _ _ kept fun s kept n _ => kept.move id

/-- A shutdown goes on. -/
theorem stepShutdown (kept : s.Kept b history) : (s.stepShutdown k).Kept b history := by
  unfold RelaySession.stepShutdown
  split
  next => exact kept.lookAll.move id
  next d _ =>
    have disposed := kept.withConnections
      (fun cs => (cs.runDisposal d (cs.connections.index.length + 3), ()))
      fun _ kept => kept.runDisposal _
    exact disposed.move id
  next => exact kept.move id

end Kept

-- ============================================================= sessions

/-- The sessions that come about with the relay of a blueprint. What is sent,
started or shut down goes on step by step; whatever else happens is a move. -/
inductive Reachable (net : Network σ) (b : Blueprint) : RelaySession σ → Prop where
  | new {s : RelaySession σ} : Relay.create b = some (.ok s.relay) → Reachable net b s
  | move {s : RelaySession σ} (m : RelayMove) :
    Reachable net b s → ¬ m.EndsJob → Reachable net b (s.move m)
  | stepSend {s : RelaySession σ} (k : Nat) :
    Reachable net b s → Reachable net b (s.stepSend net k)
  | stepStart {s : RelaySession σ} (k : Nat) :
    Reachable net b s → Reachable net b (s.stepStart net k)
  | stepShutdown {s : RelaySession σ} (k : Nat) :
    Reachable net b s → Reachable net b (s.stepShutdown k)

/-- A ledger can be kept of every session. -/
theorem Reachable.kept (records : net.Records history) (reachable : Reachable net b s) :
    s.Kept b history := by
  induction reachable with
  | new created =>
      exact ⟨{}, .start created, fun _ => rfl, List.nil_sublist _, List.nil_sublist _⟩
  | move m _ noJob kept => exact kept.move noJob
  | stepSend k _ kept => exact kept.stepSend records
  | stepStart k _ kept => exact kept.stepStart records
  | stepShutdown k _ kept => exact kept.stepShutdown

namespace Reachable

-- The requests that a session takes are made of these steps.

theorem runSend (reachable : Reachable net b s) (k n : Nat) :
    Reachable net b (s.runSend net k n) := by
  induction n generalizing s with
  | zero => exact reachable
  | succ n ih => exact ih (reachable.stepSend k)

/-- All messages that can go on do. -/
theorem resume (reachable : Reachable net b s) : Reachable net b (s.resume net) :=
  List.foldlRecOn _ _ reachable fun _ reachable _ _ => reachable.runSend _ _

/-- A message is posted, and goes as far as it can. -/
theorem post (reachable : Reachable net b s) (posting : Posting) :
    Reachable net b (s.post net posting).1 :=
  (reachable.move (.publish (.post posting)) id).resume

theorem runStart (reachable : Reachable net b s) (k n : Nat) :
    Reachable net b (s.runStart net k n) := by
  induction n generalizing s with
  | zero => exact reachable
  | succ n ih => exact ih (reachable.stepStart k)

/-- The relay is started, and the pass is made as far as it goes. -/
theorem start (reachable : Reachable net b s) : Reachable net b (s.start net).1 :=
  ((reachable.move .start id).runStart _ _).resume

theorem runShutdown (reachable : Reachable net b s) (k n : Nat) :
    Reachable net b (s.runShutdown k n) := by
  induction n generalizing s with
  | zero => exact reachable
  | succ n ih => exact ih (reachable.stepShutdown k)

/-- The relay is shut down. -/
theorem shutdown (reachable : Reachable net b s) : Reachable net b s.shutdown.1 :=
  (reachable.move .shutdown id).runShutdown _ _

/-- The token is cancelled, and every listener looks at it. -/
theorem cancelToken (reachable : Reachable net b s) : Reachable net b s.cancelToken := by
  unfold RelaySession.cancelToken RelaySession.lookAll
  refine List.foldlRecOn _ _ (reachable.move .cancelToken id) fun s reachable entry _ => ?_
  exact List.foldlRecOn _ _ reachable fun s reachable n _ => reachable.move _ id

end Reachable

end RelaySession

end Courier
