/-
A whole start, told as a pass over the instances (`beginAll`): one after
another gets a connection and a channel over it, and sets up and consumes its
subscriptions; one that gets no channel consumes nothing. A session comes to
the same job by job (`run_all`), within the moves that it grants a start
(`start_eq_beginAll`).

Of what a start changes, an instance has a cell and an intake under its own
name. So the induction over the instances carries with it that those ahead
have neither yet (`Untouched`), and that those behind keep theirs.
-/
import Courier.Proofs.Relay.Passes
import Courier.Proofs.Startup.Instance
import Courier.Proofs.Startup.Linking

namespace Courier

-- ========================================================= told as a whole

namespace Instance

variable {σ : Type}

/-- Gets a channel for an instance, over a connection of its own. -/
def reach (i : Instance) (net : Network σ) (s : σ) : Bool × σ :=
  match i.link net s with
  | (true, s) => net.ask s i.name .openChannel
  | (false, s) => (false, s)

/-- Begins to consume for an instance: what is consumed then, and the network
after it. -/
def begin (i : Instance) (net : Network σ) (s : σ) : List (Subscription × String) × σ :=
  match i.consumer with
  | none => ([], s)
  | some c =>
    match i.reach net s with
    | (true, s) => c.begin net i.name s
    | (false, s) => ([], s)

end Instance

/-- Begins to consume for instances, one after another. -/
def beginAll {σ : Type} (net : Network σ) (s : σ) :
    List Instance → List (Instance × List (Subscription × String)) × σ
  | [] => ([], s)
  | i :: rest =>
    let (sources, s) := i.begin net s
    let (others, s) := beginAll net s rest
    ((i, sources) :: others, s)

/-- How many queues are consumed. -/
def countAll (begun : List (Instance × List (Subscription × String))) : Nat :=
  (begun.map (·.2.length)).sum

/-- The queues that an intake has listeners at, each with its subscription. -/
def Intake.sources (t : Intake) : List (Subscription × String) :=
  t.readers.map fun r => (r.subscription, r.queue)

/-- The queues that there are listeners at for an instance. -/
def Relay.listeners (r : Relay) (name : String) : List (Subscription × String) :=
  match KeyedList.get? name r.intakes with
  | some t => t.sources
  | none => []

/-- What is begun to consume joins what was consumed. -/
theorem Intake.sources_consumeAll (t : Intake) (sources : List (Subscription × String)) :
    (t.consumeAll sources).sources = t.sources ++ sources := by
  induction sources generalizing t with
  | nil => exact (List.append_nil _).symm
  | cons x rest ih =>
      obtain ⟨s, queue⟩ := x
      have one : (t.consume s queue).sources = t.sources ++ [(s, queue)] := List.map_append
      exact (ih (t.consume s queue)).trans (by rw [one, List.append_assoc]; rfl)

theorem Relay.listeners_of_begun {r : Relay} {name : String} {permits : Nat} {cancelled : Bool}
    {sources : List (Subscription × String)}
    (begun : KeyedList.get? name r.intakes
      = some (Intake.consumeAll { permits := permits, cancelled := cancelled } sources)) :
    r.listeners name = sources := by
  unfold Relay.listeners
  rw [begun]
  exact Intake.sources_consumeAll _ sources

-- ============================================================ one instance

namespace Job

/-- Without a channel, nothing of the instance is left. -/
theorem filter_connect {i : Instance} {own rest : List Job} (mine : ∀ j ∈ own, j.owner = i)
    (others : ∀ j ∈ rest, j.owner.name ≠ i.name) :
    (own ++ rest).filter (fun other => !other.buildsOn ⟨i, .connect⟩) = rest := by
  have gone : own.filter (fun other => !other.buildsOn ⟨i, .connect⟩) = [] := by
    refine List.filter_eq_nil_iff.2 fun j member => ?_
    simp [buildsOn, mine j member]
  have kept : rest.filter (fun other => !other.buildsOn ⟨i, .connect⟩) = rest := by
    refine List.filter_eq_self.2 fun j member => ?_
    simp [buildsOn, others j member]
  rw [List.filter_append, gone, kept, List.nil_append]

end Job

namespace RelaySession

variable {σ : Type} {net : Network σ} {k n : Nat} {s s' : RelaySession σ} {i : Instance}
  {rest : List Job}

/-- Nothing was begun for an instance of this name. -/
structure Untouched (s : RelaySession σ) (name : String) : Prop where
  cell : KeyedList.get? name s.relay.connections.index = none
  intake : KeyedList.get? name s.relay.intakes = none

theorem Untouched.listeners {name : String} (untouched : s.Untouched name) :
    s.relay.listeners name = [] := by
  unfold Relay.listeners
  rw [untouched.intake]

/-- What concerns one instance leaves another one untouched. -/
theorem Untouched.aside {name other : String} (untouched : s.Untouched other)
    (concerns : Concerns name s s') (different : other ≠ name) : s'.Untouched other :=
  ⟨(concerns.cells other different).trans untouched.cell,
    (concerns.intakes other different).trans untouched.intake⟩

/-- The first channel of an instance comes to what reaching the instance comes to. -/
theorem channel_eq_reach (net : Network σ) (s : RelaySession σ) (i : Instance)
    (refusal : LogEvent) (undisposed : s.relay.connections.disposed = false)
    (new : KeyedList.get? i.name s.relay.connections.index = none) :
    ∃ t result, s.channel net i refusal = (t, some result)
      ∧ result.isOk = (i.reach net s.network).1 ∧ t.network = (i.reach net s.network).2
      ∧ t.relay.starts = s.relay.starts ∧ t.relay.intakes = s.relay.intakes
      ∧ Concerns i.name s t := by
  obtain ⟨cs, result, got, outcome, network, undisposed', index⟩ :=
    ConnectionSession.get_eq_link net
      { connections := s.relay.connections, network := s.network } undisposed new
  have concerns : ∀ t : RelaySession σ,
      t.relay = { s.relay with connections := cs.connections } → Concerns i.name s t := by
    intro t same
    refine ⟨by rw [same], by rw [same, undisposed]; exact undisposed', fun other different => ?_,
      fun other _ => by rw [same]⟩
    rw [same]
    show KeyedList.get? other cs.connections.index = _
    rw [index, KeyedList.get?_put, if_neg different]
  unfold channel withConnections Instance.reach
  cases linked : i.link net s.network with
  | mk accepted after =>
  simp only [linked] at outcome network
  simp only [got]
  cases result with
  | error f =>
      obtain rfl : accepted = false := outcome.symm
      exact ⟨_, _, rfl, rfl, network, rfl, rfl, concerns _ rfl⟩
  | ok link =>
      obtain rfl : accepted = true := outcome.symm
      cases answer : net.ask after i.name .openChannel with
      | mk opened last =>
      simp only [RelaySession.ask, log, network, answer]
      cases opened with
      | true => exact ⟨_, _, rfl, rfl, rfl, rfl, rfl, concerns _ rfl⟩
      | false => exact ⟨_, _, rfl, rfl, rfl, rfl, rfl, concerns _ rfl⟩

/-- Without a channel, the pass goes on after all jobs of the instance. -/
theorem run_unconnected {t : RelaySession σ} {c : ConsumerRole} {f : Failure}
    (others : ∀ j ∈ rest, j.owner.name ≠ i.name)
    (passing : s.relay.starts[k]? = some (.passing (Job.ofConsumer i c ++ rest) n))
    (failed : s.perform net ⟨i, .connect⟩ = (t, some (.error f)))
    (starts : t.relay.starts = s.relay.starts) :
    ∃ last, RunsIn net k (Job.ofConsumer i c).length s last ∧ last.network = t.network
      ∧ last.relay = { t.relay with starts := last.relay.starts }
      ∧ last.relay.starts[k]? = some (.passing rest n) := by
  have next : s.relay.starts[k]? = some (.passing
      (⟨i, .connect⟩ :: ((Job.ofConsumer i c).tail ++ rest)) n) := passing
  obtain ⟨same, moved⟩ := stepStart_failed next failed starts
  rw [Job.filter_connect (fun j member => Job.owner_of_mem (List.mem_of_mem_tail member))
    others] at moved
  have one : 1 ≤ (Job.ofConsumer i c).length := Nat.succ_le_succ (Nat.zero_le _)
  refine ⟨s.stepStart net k, (RunsIn.refl _).head.mono one, same, by rw [moved]; rfl, ?_⟩
  rw [moved]
  exact getElem?_set_self_of_some (starts ▸ passing)

/-- The jobs of an instance come to the same as beginning to consume for it. -/
theorem run_ofInstance (net : Network σ) (others : ∀ j ∈ rest, j.owner.name ≠ i.name)
    (undisposed : s.relay.connections.disposed = false) (untouched : s.Untouched i.name)
    (passing : s.relay.starts[k]? = some (.passing (Job.ofInstance i ++ rest) n)) :
    ∃ last, RunsIn net k (Job.ofInstance i).length s last ∧ Concerns i.name s last
      ∧ last.network = (i.begin net s.network).2
      ∧ last.relay.starts[k]? = some (.passing rest (n + (i.begin net s.network).1.length))
      ∧ last.relay.listeners i.name = (i.begin net s.network).1 := by
  unfold Job.ofInstance at passing ⊢
  unfold Instance.begin
  cases consumer : i.consumer with
  | none =>
      rw [consumer] at passing
      exact ⟨s, .refl s, .refl i.name s, rfl, passing, untouched.listeners⟩
  | some c =>
      rw [consumer] at passing
      obtain ⟨t, result, performed, outcome, network, starts, intakes, concerns⟩ :=
        channel_eq_reach net s i consumerChannelLog undisposed untouched.cell
      cases reached : i.reach net s.network with
      | mk opened after =>
      simp only [reached] at outcome network ⊢
      cases result with
      | ok value =>
          obtain rfl : opened = true := outcome.symm
          obtain ⟨last, run, apart, network', ended, begun⟩ :=
            run_connected others passing performed
          rw [network] at network' ended begun
          exact ⟨last, run, concerns.trans apart, network', ended,
            Relay.listeners_of_begun begun⟩
      | error f =>
          obtain rfl : opened = false := outcome.symm
          obtain ⟨last, run, network', unchanged, left⟩ :=
            run_unconnected others passing performed starts
          have unread : last.relay.intakes = s.relay.intakes := by
            rw [unchanged]
            exact intakes
          refine ⟨last, run, concerns.trans (.of_starts i.name unchanged),
            network'.trans network, left, ?_⟩
          unfold Relay.listeners
          rw [unread, untouched.intake]

-- =========================================================== all instances

/-- No job of other instances is one under this name. -/
theorem ofAll_apart {instances : List Instance} (fresh : i.name ∉ instances.map (·.name)) :
    ∀ j ∈ Job.all instances, j.owner.name ≠ i.name := by
  intro j member same
  obtain ⟨i', inside, c, -, own⟩ := Job.mem_all member
  rw [Job.owner_of_mem own] at same
  exact fresh (List.mem_map.2 ⟨i', inside, same⟩)

/-- The jobs of all instances come to the same as beginning to consume for one after
another. -/
theorem run_all (net : Network σ) (instances : List Instance) :
    ∀ (s : RelaySession σ) (n : Nat), (instances.map (·.name)).Nodup →
      s.relay.connections.disposed = false → (∀ i ∈ instances, s.Untouched i.name) →
      s.relay.starts[k]? = some (.passing (Job.all instances) n) →
      ∃ last, RunsIn net k (Job.all instances).length s last
        ∧ last.network = (beginAll net s.network instances).2
        ∧ last.relay.starts[k]?
          = some (.passing [] (n + countAll (beginAll net s.network instances).1))
        ∧ (∀ x ∈ (beginAll net s.network instances).1, last.relay.listeners x.1.name = x.2)
        ∧ last.relay.publisher = s.relay.publisher
        ∧ ∀ other, other ∉ instances.map (·.name) →
          KeyedList.get? other last.relay.intakes = KeyedList.get? other s.relay.intakes := by
  induction instances with
  | nil =>
      intro s n _ _ _ passing
      exact ⟨s, .refl s, rfl, passing, by simp [beginAll], rfl, fun _ _ => rfl⟩
  | cons i rest ih =>
      intro s n distinct undisposed untouched passing
      obtain ⟨fresh, distinct⟩ := List.nodup_cons.1 distinct
      obtain ⟨middle, run, concerns, network, left, listeners⟩ := run_ofInstance net
        (ofAll_apart fresh) undisposed (untouched i (List.mem_cons_self ..)) passing
      -- names are distinct, so nothing of this instance is found under another name
      have ahead : ∀ i' ∈ rest, middle.Untouched i'.name := fun i' member =>
        (untouched i' (List.mem_cons_of_mem _ member)).aside concerns
          fun same => fresh (List.mem_map.2 ⟨i', member, same⟩)
      obtain ⟨last, runs, network', ended, all, publisher, aside⟩ :=
        ih middle _ distinct (concerns.disposed.trans undisposed) ahead left
      rw [network] at network' ended all
      have behind : last.relay.listeners i.name = (i.begin net s.network).1 := by
        rw [← listeners]
        unfold Relay.listeners
        rw [aside i.name fresh]
      refine ⟨last, ?_, network', ?_, ?_, publisher.trans concerns.publisher,
        fun other different => ?_⟩
      · rw [show Job.all (i :: rest) = Job.ofInstance i ++ Job.all rest from rfl,
          List.length_append]
        exact run.trans runs
      · rw [ended, Nat.add_assoc]
        rfl
      · intro x member
        rcases List.mem_cons.1 member with rfl | later
        · exact behind
        · exact all x later
      · obtain ⟨other', elsewhere⟩ := not_or.1 (mt List.mem_cons.2 different)
        exact (aside other elsewhere).trans (concerns.intakes other other')

-- ========================================================== a whole start

/-- A start that goes on by itself. -/
theorem stepStart_advanced {r : Relay} (alone : s.stepStart net k = s.move (.advanceStart k))
    (goes : s.relay.advanceStart k = some r) :
    (s.stepStart net k).relay = r ∧ (s.stepStart net k).network = s.network := by
  rw [alone]
  exact ⟨by simp only [move, Relay.step, Relay.step?, goes, Option.getD_some], rfl⟩

/-- A start that has ended makes no move any more. -/
theorem stepStart_finished {result : Except Failure Nat}
    (ended : s.relay.starts[k]? = some (.finished result)) : s.stepStart net k = s := by
  simp [stepStart, ended, move, Relay.step, Relay.step?, Relay.advanceStart, Relay.logs,
    Relay.startLogs]

/-- A start that has ended goes on no more, however many moves it is granted. -/
theorem runStart_finished {result : Except Failure Nat}
    (ended : s.relay.starts[k]? = some (.finished result)) (moves : Nat) :
    s.runStart net k moves = s := by
  induction moves with
  | zero => rfl
  | succ moves ih =>
      show (s.stepStart net k).runStart net k moves = s
      rw [stepStart_finished ended]
      exact ih

theorem RunsIn.runStart_eq (run : RunsIn net k n s s') {result : Except Failure Nat}
    (ended : s'.relay.starts[k]? = some (.finished result)) : s.runStart net k n = s' := by
  obtain ⟨moves, within, rfl⟩ := run
  rw [← Nat.add_sub_cancel' within, runStart_add, runStart_finished ended]

/-- After its last job, a start lets publications through. -/
theorem stepStart_passed (net : Network σ)
    (passed : s.relay.starts[k]? = some (.passing [] n)) :
    (s.stepStart net k).relay
        = { s.relay with publisher := { s.relay.publisher with ready := true } }.setStart k
          (.reporting n)
      ∧ (s.stepStart net k).network = s.network := by
  refine stepStart_advanced (by simp only [stepStart, passed]) ?_
  simp only [Relay.advanceStart, passed]
  rfl

theorem stepStart_reporting (net : Network σ)
    (reporting : s.relay.starts[k]? = some (.reporting n)) :
    (s.stepStart net k).relay = s.relay.setStart k (.finished (.ok n))
      ∧ (s.stepStart net k).network = s.network := by
  refine stepStart_advanced (by simp only [stepStart, reporting]) ?_
  simp only [Relay.advanceStart, reporting]
  rfl

/-- With no job left, a start fires the signal and reports. -/
theorem run_passed (net : Network σ) (passed : s.relay.starts[k]? = some (.passing [] n)) :
    ∃ last, RunsIn net k 2 s last ∧ last.network = s.network
      ∧ last.relay.starts[k]? = some (.finished (.ok n))
      ∧ last.relay.publisher = { s.relay.publisher with ready := true }
      ∧ last.relay.intakes = s.relay.intakes := by
  obtain ⟨fired, network⟩ := stepStart_passed net passed
  have reporting : (s.stepStart net k).relay.starts[k]? = some (.reporting n) := by
    rw [fired]
    exact getElem?_set_self_of_some passed
  obtain ⟨ended, network'⟩ := stepStart_reporting net reporting
  refine ⟨_, (RunsIn.refl _).head.head, network'.trans network, ?_, ?_, ?_⟩
  · rw [ended]
    exact getElem?_set_self_of_some reporting
  · rw [ended, fired]
    rfl
  · rw [ended, fired]
    rfl

/-- A relay over instances that was created and nothing more. -/
def fresh (instances : List Instance) (publisher : Publisher) (network : σ) : RelaySession σ where
  relay := { instances := instances, publisher := publisher }
  network := network

/-- A start of a fresh relay comes to its first job. -/
theorem run_fresh (net : Network σ) (instances : List Instance) (publisher : Publisher)
    (network : σ) :
    ∃ s, RunsIn net 0 2 ((fresh instances publisher network).move .start) s
      ∧ s.network = network
      ∧ s.relay = {
        instances := instances
        publisher := publisher
        started := true
        starts := [.passing (Job.all instances) 0] } :=
  ⟨_, ⟨2, Nat.le_refl 2, rfl⟩, rfl, rfl⟩

/-- The start of a fresh relay ends, whatever is refused, and comes to beginning to consume
for one instance after another. -/
theorem start_eq_beginAll (net : Network σ) (network : σ) {instances : List Instance}
    {publisher : Publisher} (distinct : (instances.map (·.name)).Nodup)
    (unsent : publisher.sends = []) :
    ∃ last, (fresh instances publisher network).start net
        = (last, some (.ok (countAll (beginAll net network instances).1)))
      ∧ last.network = (beginAll net network instances).2
      ∧ last.relay.publisher.ready = true
      ∧ (∀ x ∈ (beginAll net network instances).1, last.relay.listeners x.1.name = x.2)
      ∧ ∀ other, other ∉ instances.map (·.name) → last.relay.listeners other = [] := by
  obtain ⟨first, begins, same, relay⟩ := run_fresh net instances publisher network
  have passing : first.relay.starts[0]? = some (.passing (Job.all instances) 0) := by
    rw [relay]
    rfl
  have untouched : ∀ i ∈ instances, first.Untouched i.name := fun _ _ =>
    ⟨by rw [relay]; rfl, by rw [relay]; rfl⟩
  obtain ⟨passed, runs, after, left, listeners, kept, aside⟩ :=
    run_all net instances first 0 distinct (by rw [relay]) untouched passing
  rw [same] at after left listeners
  rw [Nat.zero_add] at left
  obtain ⟨last, ends, unasked, ended, ready, intakes⟩ := run_passed net left
  have whole : ((fresh instances publisher network).move .start).runStart net 0
      ((Job.all instances).length + 4) = last := by
    refine RunsIn.runStart_eq (((begins.trans runs).trans ends).mono ?_) ended
    omega
  have idle : last.resume net = last := by
    have none : last.relay.publisher.sends = [] := by
      rw [ready, kept, relay]
      exact unsent
    simp [resume, none]
  have started : (fresh instances publisher network).start net
      = (last, last.relay.started? 0) := by
    have unfolded : (fresh instances publisher network).start net
        = (((((fresh instances publisher network).move .start).runStart net 0
          ((Job.all instances).length + 4)).resume net),
          ((((fresh instances publisher network).move .start).runStart net 0
            ((Job.all instances).length + 4)).resume net).relay.started? 0) := rfl
    rw [unfolded, whole, idle]
  have unread : ∀ name, last.relay.listeners name = passed.relay.listeners name := by
    intro name
    unfold Relay.listeners
    rw [intakes]
  refine ⟨last, ?_, unasked.trans after, by rw [ready], fun x member => ?_, fun other none => ?_⟩
  · rw [started, Relay.started?, ended]
  · exact (unread x.1.name).trans (listeners x member)
  · rw [unread, Relay.listeners, aside other none, relay]
    rfl

end RelaySession

end Courier
