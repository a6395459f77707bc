/-
A start of a relay whose brokers refuse what they please. Each broker answers
by a rule of its own, on all that it was asked before (`Network.answering`);
so any call may fail by itself, and none has to fail because another one did.

The result is `start_isolates`: a start ends and lets publications through,
every instance has the listeners that its own transcript comes with, and these
depend on its own broker and its own description alone.

Each part of a pass is told once for all networks in which one broker follows
a given rule after a given transcript (`Tells`): the calls and the outcome
come first, and the network is any of these. Therefore two starts that agree
on one instance are not compared step by step.
-/
import Courier.Proofs.Startup.Pass
import Courier.Proofs.Startup.Transcript

namespace Courier

open Courier.Topology (Channel Operation Plan)

-- ===================================================== statement vocabulary

/-- What a broker answers to a request, by what it was asked before. -/
abbrev Rule := Calls → Request → Bool

/-- What the broker of each instance was asked. -/
abbrev Transcripts := String → Calls

/-- The broker of an instance is asked more. -/
def Transcripts.tell (s : Transcripts) (name : String) (calls : Calls) : Transcripts :=
  fun other => if other = name then s other ++ calls else s other

/-- The network in which every broker follows a rule of its own. -/
def Network.answering (rules : String → Rule) (reason : String) :
    Network Transcripts where
  ask s name r := (rules name (s name) r, s.tell name [(r, rules name (s name) r)])
  reason := reason

-- ============================================================= transcripts

namespace Transcripts

variable {s : Transcripts} {name : String} {calls more : Calls}

theorem tell_nil (s : Transcripts) (name : String) : s.tell name [] = s := by
  funext other
  unfold tell
  split
  · exact List.append_nil _
  · rfl

/-- Two tellings of one broker are one. -/
theorem tell_tell (s : Transcripts) (name : String) (calls more : Calls) :
    (s.tell name calls).tell name more = s.tell name (calls ++ more) := by
  funext other
  unfold tell
  split
  · exact List.append_assoc ..
  · rfl

theorem tell_self (s : Transcripts) (name : String) (calls : Calls) :
    s.tell name calls name = s name ++ calls := if_pos rfl

theorem tell_other {other : String} (different : other ≠ name) :
    s.tell name calls other = s other := if_neg different

end Transcripts

/-- In every network in which the broker of an instance follows this rule and was asked
this before, an action makes these calls to it, no others, and comes to this. -/
def Tells {α : Type} (name : String) (rule : Rule) (before : Calls)
    (act : Network Transcripts → Transcripts → α × Transcripts) (calls : Calls) (x : α) : Prop :=
  ∀ rules reason s, rules name = rule → s name = before →
    act (.answering rules reason) s = (x, s.tell name calls)

section told

variable {α : Type} {name : String} {rule : Rule} {before calls more : Calls}
  {act : Network Transcripts → Transcripts → α × Transcripts} {x : α}

/-- What does not ask a broker tells of no calls. -/
theorem Tells.nothing (name : String) (rule : Rule) (before : Calls) (x : α) :
    Tells name rule before (fun _ s => (x, s)) [] x :=
  fun _ _ s _ _ => by rw [s.tell_nil]

/-- One call, and its answer. -/
theorem Tells.ask {r : Request} {ok : Bool} (answered : rule before r = ok) :
    Tells name rule before (fun net s => net.ask s name r) [(r, ok)] ok := by
  rintro rules reason s rfl rfl
  subst answered
  rfl

/-- An action after other calls. -/
theorem Tells.after (tells : Tells name rule (before ++ calls) act more x)
    {rules : String → Rule} (reason : String) {s : Transcripts}
    (own : rules name = rule) (asked : s name = before) :
    act (.answering rules reason) (s.tell name calls) = (x, s.tell name (calls ++ more)) := by
  rw [tells rules reason (s.tell name calls) own ((s.tell_self name calls).trans (by rw [asked])),
    s.tell_tell]

-- ========================================================== the connection

/-- Installing tells of one call for each operation, up to the first that is
refused. -/
theorem tells_install (name : String) (rule : Rule) (ops : List Operation) :
    ∀ before, ∃ calls, ∃ result : Except Failure Unit, Installs ops calls result.isOk ∧
      Tells name rule before (fun net s => (net.channel name).install s ops) calls result := by
  induction ops with
  | nil => exact fun before => ⟨[], .ok (), .done, .nothing name rule before _⟩
  | cons op rest ih =>
      intro before
      cases called : op.call with
      | error f =>
          have unnamed : ¬ op.Named := by
            rintro ⟨call, named⟩
            rw [called] at named
            cases named
          refine ⟨[], .error f, .unnamed unnamed, fun rules reason s own asked => ?_⟩
          simp only [Channel.install, Channel.perform, called, s.tell_nil]
      | ok call =>
          cases answered : rule before (.perform op) with
          | false =>
              refine ⟨_, .error call.refusal, .refused ⟨call, called⟩,
                fun rules reason s own asked => ?_⟩
              have first := Tells.ask answered rules reason s own asked
              simp only [Channel.install, Channel.perform, called, Network.channel, first]
          | true =>
              obtain ⟨calls, result, installs, tells⟩ := ih (before ++ [(.perform op, true)])
              refine ⟨_, result, .accepted ⟨call, called⟩ installs,
                fun rules reason s own asked => ?_⟩
              have first := Tells.ask answered rules reason s own asked
              have later := tells.after reason own asked
              simp only [Channel.install, Channel.perform, called, Network.channel, first]
              exact later

/-- Over a new connection, the channel for the init operations is told of, if there
are any. -/
theorem tells_initiate (i : Instance) (rule : Rule) (before : Calls) :
    ∃ calls ok, Initiates i calls ok ∧
      Tells i.name rule before (fun net s => i.initiate net s) calls ok := by
  cases none : i.initOperations.isEmpty with
  | true =>
      have plain := List.isEmpty_iff.1 none
      refine ⟨[], true, .plain plain, fun rules reason s own asked => ?_⟩
      simp only [Instance.initiate, none, if_pos, s.tell_nil]
  | false =>
      have some : i.initOperations ≠ [] := fun plain => by
        rw [plain] at none
        cases none
      cases answered : rule before .openChannel with
      | false =>
          refine ⟨_, false, .closed some, fun rules reason s own asked => ?_⟩
          have first := Tells.ask answered rules reason s own asked
          simp only [Instance.initiate, none, first]
          rfl
      | true =>
          obtain ⟨calls, result, installs, tells⟩ :=
            tells_install i.name rule i.initOperations (before ++ [(.openChannel, true)])
          refine ⟨_, result.isOk, .opened some installs, fun rules reason s own asked => ?_⟩
          have first := Tells.ask answered rules reason s own asked
          have later := tells.after reason own asked
          simp only [Instance.initiate, none, first, Network.install, later]
          rfl

/-- A connection is given at once. -/
theorem tells_given (i : Instance) {rule : Rule} {before : Calls}
    (answered : rule before .connect = true) (left : Nat) :
    ∃ calls ok, Links i left calls ok ∧
      Tells i.name rule before (fun net s => i.connect net left s) calls ok := by
  obtain ⟨calls, ok, initiates, tells⟩ := tells_initiate i rule (before ++ [(.connect, true)])
  refine ⟨_, ok, .given initiates, fun rules reason s own asked => ?_⟩
  have first := Tells.ask answered rules reason s own asked
  have later := tells.after reason own asked
  cases left with
  | zero =>
      simp only [Instance.connect, first]
      exact later
  | succ left =>
      simp only [Instance.connect, first]
      exact later

/-- Connecting tells of one call for each attempt. -/
theorem tells_connect (i : Instance) (rule : Rule) (left : Nat) :
    ∀ before, ∃ calls ok, Links i left calls ok ∧
      Tells i.name rule before (fun net s => i.connect net left s) calls ok := by
  induction left with
  | zero =>
      intro before
      cases answered : rule before .connect with
      | true => exact tells_given i answered 0
      | false =>
          refine ⟨_, false, .exhausted, fun rules reason s own asked => ?_⟩
          have first := Tells.ask answered rules reason s own asked
          simp only [Instance.connect, first]
  | succ left ih =>
      intro before
      cases answered : rule before .connect with
      | true => exact tells_given i answered (left + 1)
      | false =>
          obtain ⟨calls, ok, links, tells⟩ := ih (before ++ [(.connect, false)])
          refine ⟨_, ok, .again links, fun rules reason s own asked => ?_⟩
          have first := Tells.ask answered rules reason s own asked
          have later := tells.after reason own asked
          simp only [Instance.connect, first]
          exact later

-- ======================================================= the subscriptions

/-- Setting up subscriptions tells of one plan after another. -/
theorem tells_declareAll (name : String) (rule : Rule)
    (settings : Settings.Consumer) (subs : List Subscription) :
    ∀ before, ∃ setup declared, SetsUp settings subs setup declared ∧
      Tells name rule before
        (fun net s => ((declareAll (net.channel name) name settings s subs).declared,
          (declareAll (net.channel name) name settings s subs).channel)) setup declared := by
  induction subs with
  | nil => exact fun before => ⟨[], [], .done, .nothing name rule before _⟩
  | cons sub rest ih =>
      intro before
      obtain ⟨own, result, installs, first⟩ :=
        tells_install name rule (Plan.ofSubscription sub settings).operations before
      obtain ⟨setup, declared, sets, tells⟩ := ih (before ++ own)
      cases result with
      | error f =>
          refine ⟨_, _, .dropped installs sets, fun rules reason s own asked => ?_⟩
          have first := first rules reason s own asked
          have later := tells.after reason own asked
          simp only [declareAll, first]
          exact later
      | ok value =>
          refine ⟨_, _, .kept installs sets, fun rules reason s own asked => ?_⟩
          have first := first rules reason s own asked
          have later := tells.after reason own asked
          simp only [declareAll, first]
          rw [← (Prod.mk.inj later).1, ← (Prod.mk.inj later).2]

/-- Beginning to consume tells of the limit, and then of the queue. -/
theorem tells_subscribe (name : String) (rule : Rule) (sub : Subscription)
    (queue : String) (before : Calls) :
    ∃ calls, ∃ result : Except Failure Unit, Consumes sub queue calls result.isOk ∧
      Tells name rule before (fun net s => net.subscribe s name sub queue) calls result := by
  cases limited : rule before (.prefetch sub.maxParallelism) with
  | false =>
      refine ⟨_, .error (.qosRefused queue), .unlimited, fun rules reason s own asked => ?_⟩
      have first := Tells.ask limited rules reason s own asked
      simp only [Network.subscribe, first]
  | true =>
      cases given : rule (before ++ [(.prefetch sub.maxParallelism, true)]) (.consume queue) with
      | false =>
          refine ⟨_, .error (.consumerRefused queue), .refused, fun rules reason s own asked => ?_⟩
          have first := Tells.ask limited rules reason s own asked
          have later := (Tells.ask given).after reason own asked
          simp only [Network.subscribe, first, later]
          rfl
      | true =>
          refine ⟨_, .ok (), .given, fun rules reason s own asked => ?_⟩
          have first := Tells.ask limited rules reason s own asked
          have later := (Tells.ask given).after reason own asked
          simp only [Network.subscribe, first, later]
          rfl

/-- What was set up is consumed; what was not is left out. -/
theorem tells_subscribeAll (name : String) (rule : Rule)
    {settings : Settings.Consumer} {subs : List Subscription} {setup : Calls}
    {declared : List (Subscription × String)} (sets : SetsUp settings subs setup declared) :
    ∀ before, ∃ consume listeners, Serves settings subs setup consume listeners ∧
      Tells name rule before (fun net s => subscribeAll net name s declared) consume listeners := by
  induction sets with
  | done => exact fun before => ⟨[], [], .done, .nothing name rule before _⟩
  | dropped installs _ ih =>
      intro before
      obtain ⟨consume, listeners, serves, tells⟩ := ih before
      exact ⟨consume, listeners, .undeclared installs serves, tells⟩
  | @kept sub subs own setup declared installs sets ih =>
      intro before
      obtain ⟨calls, result, consumes, first⟩ :=
        tells_subscribe name rule sub (Plan.ofSubscription sub settings).queue before
      obtain ⟨consume, listeners, serves, tells⟩ := ih (before ++ calls)
      cases result with
      | error f =>
          refine ⟨_, _, .unconsumed installs consumes serves, fun rules reason s own asked => ?_⟩
          have later := tells.after reason own asked
          exact (subscribeAll_refused (first rules reason s own asked)).trans later
      | ok value =>
          refine ⟨_, _, .served installs consumes serves, fun rules reason s own asked => ?_⟩
          have later := tells.after reason own asked
          refine (subscribeAll_given (first rules reason s own asked)).trans ?_
          simp only [later]

-- ============================================================ an instance

/-- A consumer role tells of its plans first, and of what it consumes after that. -/
theorem tells_consumer (c : ConsumerRole) (name : String) (rule : Rule)
    (before : Calls) :
    ∃ setup consume listeners, Serves c.settings c.subscriptions setup consume listeners ∧
      Tells name rule before (fun net s => c.begin net name s) (setup ++ consume) listeners := by
  obtain ⟨setup, declared, sets, first⟩ :=
    tells_declareAll name rule c.settings c.subscriptions before
  obtain ⟨consume, listeners, serves, tells⟩ :=
    tells_subscribeAll name rule sets (before ++ setup)
  refine ⟨setup, consume, listeners, serves, fun rules reason s own asked => ?_⟩
  have later := tells.after reason own asked
  obtain ⟨sources, channel⟩ := Prod.mk.inj (first rules reason s own asked)
  simp only [ConsumerRole.begin, ConsumerRole.declare, sources, channel]
  exact later

/-- What is asked for a channel to consume over. -/
theorem tells_reach (i : Instance) (rule : Rule) (before : Calls) :
    ∃ calls ok, Reaches i calls ok ∧
      Tells i.name rule before (fun net s => i.reach net s) calls ok := by
  obtain ⟨link, linked, links, first⟩ :=
    tells_connect i rule i.connection.maxReconnectCount.toNat before
  cases linked with
  | false =>
      refine ⟨link, false, .unlinked links, fun rules reason s own asked => ?_⟩
      have first := first rules reason s own asked
      simp only [Instance.reach, Instance.link, first]
  | true =>
      refine ⟨_, rule (before ++ link) .openChannel, .asked links,
        fun rules reason s own asked => ?_⟩
      have first := first rules reason s own asked
      have opens : Tells i.name rule (before ++ link) (fun net s => net.ask s i.name .openChannel)
          _ _ := .ask rfl
      have later := opens.after reason own asked
      simp only [Instance.reach, Instance.link, first]
      exact later

/-- What is begun for an instance, on a broker with this rule. -/
theorem tells_begin (i : Instance) (rule : Rule) (before : Calls) :
    ∃ calls listeners, Begins i calls listeners ∧
      Tells i.name rule before (fun net s => i.begin net s) calls listeners := by
  cases consumer : i.consumer with
  | none =>
      refine ⟨[], [], .idle consumer, fun rules reason s _ _ => ?_⟩
      simp only [Instance.begin, consumer, s.tell_nil]
  | some c =>
      obtain ⟨reach, reached, reaches, first⟩ := tells_reach i rule before
      cases reached with
      | false =>
          refine ⟨reach, [], .unreached consumer reaches, fun rules reason s own asked => ?_⟩
          have first := first rules reason s own asked
          simp only [Instance.begin, consumer, first]
      | true =>
          obtain ⟨setup, consume, listeners, serves, tells⟩ :=
            tells_consumer c i.name rule (before ++ reach)
          refine ⟨_, listeners, .begun consumer reaches serves,
            fun rules reason s own asked => ?_⟩
          have first := first rules reason s own asked
          have later := tells.after reason own asked
          simp only [Instance.begin, consumer, first]
          exact later

end told

-- =========================================================== all instances

/-- Every instance has what is begun for it alone: its own transcript and its own listeners,
whatever the rules of the other brokers are. -/
theorem beginAll_told (rules : String → Rule) (reason : String)
    (instances : List Instance) :
    ∀ s : Transcripts, (instances.map (·.name)).Nodup → (∀ i ∈ instances, s i.name = []) →
      (beginAll (.answering rules reason) s instances).1.map Prod.fst = instances
      ∧ (∀ x ∈ (beginAll (.answering rules reason) s instances).1, ∀ calls listeners,
        Tells x.1.name (rules x.1.name) [] (fun net s => x.1.begin net s) calls listeners →
        x.2 = listeners
          ∧ (beginAll (.answering rules reason) s instances).2 x.1.name = calls)
      ∧ ∀ other, other ∉ instances.map (·.name) →
        (beginAll (.answering rules reason) s instances).2 other = s other := by
  induction instances with
  | nil => exact fun s _ _ => ⟨rfl, by simp [beginAll], fun _ _ => rfl⟩
  | cons i rest ih =>
      intro s distinct unasked
      obtain ⟨fresh, distinct⟩ := List.nodup_cons.1 distinct
      -- whatever is told of this instance, it is its broker that is asked, and no other
      obtain ⟨calls, listeners, -, tells⟩ := tells_begin i (rules i.name) []
      have first := tells rules reason s rfl (unasked i (List.mem_cons_self ..))
      have ahead : ∀ i' ∈ rest, s.tell i.name calls i'.name = [] := by
        intro i' member
        have different : i'.name ≠ i.name := fun same =>
          fresh (List.mem_map.2 ⟨i', member, same⟩)
        rw [Transcripts.tell_other different]
        exact unasked i' (List.mem_cons_of_mem _ member)
      obtain ⟨order, own, aside⟩ := ih (s.tell i.name calls) distinct ahead
      simp only [beginAll, first]
      refine ⟨congrArg _ order, fun x member => ?_, fun other different => ?_⟩
      · rcases List.mem_cons.1 member with rfl | later
        · intro calls' listeners' tells'
          have silent : s i.name = [] := unasked i (List.mem_cons_self ..)
          obtain ⟨rfl, same⟩ := Prod.mk.inj (first.symm.trans (tells' rules reason s rfl silent))
          refine ⟨rfl, ?_⟩
          rw [aside i.name fresh, same, s.tell_self, silent, List.nil_append]
        · exact own x later
      · obtain ⟨other', elsewhere⟩ := not_or.1 (mt List.mem_cons.2 different)
        rw [aside other elsewhere, Transcripts.tell_other other']

namespace RelaySession

variable {instances : List Instance} {publisher : Publisher}

/-- A whole start comes to what is begun for each instance alone. -/
theorem start_told (distinct : (instances.map (·.name)).Nodup) (unsent : publisher.sends = [])
    (rules : String → Rule) (reason : String) :
    ∃ last, (fresh instances publisher fun _ => []).start (.answering rules reason)
        = (last, some (.ok (instances.map fun i => (last.relay.listeners i.name).length).sum))
      ∧ last.relay.publisher.ready = true
      ∧ (∀ other, other ∉ instances.map (·.name) → last.relay.listeners other = [])
      ∧ ∀ i ∈ instances, ∀ calls listeners,
        Tells i.name (rules i.name) [] (fun net s => i.begin net s) calls listeners →
        last.relay.listeners i.name = listeners ∧ last.network i.name = calls := by
  obtain ⟨last, started, network, ready, listeners, none⟩ :=
    start_eq_beginAll (.answering rules reason) (fun _ => []) distinct unsent
  obtain ⟨order, own, -⟩ := beginAll_told rules reason instances (fun _ => []) distinct
    fun _ _ => rfl
  have count : countAll (beginAll (.answering rules reason) (fun _ => []) instances).1
      = (instances.map fun i => (last.relay.listeners i.name).length).sum := by
    conv_rhs => rw [← order, List.map_map]
    refine congrArg List.sum (List.map_congr_left fun x member => ?_)
    rw [Function.comp_apply, listeners x member]
  refine ⟨last, ?_, ready, none, fun i member calls sources tells => ?_⟩
  · rw [started, count]
  · rw [← order] at member
    obtain ⟨x, begun, rfl⟩ := List.mem_map.1 member
    obtain ⟨same, transcript⟩ := own x begun calls sources tells
    rw [listeners x begun, network]
    exact ⟨same, transcript⟩

-- ======================================================== the main result

/-- A start over any instances with names of their own, on brokers that refuse any of their
calls. It ends and lets publications through, and the result is the number of listeners.
The listeners of an instance are those that its transcript comes with, and no others: one
for each subscription all of whose calls were accepted, if there is a connection and a
channel. They are the same in every other start in which that instance has the same broker,
whatever the other instances are and whatever is refused to them. -/
theorem start_isolates (distinct : (instances.map (·.name)).Nodup) (unsent : publisher.sends = [])
    (rules : String → Rule) (reason : String) :
    ∃ last, (fresh instances publisher fun _ => []).start (.answering rules reason)
        = (last, some (.ok (instances.map fun i => (last.relay.listeners i.name).length).sum))
      ∧ last.relay.publisher.ready = true
      ∧ (∀ other, other ∉ instances.map (·.name) → last.relay.listeners other = [])
      ∧ ∀ i ∈ instances,
        (∀ listeners, Begins i (last.network i.name) listeners
          ↔ last.relay.listeners i.name = listeners)
        ∧ ∀ (instances' : List Instance) (publisher' : Publisher)
            (rules' : String → Rule) (reason' : String),
          (instances'.map (·.name)).Nodup → publisher'.sends = [] → i ∈ instances' →
          rules' i.name = rules i.name →
          ((fresh instances' publisher' fun _ => []).start
              (.answering rules' reason')).1.relay.listeners i.name
            = last.relay.listeners i.name := by
  obtain ⟨last, started, ready, none, own⟩ := start_told distinct unsent rules reason
  refine ⟨last, started, ready, none, fun i member => ?_⟩
  obtain ⟨calls, listeners, begins, tells⟩ := tells_begin i (rules i.name) []
  obtain ⟨here, transcript⟩ := own i member calls listeners tells
  refine ⟨fun listeners' => ⟨fun begins' => ?_, fun same => ?_⟩, fun instances' publisher' rules'
    reason' distinct' unsent' member' same => ?_⟩
  · exact here.trans (begins.unique begins' transcript.symm)
  · rw [← same, here, transcript]
    exact begins
  obtain ⟨last', started', -, -, own'⟩ := start_told distinct' unsent' rules' reason'
  obtain ⟨there, -⟩ := own' i member' calls listeners (same ▸ tells)
  rw [started', here]
  exact there

end RelaySession

-- ------------------------------------------------------------- the market

/-- A stall, and the queues it consumes. -/
def stall (name : String) (queues : List String) : Instance where
  name := name
  connection := {}
  consumer := some ⟨{ group := "stalls", maxParallelism := 1 }, queues.map collects⟩
  producer := none
  init := none

/-- The broker of the fish cannot be reached, and that of the fruit does not give the plums. -/
def marketRules : String → Rule
  | "fish", _, .connect => false
  | "fruit", _, .consume "plums" => false
  | _, _, _ => true

/-- The pears are consumed, though the fish and the plums are not, and they are still if the
fish has a broker and is sold elsewhere. -/
theorem start_isolates_of_market :
    ∃ last, (RelaySession.fresh [stall "fish" ["cod"], stall "fruit" ["plums", "pears"]] {}
        fun _ => []).start (.answering marketRules "no way") = (last, some (.ok 1))
      ∧ last.relay.publisher.ready = true
      ∧ last.relay.listeners "fish" = []
      ∧ last.relay.listeners "fruit" = [(collects "pears", "pears")]
      ∧ ((RelaySession.fresh [stall "fruit" ["plums", "pears"], stall "fish" []] {}
          fun _ => []).start (.answering (fun name before r =>
            name == "fish" || marketRules name before r) "")).1.relay.listeners "fruit"
        = [(collects "pears", "pears")] := by
  obtain ⟨last, started, ready, -, own⟩ := @RelaySession.start_isolates
    [stall "fish" ["cod"], stall "fruit" ["plums", "pears"]] {} (by decide) rfl marketRules "no way"
  have run : (RelaySession.fresh [stall "fish" ["cod"], stall "fruit" ["plums", "pears"]] {}
        fun _ => []).start (.answering marketRules "no way") = (_, some (.ok 1)) := rfl
  obtain ⟨rfl, -⟩ := Prod.mk.inj (started.symm.trans run)
  obtain ⟨-, elsewhere⟩ := own (stall "fruit" ["plums", "pears"]) (by simp)
  refine ⟨_, run, ready, rfl, rfl, ?_⟩
  exact elsewhere _ _ _ _ (by decide) rfl (by simp) rfl

end Courier
