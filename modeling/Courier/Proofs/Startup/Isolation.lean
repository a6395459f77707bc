/-
Brokers that close a channel over which they refuse something. All the
subscriptions of an instance are set up and consumed over one channel; so
from the first one on that cannot be set up such a broker refuses the rest:
the plans that are left, and then every queue, those included that were set
up before (`all_or_none`).

A broker is asked for one thing at a time, and between the opening of the
channel of an instance and its last queue only the start asks it; so whether
the channel that was opened last is closed can be told by the state of the
network.
-/
import Courier.Proofs.Startup.Instance
import Courier.Proofs.Topology.Installing

namespace Courier

open Courier.Topology (Channel Operation Plan)

-- ===================================================== statement vocabulary

/-- Whether a request goes over the channel that an instance consumes over;
publications have channels of their own. -/
def Request.isOverChannel : Request → Bool
  | .connect | .openChannel | .publish _ => false
  | .perform _ | .prefetch _ | .consume _ => true

/-- A network whose brokers close a channel over which they refuse a
declaration or a binding. Over a closed channel everything is refused; a new
channel is open, and so is one over which something was just accepted. -/
structure Network.Closes {σ : Type} (net : Network σ) (closed : σ → String → Prop) : Prop where
  opens : ∀ s name s', net.ask s name .openChannel = (true, s') → ¬ closed s' name
  accepts : ∀ s name r s', r.isOverChannel = true → net.ask s name r = (true, s') → ¬ closed s' name
  closes : ∀ s name op s', net.ask s name (.perform op) = (false, s') → closed s' name
  refuses : ∀ s name r, r.isOverChannel = true → closed s name →
    (net.ask s name r).1 = false ∧ closed (net.ask s name r).2 name

/-- Over an open channel, the brokers give every queue that is asked for. -/
def Network.Gives {σ : Type} (net : Network σ) (closed : σ → String → Prop) : Prop :=
  ∀ s name, ¬ closed s name →
    (∀ count, (net.ask s name (.prefetch count)).1 = true)
      ∧ ∀ queue, (net.ask s name (.consume queue)).1 = true

-- ============================================================ the plans

namespace Topology

/-- A plan asks for something. -/
theorem Plan.operations_ne_nil (s : Subscription) (settings : Settings.Consumer) :
    (Plan.ofSubscription s settings).operations ≠ [] := by
  unfold Plan.ofSubscription
  split <;> exact List.cons_ne_nil _ _

end Topology

/-- A plan that a broker is asked for, from its first operation on. -/
def Planned.Asks (x : Planned) : Prop :=
  x.plan.operations ≠ [] ∧ ∀ op ∈ x.plan.operations, op.Named

theorem asks_of_planned (settings : Settings.Consumer) (subs : List Subscription) (p : Nat) :
    ∀ x ∈ planned settings p subs, x.Asks := by
  induction subs generalizing p with
  | nil =>
      intro x member
      cases member
  | cons s rest ih =>
      intro x member
      rcases List.mem_cons.1 member with rfl | later
      · exact ⟨Plan.operations_ne_nil s settings, Plan.named s settings⟩
      · exact ih (p + 1) x later

theorem map_source (settings : Settings.Consumer) (subs : List Subscription) (p : Nat) :
    (planned settings p subs).map Planned.source
      = subs.map fun sub => (sub, (Plan.ofSubscription sub settings).queue) := by
  induction subs generalizing p with
  | nil => rfl
  | cons s rest ih => exact congrArg _ (ih (p + 1))

theorem length_planned (settings : Settings.Consumer) (subs : List Subscription) (p : Nat) :
    (planned settings p subs).length = subs.length := by
  induction subs generalizing p with
  | nil => rfl
  | cons s rest ih => exact congrArg _ (ih (p + 1))

-- ======================================================= closed channels

section closing

variable {σ : Type} {net : Network σ} {closed : σ → String → Prop} {name : String} {s : σ}

/-- What was not installed has closed the channel, and what was installed has
not. -/
theorem Network.Closes.install (closes : net.Closes closed) {ops : List Operation}
    (named : ∀ op ∈ ops, op.Named) {result : Except Failure Unit} {s' : σ}
    (answer : (net.channel name).install s ops = (result, s')) :
    match result with
    | .ok () => closed s' name → closed s name
    | .error _ => closed s' name := by
  induction ops generalizing s with
  | nil =>
      cases answer
      exact id
  | cons op rest ih =>
      obtain ⟨call, called⟩ := named op (List.mem_cons_self ..)
      unfold Channel.install Channel.perform at answer
      rw [called] at answer
      cases first : (net.channel name).ask s op with
      | mk accepted next =>
      simp only [first] at answer
      cases accepted with
      | true =>
          have opened := closes.accepts s name (.perform op) next rfl first
          have last := ih (fun op member => named op (List.mem_cons_of_mem _ member)) answer
          cases result with
          | ok value => exact fun shut => absurd (last shut) opened
          | error f => exact last
      | false =>
          cases answer
          exact closes.closes s name op _ first

/-- Over a closed channel, nothing is installed. -/
theorem Network.Closes.install_closed (closes : net.Closes closed) (shut : closed s name)
    {x : Planned} (asks : x.Asks) :
    ∃ f s', (net.channel name).install s x.plan.operations = (.error f, s') ∧ closed s' name := by
  obtain ⟨some, named⟩ := asks
  obtain ⟨op, rest, operations⟩ := List.exists_cons_of_ne_nil some
  rw [operations] at named ⊢
  obtain ⟨call, called⟩ := named op (List.mem_cons_self ..)
  obtain ⟨refused, shut⟩ := closes.refuses s name (.perform op) rfl shut
  have answer : (net.channel name).ask s op = (false, (net.ask s name (.perform op)).2) :=
    Prod.ext refused rfl
  refine ⟨call.refusal, _, ?_, shut⟩
  simp only [Channel.install, Channel.perform, called, answer]

theorem Network.Closes.installAll_closed (closes : net.Closes closed) {plans : List Planned}
    (asks : ∀ x ∈ plans, x.Asks) (shut : closed s name) :
    (installAll (net.channel name) s plans).1 = []
      ∧ closed (installAll (net.channel name) s plans).2 name := by
  induction plans generalizing s with
  | nil => exact ⟨rfl, shut⟩
  | cons x rest ih =>
      obtain ⟨f, next, failed, shut⟩ := closes.install_closed shut (asks x (List.mem_cons_self ..))
      simp only [installAll, failed]
      exact ih (fun y member => asks y (List.mem_cons_of_mem _ member)) shut

/-- Either all plans are installed and leave the channel as open as it was, or
it is closed from the first one on that is not installed. -/
theorem Network.Closes.installAll (closes : net.Closes closed) {plans : List Planned}
    (asks : ∀ x ∈ plans, x.Asks) :
    (installAll (net.channel name) s plans).1 = plans
        ∧ (closed (installAll (net.channel name) s plans).2 name → closed s name)
      ∨ ∃ m < plans.length, (installAll (net.channel name) s plans).1 = plans.take m
        ∧ closed (installAll (net.channel name) s plans).2 name := by
  induction plans generalizing s with
  | nil => exact .inl ⟨rfl, id⟩
  | cons x rest ih =>
      have later : ∀ y ∈ rest, y.Asks := fun y member => asks y (List.mem_cons_of_mem _ member)
      cases answer : (net.channel name).install s x.plan.operations with
      | mk result next =>
      have kept := closes.install (asks x (List.mem_cons_self ..)).2 answer
      simp only [Courier.installAll, answer]
      cases result with
      | ok value =>
          rcases ih later (s := next) with ⟨all, still⟩ | ⟨m, less, some, shut⟩
          · exact .inl ⟨congrArg _ all, fun shut => kept (still shut)⟩
          · exact .inr ⟨m + 1, Nat.succ_lt_succ less, congrArg _ some, shut⟩
      | error f =>
          obtain ⟨none, shut⟩ := closes.installAll_closed later kept
          exact .inr ⟨0, Nat.succ_pos _, none, shut⟩

/-- Over a closed channel, no queue is given. -/
theorem Network.Closes.subscribeAll_closed (closes : net.Closes closed)
    {sources : List (Subscription × String)} (shut : closed s name) :
    (subscribeAll net name s sources).1 = [] := by
  induction sources generalizing s with
  | nil => rfl
  | cons x rest ih =>
      obtain ⟨sub, queue⟩ := x
      obtain ⟨refused, shut⟩ := closes.refuses s name (.prefetch sub.maxParallelism) rfl shut
      have answer : net.subscribe s name sub queue = (.error (.qosRefused queue),
          (net.ask s name (.prefetch sub.maxParallelism)).2) := by
        unfold Network.subscribe
        rw [Prod.ext (y := (false, _)) refused rfl]
      rw [subscribeAll_refused answer]
      exact ih shut

/-- Over an open channel, all queues are given, if brokers give what they are
asked for. -/
theorem Network.Closes.subscribeAll_open (closes : net.Closes closed) (gives : net.Gives closed)
    {sources : List (Subscription × String)} (opened : ¬ closed s name) :
    (subscribeAll net name s sources).1 = sources := by
  induction sources generalizing s with
  | nil => rfl
  | cons x rest ih =>
      obtain ⟨sub, queue⟩ := x
      cases limited : net.ask s name (.prefetch sub.maxParallelism) with
      | mk accepted middle =>
      obtain rfl : accepted = true := by
        rw [← (gives s name opened).1 sub.maxParallelism, limited]
      have opened := closes.accepts s name _ middle rfl limited
      cases given : net.ask middle name (.consume queue) with
      | mk accepted next =>
      obtain rfl : accepted = true := by
        rw [← (gives middle name opened).2 queue, given]
      have opened := closes.accepts middle name _ next rfl given
      have answer : net.subscribe s name sub queue = (.ok (), next) := by
        simp only [Network.subscribe, limited, given]
      rw [subscribeAll_given answer]
      exact congrArg _ (ih opened)

/-- What setting up the subscriptions of a consumer comes to. -/
theorem Network.Closes.declare (closes : net.Closes closed) (c : ConsumerRole) (name : String)
    (s : σ) :
    ((c.declare (net.channel name) name s).declared
          = c.subscriptions.map (fun sub => (sub, (Plan.ofSubscription sub c.settings).queue))
        ∧ (closed (c.declare (net.channel name) name s).channel name → closed s name))
      ∨ ∃ m < c.subscriptions.length,
        (c.declare (net.channel name) name s).declared
          = (c.subscriptions.take m).map (fun sub =>
            (sub, (Plan.ofSubscription sub c.settings).queue))
        ∧ closed (c.declare (net.channel name) name s).channel name := by
  obtain ⟨sources, channel⟩ :=
    declareAll_eq (net.channel name) name c.settings c.subscriptions 0 s
  have asks := asks_of_planned c.settings c.subscriptions 0
  unfold ConsumerRole.declare
  rw [sources, channel]
  rcases closes.installAll asks (s := s) with ⟨all, still⟩ | ⟨m, less, some, shut⟩
  · refine .inl ⟨?_, still⟩
    rw [all, map_source]
  · rw [length_planned] at less
    refine .inr ⟨m, less, ?_, shut⟩
    rw [some, List.map_take, map_source, List.map_take]

end closing

-- ======================================================== the main result

/-- An instance that has got its channel, on brokers that close a channel over
which they refuse something. The rest of its startup comes to an end, in one
of two ways. Either all its subscriptions were set up, and those consume whose
queue the broker gives: all of them, if it gives every queue. Or the first
ones were set up up to one that was not, and then no subscription of the
instance consumes: neither those after it nor those before. -/
theorem RelaySession.all_or_none {σ : Type} {net : Network σ} {closed : σ → String → Prop}
    (closes : net.Closes closed) {s t : RelaySession σ} {k n : Nat} {i : Instance}
    {c : ConsumerRole} {rest : List Job} (others : ∀ j ∈ rest, j.owner.name ≠ i.name)
    (passing : s.relay.starts[k]? = some (.passing (Job.ofConsumer i c ++ rest) n))
    (connected : s.perform net ⟨i, .connect⟩ = (t, some (.ok ()))) :
    ∃ last begun, Runs net k s last
      ∧ last.relay.starts[k]? = some (.passing rest (n + begun.length))
      ∧ KeyedList.get? i.name last.relay.intakes = some (Intake.consumeAll
        { permits := i.dispatchConcurrency.toNat, cancelled := s.relay.cancelled } begun)
      ∧ ∀ setup, setup = c.declare (net.channel i.name) i.name t.network →
        setup.declared
            = c.subscriptions.map (fun sub => (sub, (Plan.ofSubscription sub c.settings).queue))
          ∧ begun = (subscribeAll net i.name setup.channel setup.declared).1
          ∧ (net.Gives closed → begun = setup.declared)
        ∨ (∃ m < c.subscriptions.length, setup.declared = (c.subscriptions.take m).map
            fun sub => (sub, (Plan.ofSubscription sub c.settings).queue))
          ∧ begun = [] := by
  obtain ⟨last, run, -, ended, intake⟩ := run_instance others passing connected
  refine ⟨last, _, run, ended, intake, ?_⟩
  rintro setup rfl
  obtain ⟨-, -, -, before, opened⟩ := channel_opened connected
  have fresh := closes.opens before i.name t.network opened
  rcases closes.declare c i.name t.network with
    ⟨all, still⟩ | ⟨m, less, some, shut⟩
  · exact .inl ⟨all, rfl, fun gives =>
      closes.subscribeAll_open gives fun shut => fresh (still shut)⟩
  · exact .inr ⟨⟨m, less, some⟩, closes.subscribeAll_closed shut⟩

-- ============================================================== a refusal

/-- Brokers that refuse some declarations and bindings and close the channel
then; the state is the instances whose channel is closed. -/
def Network.strict (refused : Operation → Bool) : Network (List String) where
  ask closed name
    | .connect | .publish _ => (true, closed)
    | .openChannel => (true, closed.filter (· != name))
    | .perform op =>
      if closed.contains name then (false, closed)
      else if refused op then (false, name :: closed)
      else (true, closed)
    | .prefetch _ | .consume _ => (!closed.contains name, closed)
  reason := "the broker is down"

theorem Network.strict_closes (refused : Operation → Bool) :
    (Network.strict refused).Closes fun closed name => name ∈ closed where
  opens closed name after answer := by
    cases answer
    simp
  accepts closed name r after sent answer := by
    cases r with
    | connect | openChannel | publish => cases sent
    | perform op =>
        by_cases shut : name ∈ closed
        · simp [strict, shut] at answer
        · by_cases no : refused op = true
          · simp [strict, shut, no] at answer
          · simp only [strict, List.contains_iff_mem, shut, no, if_false] at answer
            cases answer
            exact shut
    | prefetch | consume =>
        simp only [strict, Prod.mk.injEq, Bool.not_eq_true', List.contains_eq_mem,
          decide_eq_false_iff_not] at answer
        exact answer.2 ▸ answer.1
  closes closed name op after answer := by
    by_cases shut : name ∈ closed
    · simp only [strict, List.contains_iff_mem, shut, if_true] at answer
      cases answer
      exact shut
    · by_cases no : refused op = true
      · simp only [strict, List.contains_iff_mem, shut, no, if_true, if_false] at answer
        cases answer
        exact List.mem_cons_self ..
      · simp [strict, shut, no] at answer
  refuses closed name r sent shut := by
    cases r with
    | connect | openChannel | publish => cases sent
    | perform | prefetch | consume => simp [strict, shut]

/-- What is not declared or bound is not refused otherwise. -/
theorem Network.strict_gives (refused : Operation → Bool) :
    (Network.strict refused).Gives fun closed name => name ∈ closed := by
  intro closed name opened
  simp [strict, opened]

/-- A subscription to a queue. -/
def collects (queue : String) : Subscription where
  name := queue
  maxParallelism := 1
  source := .queue
  handler := .scripted ⟨"Slip", fun _ => .ok .null⟩ []

/-- What a till consumes. -/
def tillRole (queues : List String) : ConsumerRole :=
  ⟨{ group := "tills", maxParallelism := 4 }, queues.map collects⟩

/-- An instance that consumes queues. -/
def till (queues : List String) : Instance where
  name := "till"
  connection := {}
  consumer := some (tillRole queues)
  producer := none
  init := none

/-- Brokers that do not let anybody declare the queue of the payments. -/
def guarded : Network (List String) :=
  .strict fun
    | .declareQueue q => q.name == some "payments"
    | _ => false

/-- A relay of that instance, before anything. -/
def tillSession (queues : List String) : RelaySession (List String) where
  relay := { instances := [till queues], publisher := {} }
  network := []

/-- That relay at the beginning of its startup pass. -/
def tillPassing (queues : List String) : RelaySession (List String) :=
  (((tillSession queues).move .start).stepStart guarded 0).stepStart guarded 0

theorem tillPassing_begins (queues : List String) : (tillPassing queues).relay.starts[0]?
    = some (.passing (Job.ofConsumer (till queues) (tillRole queues) ++ []) 0) := rfl

/-- A till whose payments are refused consumes nothing, and one without payments
consumes all it has. -/
theorem all_or_none_of_till :
    (∃ last, (tillPassing ["orders", "payments", "refunds"]).Runs guarded 0 last
      ∧ last.relay.starts[0]? = some (.passing [] 0))
    ∧ ∃ last, (tillPassing ["orders", "refunds"]).Runs guarded 0 last
      ∧ last.relay.starts[0]? = some (.passing [] 2) := by
  have alone : ∀ queues, ∀ j ∈ ([] : List Job), j.owner.name ≠ (till queues).name := by
    intro queues j member
    cases member
  constructor
  · have connected : (tillPassing ["orders", "payments", "refunds"]).perform guarded
        ⟨till ["orders", "payments", "refunds"], .connect⟩ = (_, some (.ok ())) := rfl
    obtain ⟨last, begun, run, ended, -, outcome⟩ :=
      RelaySession.all_or_none (Network.strict_closes _) (alone _)
        (tillPassing_begins _) connected
    refine ⟨last, run, ?_⟩
    rcases outcome _ rfl with ⟨all, -⟩ | ⟨-, rfl⟩
    · exact absurd (congrArg List.length all) (by decide)
    · exact ended
  · have connected : (tillPassing ["orders", "refunds"]).perform guarded
        ⟨till ["orders", "refunds"], .connect⟩ = (_, some (.ok ())) := rfl
    obtain ⟨last, begun, run, ended, -, outcome⟩ :=
      RelaySession.all_or_none (Network.strict_closes _) (alone _)
        (tillPassing_begins _) connected
    refine ⟨last, run, ?_⟩
    rcases outcome _ rfl with ⟨all, -, whole⟩ | ⟨⟨m, less, some⟩, -⟩
    · rw [whole (Network.strict_gives _), all] at ended
      exact ended
    · have count := congrArg List.length some
      rw [List.length_map, List.length_take_of_le (Nat.le_of_lt less)] at count
      rw [← count] at less
      exact absurd less (by decide)

/-- The refusal of one queue is not the end of its own subscription only: the
two others, which the same brokers would give, are not consumed either. -/
theorem refusal_not_isolated :
    guarded.Closes (fun closed name => name ∈ closed)
      ∧ ((tillSession ["orders", "payments", "refunds"]).start guarded).2 = some (.ok 0)
      ∧ ((tillSession ["orders", "refunds"]).start guarded).2 = some (.ok 2) :=
  ⟨Network.strict_closes _, rfl, rfl⟩

end Courier
