/-
The startup pass and what it begins. There is one pass at most, and nothing
is begun without it (`Passes`); so whose the intakes are and what they read
is told by the jobs of the pass.

- Each intake belongs to the instance of its name, was begun with the permits
  of that instance, and has readers of its subscriptions only, each with its
  own limit (`Served`). No two instances have one name if their description
  was checked (`Blueprint.names_nodup`), so the owner of a job is the instance
  whose intake the job is for.
- What is begun is not ahead of the pass any more (`Apart`). So no intake is
  begun twice, and each subscription has one reader at most.
-/
import Courier.Proofs.Blueprint.Acceptance
import Courier.Proofs.Relay.Intakes

namespace Courier

namespace Job

-- ============================================================= the jobs

/-- A job of the pass is one for a consuming instance. -/
theorem mem_all {instances : List Instance} {j : Job} (member : j ∈ Job.all instances) :
    ∃ i ∈ instances, ∃ c, i.consumer = some c ∧ j ∈ Job.ofConsumer i c := by
  obtain ⟨i, owner, member⟩ := List.mem_flatMap.1 member
  unfold Job.ofInstance at member
  split at member
  next c consumer => exact ⟨i, owner, c, consumer, member⟩
  next => cases member

/-- The jobs for an instance have it as their owner. -/
theorem owner_of_mem {i : Instance} {c : ConsumerRole} {j : Job} (member : j ∈ Job.ofConsumer i c) :
    j.owner = i := by
  simp only [Job.ofConsumer, List.cons_append, List.mem_cons, List.mem_append, List.mem_map]
    at member
  rcases member with rfl | ⟨_, _, rfl⟩ | ⟨_, _, rfl⟩ <;> rfl

/-- Only subscriptions of the instance are begun to consume. -/
theorem subscription_of_mem {i : Instance} {c : ConsumerRole} {p : Nat} {s : Subscription}
    {queue : String} (member : ⟨i, .consume p s queue⟩ ∈ Job.ofConsumer i c) :
    s ∈ c.subscriptions := by
  simp only [Job.ofConsumer, List.cons_append, List.mem_cons, List.mem_append, List.mem_map]
    at member
  rcases member with other | ⟨_, _, other⟩ | ⟨_, ⟨⟨s', p'⟩, position, rfl⟩, same⟩
  · cases other
  · cases other
  · cases same
    exact List.mem_of_getElem? (List.mem_zipIdx_iff_getElem?.1 position)

/-- The names of the instances that jobs connect. -/
def connecting (jobs : List Job) : List String :=
  jobs.filterMap fun j =>
    match j.task with
    | .connect => some j.owner.name
    | _ => none

/-- The subscriptions of an instance that jobs begin to consume. -/
def consuming (name : String) (jobs : List Job) : List Subscription :=
  jobs.filterMap fun j =>
    match j.task with
    | .consume _ s _ => if j.owner.name = name then some s else none
    | _ => none

theorem connecting_ofConsumer (i : Instance) (c : ConsumerRole) :
    connecting (ofConsumer i c) = [i.name] := by
  simp [connecting, ofConsumer, List.filterMap_append, List.filterMap_map, Function.comp_def]

theorem consuming_append (name : String) (jobs jobs' : List Job) :
    consuming name (jobs ++ jobs') = consuming name jobs ++ consuming name jobs' :=
  List.filterMap_append

/-- Among the jobs of an instance, each of its subscriptions is begun to consume
once, in their order. -/
theorem consuming_ofConsumer (i : Instance) (c : ConsumerRole) :
    consuming i.name (ofConsumer i c) = c.subscriptions := by
  simp [consuming, ofConsumer, List.filterMap_append, List.filterMap_map, Function.comp_def]

/-- The jobs of one instance begin nothing for another one. -/
theorem consuming_of_ne {i : Instance} {name : String} (other : i.name ≠ name) (c : ConsumerRole) :
    consuming name (ofConsumer i c) = [] := by
  simp [consuming, ofConsumer, List.filterMap_append, List.filterMap_map, Function.comp_def, other]

theorem consuming_consume (i : Instance) (p : Nat) (s : Subscription) (queue : String)
    (rest : List Job) :
    consuming i.name (⟨i, .consume p s queue⟩ :: rest) = s :: consuming i.name rest := by
  simp [consuming]

/-- Each instance is connected once at most. -/
theorem connecting_all (instances : List Instance) :
    (connecting (all instances)).Sublist (instances.map (·.name)) := by
  induction instances with
  | nil => exact List.Sublist.refl _
  | cons i rest ih =>
      show (connecting (ofInstance i ++ all rest)).Sublist ([i.name] ++ rest.map (·.name))
      unfold connecting at ih ⊢
      rw [List.filterMap_append]
      refine List.Sublist.append ?_ ih
      unfold ofInstance
      split
      next c _ => exact connecting_ofConsumer i c ▸ List.Sublist.refl _
      next => exact List.nil_sublist _

/-- Nothing is begun under a name that no instance has. -/
theorem consuming_of_notMem {name : String} {instances : List Instance}
    (other : name ∉ instances.map (·.name)) : consuming name (all instances) = [] := by
  induction instances with
  | nil => rfl
  | cons i rest ih =>
      rw [List.map_cons, List.mem_cons, not_or] at other
      show consuming name (ofInstance i ++ all rest) = []
      rw [consuming_append, ih other.2, List.append_nil]
      unfold ofInstance
      split
      next c _ => exact consuming_of_ne (Ne.symm other.1) c
      next => rfl

/-- Each subscription is begun once. -/
theorem consuming_all {instances : List Instance} {i : Instance} {c : ConsumerRole}
    (names : (instances.map (·.name)).Nodup) (member : i ∈ instances)
    (consumer : i.consumer = some c) : consuming i.name (all instances) = c.subscriptions := by
  induction instances with
  | nil => cases member
  | cons first rest ih =>
      obtain ⟨fresh, names⟩ := List.nodup_cons.1 names
      show consuming i.name (ofInstance first ++ all rest) = c.subscriptions
      rw [consuming_append]
      rcases List.mem_cons.1 member with rfl | later
      · rw [consuming_of_notMem fresh, List.append_nil, ofInstance, consumer]
        exact consuming_ofConsumer i c
      · rw [ih names later]
        have other : first.name ≠ i.name :=
          fun same => fresh (List.mem_map.2 ⟨i, later, same.symm⟩)
        unfold ofInstance
        split
        next c' _ => rw [consuming_of_ne other c', List.nil_append]
        next => rfl

end Job

namespace Relay

variable {b : Blueprint} {r r' : Relay} {k : Nat} {m : RelayMove}

-- ============================================================ the passes

/-- What holds of the startup passes of a relay: there is one at most, with
jobs of the instances ahead of it, and there was one if anything was begun. -/
structure Passes (r : Relay) : Prop where
  jobs : ∀ (k : Nat) (jobs : List Job) (n : Nat), r.starts[k]? = some (.passing jobs n) →
    r.started = true ∧ jobs.Sublist (Job.all r.instances)
  once : ∀ (k k' : Nat) (jobs jobs' : List Job) (n n' : Nat),
    r.starts[k]? = some (.passing jobs n) → r.starts[k']? = some (.passing jobs' n') → k = k'
  silent : r.started = false → r.intakes = []

/-- Nothing is begun without a pass. -/
theorem Passes.intakes (passes : Passes r) (silent : r.started = false) (turn : IntakesTurn r r') :
    r'.intakes = [] := by
  have none := passes.silent silent
  cases turn with
  | same same _ => rw [same, none]
  | passed found _ _ _ _ =>
      rw [none] at found
      cases found
  | cancels all _ => rw [all, none, List.map_nil]
  | connects did _ _ =>
      have begun := (passes.jobs _ _ _ did.before).1
      rw [silent] at begun
      cases begun
  | begins did _ _ _ =>
      have begun := (passes.jobs _ _ _ did.before).1
      rw [silent] at begun
      cases begun

/-- The turn of a start keeps what is known of the pass. The cases are those of the
turn: only one that claims the start adds jobs, and it does so while none are there. -/
theorem Passes.passed {φ φ' : StartPhase} (passes : Passes r) (passed : Passed r r' k m φ φ')
    (turn : IntakesTurn r r') : Passes r' := by
  have still : r.started = true → r'.started = true := by
    intro begun
    rw [passed.started, begun]
    rfl
  have before := passed.before
  have started := passed.started
  -- what the start is in its pass with, if it is in one
  have own : ∀ jobs n, φ' = .passing jobs n → r'.started = true
      ∧ jobs.Sublist (Job.all r.instances)
      ∧ ∀ k' jobs' n', r.starts[k']? = some (.passing jobs' n') → k' = k := by
    intro jobs n passing
    cases passed.turn with
    | claims fresh =>
        cases passing
        refine ⟨by simp [started], List.Sublist.refl _, fun k' jobs' n' other => ?_⟩
        have begun := (passes.jobs _ _ _ other).1
        rw [fresh] at begun
        cases begun
    | does =>
        cases passing
        obtain ⟨begun, jobs⟩ := passes.jobs _ _ _ before
        exact ⟨still begun, (List.sublist_cons_self _ _).trans jobs,
          fun k' jobs' n' other => passes.once _ _ _ _ _ _ other before⟩
    | fails =>
        cases passing
        obtain ⟨begun, jobs⟩ := passes.jobs _ _ _ before
        exact ⟨still begun, List.filter_sublist.trans ((List.sublist_cons_self _ _).trans jobs),
          fun k' jobs' n' other => passes.once _ _ _ _ _ _ other before⟩
    | _ => cases passing
  refine ⟨?_, ?_, ?_⟩
  · intro k' jobs n passing
    rw [passed.instances]
    rw [passed.starts] at passing
    rcases of_getElem?_set passing with ⟨-, rfl⟩ | ⟨-, old⟩
    · exact ⟨(own _ _ rfl).1, (own _ _ rfl).2.1⟩
    · exact (passes.jobs k' jobs n old).imp_left still
  · intro i j jobs jobs' n n' first second
    rw [passed.starts] at first second
    rcases of_getElem?_set first with ⟨rfl, rfl⟩ | ⟨-, old⟩
    · rcases of_getElem?_set second with ⟨rfl, -⟩ | ⟨-, old'⟩
      · rfl
      · exact ((own _ _ rfl).2.2 _ _ _ old').symm
    · rcases of_getElem?_set second with ⟨rfl, rfl⟩ | ⟨-, old'⟩
      · exact (own _ _ rfl).2.2 _ _ _ old
      · exact passes.once _ _ _ _ _ _ old old'
  · intro silent
    refine passes.intakes ?_ turn
    cases begun : r.started with
    | false => rfl
    | true =>
        rw [still begun] at silent
        cases silent

/-- So does a move that leaves the starts alone, or adds one. -/
theorem Passes.aside (passes : Passes r) (aside : Aside r r')
    (starts : r'.starts = r.starts ∨ m = .start ∧ r'.starts = r.starts ++ [.entering])
    (turn : IntakesTurn r r') : Passes r' := by
  refine ⟨?_, ?_, ?_⟩
  · intro k jobs n passing
    rw [aside.instances, aside.started]
    exact passes.jobs k jobs n (begun_of_aside starts passing (by simp))
  · intro k k' jobs jobs' n n' first second
    exact passes.once _ _ _ _ _ _ (begun_of_aside starts first (by simp))
      (begun_of_aside starts second (by simp))
  · intro silent
    exact passes.intakes (aside.started ▸ silent) turn

/-- In every relay that can come about there is one pass at most, and nothing was
begun without it. -/
theorem passes_of_reachable (reachable : Reachable b r) : Passes r := by
  induction reachable with
  | start created =>
      obtain ⟨p, -, rfl⟩ := create_cases created
      exact ⟨nofun, nofun, fun _ => rfl⟩
  | step m _ step passes =>
      rcases step_cases step with ⟨k, φ, φ', passed⟩ | ⟨aside, starts⟩
      · exact passes.passed passed (intakes_step step)
      · exact passes.aside aside starts (intakes_step step)

-- ============================================================ their owners

/-- An intake that an instance with this consumer role has. -/
structure Serves (c : ConsumerRole) (t : Intake) : Prop where
  reachable : Intake.Reachable c.settings.maxParallelism.toNat t
  readers : ∀ q ∈ t.readers, q.subscription ∈ c.subscriptions
    ∧ q.prefetch = some q.subscription.maxParallelism

/-- Every intake has the token of the relay, and belongs to the instance of its
name. -/
def Served (r : Relay) : Prop :=
  ∀ name t, (name, t) ∈ r.intakes → t.cancelled = r.cancelled
    ∧ ∃ i ∈ r.instances, i.name = name ∧ ∃ c, i.consumer = some c ∧ Serves c t

/-- A reader that goes on keeps its subscription and its limit, whatever it does. -/
theorem Serves.passed {c : ConsumerRole} {t t' : Intake} {m : IntakeMove} {n : Nat} {q q' : Reader}
    (serves : Serves c t) (step : t.step? m = some t') (passed : Intake.Passed t t' n q q') :
    Serves c t' := by
  refine ⟨.step m serves.reachable step, ?_⟩
  intro x member
  rw [passed.readers] at member
  rcases List.mem_or_eq_of_mem_set member with old | rfl
  · exact serves.readers x old
  · obtain ⟨subscription, -, prefetch⟩ := passed.turn.fixed
    rw [subscription, prefetch]
    exact serves.readers q (List.mem_of_getElem? passed.before)

/-- A reader that is begun for a subscription of the instance is as it should be. -/
theorem Serves.consume {c : ConsumerRole} {t : Intake} {s : Subscription} (serves : Serves c t)
    (member : s ∈ c.subscriptions) (queue : String) : Serves c (t.consume s queue) := by
  refine ⟨.step (.register s queue) (.step (.limit s.maxParallelism) serves.reachable rfl) rfl, ?_⟩
  intro x inside
  rcases List.mem_append.1 inside with old | new
  · exact serves.readers x old
  · obtain rfl := List.mem_singleton.1 new
    exact ⟨member, rfl⟩

/-- Cancelling changes neither subscriptions nor limits. -/
theorem Serves.cancel {c : ConsumerRole} {t : Intake} (serves : Serves c t) :
    Serves c t.cancel := by
  refine ⟨.step .cancel serves.reachable rfl, ?_⟩
  intro x inside
  obtain ⟨q, member, rfl⟩ := List.mem_map.1 inside
  exact serves.readers q member

/-- An intake that begins has no readers, and the permits of its instance. -/
theorem serves_newIntake {i : Instance} {c : ConsumerRole} (r : Relay)
    (consumer : i.consumer = some c) : Serves c (r.newIntake i) := by
  have permits : i.dispatchConcurrency = c.settings.maxParallelism := by
    simp [Instance.dispatchConcurrency, consumer]
  refine ⟨?_, fun _ member => nomatch member⟩
  unfold newIntake
  rw [permits]
  cases r.cancelled with
  | false => exact .start
  | true => exact .step .cancel .start rfl

/-- A job of a pass is one of its owner. -/
theorem Passes.owner (passes : Passes r) {n : Nat} {j : Job} {rest : List Job}
    (before : r.starts[k]? = some (.passing (j :: rest) n)) :
    j.owner ∈ r.instances ∧ ∃ c, j.owner.consumer = some c ∧ j ∈ Job.ofConsumer j.owner c := by
  obtain ⟨i, member, c, consumer, job⟩ :=
    Job.mem_all ((passes.jobs _ _ _ before).2.subset List.mem_cons_self)
  obtain rfl := Job.owner_of_mem job
  exact ⟨member, c, consumer, job⟩

/-- What the intakes are begun with is kept by every move; the owner of a job is
found by its name, since names are not shared. -/
theorem Served.step (served : Served r) (passes : Passes r)
    (names : (r.instances.map (·.name)).Nodup) (same : r'.instances = r.instances)
    (turn : IntakesTurn r r') : Served r' := by
  unfold Served
  rw [same]
  intro name t entry
  cases turn with
  | same intakes cancelled =>
      rw [cancelled]
      exact served name t (intakes ▸ entry)
  | passed found step passed intakes cancelled =>
      rw [cancelled]
      rcases KeyedList.mem_put (intakes ▸ entry) with new | old
      · cases new
        obtain ⟨token, i, owner, rfl, c, consumer, serves⟩ :=
          served _ _ (KeyedList.entry_of_get? found)
        exact ⟨passed.cancelled.trans token, i, owner, rfl, c, consumer, serves.passed step passed⟩
      · exact served name t old
  | cancels intakes cancelled =>
      rw [intakes] at entry
      obtain ⟨⟨name', t'⟩, member, same⟩ := List.mem_map.1 entry
      cases same
      obtain ⟨-, i, owner, rfl, c, consumer, serves⟩ := served _ _ member
      exact ⟨cancelled.symm, i, owner, rfl, c, consumer, serves.cancel⟩
  | connects did intakes cancelled =>
      rw [cancelled]
      rcases KeyedList.mem_put (intakes ▸ entry) with new | old
      · cases new
        obtain ⟨owner, c, consumer, -⟩ := passes.owner did.before
        exact ⟨rfl, _, owner, rfl, c, consumer, serves_newIntake r consumer⟩
      · exact served name t old
  | begins did found intakes cancelled =>
      rw [cancelled]
      rcases KeyedList.mem_put (intakes ▸ entry) with new | old
      · cases new
        obtain ⟨owner, c, consumer, job⟩ := passes.owner did.before
        obtain ⟨token, i, theirs, same, c', consumer', serves⟩ :=
          served _ _ (KeyedList.entry_of_get? found)
        obtain rfl := Blueprint.eq_of_name names owner theirs same
        obtain rfl := Option.some.inj (consumer.symm.trans consumer')
        exact ⟨token, i, theirs, rfl, c, consumer, serves.consume (Job.subscription_of_mem job) _⟩
      · exact served name t old

/-- In every relay that can come about the intakes are those of their instances. -/
theorem served_of_reachable (reachable : Reachable b r)
    (names : (b.instances.map (·.name)).Nodup) : Served r := by
  induction reachable with
  | start created =>
      obtain ⟨p, -, rfl⟩ := create_cases created
      exact fun _ _ member => nomatch member
  | step m reachable step served =>
      refine served.step (passes_of_reachable reachable) ?_ (instances_step step)
        (intakes_step step)
      rw [instances_of_reachable reachable]
      exact names

-- ======================================================== begun or ahead

/-- The jobs are ahead of a pass; where there is none, no jobs are. -/
def IsAhead (r : Relay) (jobs : List Job) : Prop :=
  jobs = [] ∨ ∃ (k n : Nat), r.starts[k]? = some (.passing jobs n)

/-- An intake is not begun again, and what its readers read, with what is still
to be read, are subscriptions of its instance, each once. -/
def Apart (r : Relay) : Prop :=
  ∀ name t, (name, t) ∈ r.intakes → ∀ i ∈ r.instances, i.name = name →
    ∀ c, i.consumer = some c → ∀ jobs, r.IsAhead jobs → name ∉ Job.connecting jobs
      ∧ (t.readers.map (·.subscription) ++ Job.consuming name jobs).Sublist c.subscriptions

/-- Jobs that are ahead were ahead before, unless the pass has just begun. -/
theorem ahead_of_step {jobs : List Job} (step : r.step? m = some r') (ahead : r'.IsAhead jobs) :
    r.started = false ∨ ∃ before, r.IsAhead before ∧ jobs.Sublist before := by
  rcases ahead with rfl | ⟨k', n', passing⟩
  · exact .inr ⟨[], .inl rfl, List.Sublist.refl _⟩
  rcases step_cases step with ⟨k, φ, φ', passed⟩ | ⟨-, starts⟩
  · rw [passed.starts] at passing
    rcases of_getElem?_set passing with ⟨rfl, rfl⟩ | ⟨-, old⟩
    · have before := passed.before
      cases passed.turn with
      | claims fresh => exact .inl fresh
      | does => exact .inr ⟨_, .inr ⟨_, _, before⟩, List.sublist_cons_self _ _⟩
      | fails =>
          exact .inr ⟨_, .inr ⟨_, _, before⟩,
            List.filter_sublist.trans (List.sublist_cons_self _ _)⟩
    · exact .inr ⟨jobs, .inr ⟨k', n', old⟩, List.Sublist.refl _⟩
  · exact .inr ⟨jobs, .inr ⟨k', n', begun_of_aside starts passing (by simp)⟩,
      List.Sublist.refl _⟩

/-- When a job is done, those after it are ahead, and no others. -/
theorem Did.ahead {j : Job} {rest jobs : List Job} {n : Nat} (did : Did r r' k j rest n)
    (passes : Passes r) (ahead : r'.IsAhead jobs) : jobs.Sublist rest := by
  rcases ahead with rfl | ⟨k', n', passing⟩
  · exact List.nil_sublist _
  · rw [did.starts] at passing
    rcases of_getElem?_set passing with ⟨-, same⟩ | ⟨other, old⟩
    · cases same
      exact List.Sublist.refl _
    · exact absurd (passes.once _ _ _ _ _ _ old did.before) other

/-- What a job begins leaves the jobs that are ahead by the same move. -/
theorem Apart.step (apart : Apart r) (passes : Passes r)
    (names : (r.instances.map (·.name)).Nodup) (step : r.step? m = some r') : Apart r' := by
  have turn := intakes_step step
  intro name t entry i owner named c consumer jobs ahead
  rw [instances_step step] at owner
  -- an intake that was there before, with the same readers
  have old : ∀ t' : Intake, (name, t') ∈ r.intakes →
      t.readers.map (·.subscription) = t'.readers.map (·.subscription) →
      name ∉ Job.connecting jobs
        ∧ (t.readers.map (·.subscription) ++ Job.consuming name jobs).Sublist c.subscriptions := by
    intro t' member same
    rcases ahead_of_step step ahead with fresh | ⟨before, were, fewer⟩
    · rw [passes.silent fresh] at member
      cases member
    · obtain ⟨begun, fits⟩ := apart name t' member i owner named c consumer before were
      refine ⟨fun again => begun ((fewer.filterMap _).subset again), ?_⟩
      rw [same]
      exact (List.Sublist.append (List.Sublist.refl _) (fewer.filterMap _)).trans fits
  cases turn with
  | same intakes _ => exact old t (intakes ▸ entry) rfl
  | passed found _ passed intakes _ =>
      rcases KeyedList.mem_put (intakes ▸ entry) with new | entry
      · cases new
        exact old _ (KeyedList.entry_of_get? found) passed.subscriptions
      · exact old t entry rfl
  | cancels intakes _ =>
      rw [intakes] at entry
      obtain ⟨⟨name', t'⟩, member, same⟩ := List.mem_map.1 entry
      cases same
      exact old t' member (List.map_map ..)
  | connects did intakes _ =>
      rcases KeyedList.mem_put (intakes ▸ entry) with new | entry
      · cases new
        -- the jobs of the pass connect no instance twice
        have fewer := did.ahead passes ahead
        have jobs := (passes.jobs _ _ _ did.before).2
        have once := (jobs.filterMap _).nodup
          ((Job.connecting_all r.instances).nodup names)
        obtain ⟨fresh, -⟩ := List.nodup_cons.1 once
        refine ⟨fun again => fresh ((fewer.filterMap _).subset again), ?_⟩
        rw [← Job.consuming_all names owner consumer, named]
        exact ((fewer.trans (List.sublist_cons_self _ _)).trans jobs).filterMap _
      · exact old t entry rfl
  | @begins _ _ p i' rest s queue t' did found intakes _ =>
      rcases KeyedList.mem_put (intakes ▸ entry) with new | entry
      · cases new
        -- what was ahead is read now
        have fewer := did.ahead passes ahead
        obtain ⟨begun, fits⟩ :=
          apart _ _ (KeyedList.entry_of_get? found) i owner named c consumer _
            (.inr ⟨_, _, did.before⟩)
        have later := fewer.trans (List.sublist_cons_self ⟨i', .consume p s queue⟩ rest)
        refine ⟨fun again => begun ((later.filterMap _).subset again), ?_⟩
        show ((t'.readers ++ [_]).map Reader.subscription ++ _).Sublist _
        rw [Job.consuming_consume] at fits
        rw [List.map_append, List.append_assoc]
        refine List.Sublist.trans ?_ fits
        exact (List.Sublist.refl _).append ((fewer.filterMap _).cons_cons s)
      · exact old t entry rfl

/-- In every relay that can come about nothing that was begun is still ahead of the
pass. -/
theorem apart_of_reachable (reachable : Reachable b r)
    (names : (b.instances.map (·.name)).Nodup) : Apart r := by
  induction reachable with
  | start created =>
      obtain ⟨p, -, rfl⟩ := create_cases created
      exact fun _ _ member => nomatch member
  | step m reachable step apart =>
      refine apart.step (passes_of_reachable reachable) ?_ step
      rw [instances_of_reachable reachable]
      exact names

end Relay

end Courier
