/-
What is asked of the description of a relay, as a list: one requirement after
another, in the order in which they are looked at, each with the failure that is
reported where it is not met. Nothing here checks anything; the checks are
compared with the list in Acceptance.lean.

A computation screens a list of requirements (`Screens`) if it fails with the
first one that is not met and succeeds if there is none. Screening two lists one
after the other is screening the one behind the other (`Screens.bind`), so every
check is read off its own lines only.
-/
import Courier.Blueprint

namespace Courier

-- ======================================================== requirements

/-- Something asked of a description, and the failure reported where it is not
so. -/
structure Requirement where
  met : Prop
  failure : Failure

namespace Requirement

/-- Something that has to be so, for a reason. -/
def that (met : Prop) (reason : String) : Requirement := ⟨met, .invalidConfiguration reason⟩

/-- A text that may not be blank. -/
def given (what value : String) : Requirement :=
  that (Text.isBlank value = false) ("the " ++ what ++ " must be specified")

end Requirement

/-- The first requirement of a list that is not met has that failure. -/
inductive FirstUnmet : List Requirement → Failure → Prop where
  | here {r : Requirement} {rest : List Requirement} :
    ¬ r.met → FirstUnmet (r :: rest) r.failure
  | later {r : Requirement} {rest : List Requirement} {f : Failure} :
    r.met → FirstUnmet rest f → FirstUnmet (r :: rest) f

section

variable {rs qs : List Requirement} {f f' : Failure}

/-- What comes after the first unmet requirement does not matter. -/
theorem FirstUnmet.append (first : FirstUnmet rs f) (qs : List Requirement) :
    FirstUnmet (rs ++ qs) f := by
  induction first with
  | here unmet => exact .here unmet
  | later met _ ih => exact .later met ih

/-- Requirements that are met may stand before it. -/
theorem FirstUnmet.behind (met : ∀ r ∈ rs, r.met) (first : FirstUnmet qs f) :
    FirstUnmet (rs ++ qs) f := by
  induction rs with
  | nil => exact first
  | cons r rest ih =>
      refine .later (met r List.mem_cons_self) (ih fun q member => ?_)
      exact met q (List.mem_cons_of_mem _ member)

/-- Where one is the first that is not met, not all are met. -/
theorem FirstUnmet.not_all (first : FirstUnmet rs f) : ¬ ∀ r ∈ rs, r.met := by
  intro all
  induction first with
  | here unmet => exact unmet (all _ List.mem_cons_self)
  | later _ _ ih => exact ih fun q member => all q (List.mem_cons_of_mem _ member)

/-- There is one failure to report. -/
theorem FirstUnmet.unique (first : FirstUnmet rs f) (second : FirstUnmet rs f') : f = f' := by
  induction first with
  | here unmet =>
      cases second with
      | here => rfl
      | later met => exact absurd met unmet
  | later met _ ih =>
      cases second with
      | here unmet => exact absurd met unmet
      | later _ second => exact ih second

end

-- =========================================================== screening

/-- A computation that reports the first requirement that is not met, and gives
something good if all of them are. -/
inductive Screens {α : Type} (good : α → Prop) (rs : List Requirement) :
    Except Failure α → Prop where
  | passed {a : α} : (∀ r ∈ rs, r.met) → good a → Screens good rs (.ok a)
  | stopped {f : Failure} : FirstUnmet rs f → Screens good rs (.error f)

section

variable {α β : Type} {good : α → Prop} {fine : β → Prop} {rs qs : List Requirement}

theorem Screens.pure {a : α} (is : good a) : Screens good [] (pure a : Except Failure α) :=
  .passed (fun _ none => nomatch none) is

/-- One computation after another screens the requirements of both. -/
theorem Screens.bind {x : Except Failure α} {g : α → Except Failure β} (first : Screens good rs x)
    (next : ∀ a, good a → Screens fine qs (g a)) : Screens fine (rs ++ qs) (x >>= g) := by
  cases first with
  | stopped unmet => exact .stopped (unmet.append qs)
  | @passed a met is =>
      show Screens fine (rs ++ qs) (g a)
      have second := next a is
      generalize g a = y at second ⊢
      cases second with
      | stopped unmet => exact .stopped (unmet.behind met)
      | passed met' is =>
          exact .passed (fun r member => (List.mem_append.1 member).elim (met r) (met' r)) is

/-- What is made of an accepted value is accepted by the same requirements. -/
theorem Screens.map {x : Except Failure α} {g : α → β} (first : Screens good rs x)
    (kept : ∀ a, good a → fine (g a)) : Screens fine rs (g <$> x) := by
  cases first with
  | stopped unmet => exact .stopped unmet
  | passed met is => exact .passed met (kept _ is)

/-- A list is gone through in its order. -/
theorem Screens.mapM {source : β → α} {asks : α → Requirement} {g : α → Except Failure β}
    (each : ∀ a, Screens (fun b => source b = a) [asks a] (g a)) (as : List α) :
    Screens (fun bs => bs.map source = as) (as.map asks) (as.mapM g) := by
  induction as with
  | nil => exact .pure rfl
  | cons a rest ih =>
      rw [List.mapM_cons]
      show Screens _ ([asks a] ++ rest.map asks) _
      refine (each a).bind fun b is => ?_
      rw [← List.append_nil (rest.map asks)]
      refine ih.bind fun bs all => .pure ?_
      rw [List.map_cons, is, all]

/-- A text is accepted if it is given. -/
theorem screens_required (what value : String) :
    Screens (fun _ => True) [.given what value] (required what value) := by
  unfold required
  split
  next blank => exact .stopped (.here (by simp [Requirement.given, Requirement.that, blank]))
  next given =>
    refine .passed (fun r member => ?_) trivial
    rw [List.mem_singleton.1 member]
    exact Bool.eq_false_iff.2 given

/-- A check that refuses on a condition requires that the condition does not hold. -/
theorem screens_refuseIf {condition : Bool} {met : Prop} (reason : String)
    (meant : condition = false ↔ met) :
    Screens (fun _ => True) [.that met reason] (refuseIf condition reason) := by
  unfold refuseIf
  split
  next so => exact .stopped (.here fun met => by simp [meant.2 met] at so)
  next not =>
    refine .passed (fun r member => ?_) trivial
    rw [List.mem_singleton.1 member]
    exact meant.1 (Bool.eq_false_iff.2 not)

end

-- ================================================ what a relay has to be

/-- A connection needs its texts, a port, and a time between attempts. -/
def Settings.Connection.requirements (c : Settings.Connection) : List Requirement := [
  .given "host" c.host,
  .given "virtual host" c.virtualHost,
  .given "user" c.user,
  .given "password" c.password,
  .that (c.port ≠ 0) "the port must be correct",
  .that (0 < c.retryTimeout.nanoseconds) "retry timeout must be greater than 0"]

/-- A consumer needs a group, and a ceiling to process anything. -/
def Settings.Consumer.requirements (c : Settings.Consumer) : List Requirement := [
  .given "consumer group" c.group,
  .that (1 ≤ c.maxParallelism) "max degree of parallelism must be greater than 0"]

/-- A producer needs a channel, and a time between attempts. -/
def Settings.Producer.requirements (p : Settings.Producer) : List Requirement := [
  .that (1 ≤ p.maxPoolLength) "the maximum number of producers must be at least 1",
  .that (0 < p.attemptDelay.nanoseconds) "attempt delay must be greater than 0"]

/-- A subscription has to be one, and to stay within the ceiling. -/
def ConsumerDraft.requirement (settings : Settings.Consumer) :
    Except Failure Subscription → Requirement
  | .error f => ⟨False, f⟩
  | .ok s => .that (s.maxParallelism ≤ settings.maxParallelism) (tooParallel s settings)

/-- The settings of a consumer come before its subscriptions. -/
def ConsumerDraft.requirements (d : ConsumerDraft) : List Requirement :=
  d.settings.requirements ++ d.subscriptions.map (requirement d.settings)

/-- Every init operation needs the names of its objects. -/
def Topology.Init.requirements (i : Topology.Init) : List Requirement := [
  .that (∀ e ∈ i.exchanges, e.name ≠ none) "an init exchange declaration must be named",
  .that (∀ q ∈ i.queues, q.name ≠ none) "an init queue declaration must be named",
  .that (∀ b ∈ i.queueBindings, b.queue ≠ none ∧ b.exchange ≠ none)
    "an init queue binding must name its queue and exchange"]

/-- What is asked of something optional. -/
def Requirement.ofSome {α : Type} (asks : α → List Requirement) : Option α → List Requirement
  | some a => asks a
  | none => []

/-- An instance: its name, its connection, its roles, and its init operations. -/
def InstanceDraft.requirements (d : InstanceDraft) : List Requirement :=
  .given "instance name" d.name :: d.connection.requirements
    ++ Requirement.ofSome ConsumerDraft.requirements d.consumer
    ++ Requirement.ofSome Settings.Producer.requirements d.producer
    ++ .that (d.consumer.isSome ∨ d.producer.isSome) (noRole d.name)
    :: Requirement.ofSome Topology.Init.requirements d.init

/-- Instances in order, each with a name that none before it has. -/
def Blueprint.requirements (earlier : List String) : List InstanceDraft → List Requirement
  | [] => []
  | d :: rest =>
    d.requirements ++ .that (d.name ∉ earlier) (usedTwice d.name)
      :: requirements (d.name :: earlier) rest

end Courier
