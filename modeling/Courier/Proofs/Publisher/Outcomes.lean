/-
What sending a message comes to. A sender is told three things: that its
instance does not publish, that the publisher is closed, or that the message
was sent; what goes wrong at the broker is only logged.

That is not the whole of it. A message takes its channel before anything
else, and when the channel cannot be made the sender is told why: that the
broker cannot be reached, that the connection gives no channel, or which
declaration of the instance was refused. `outcome_of_run` says exactly when
a sender is told what, over every run; `not_always_swallowed` is a run in
which it is told of a broker that cannot be reached.

# The record of a message

The moves made so far say what a message may come to (`Told`). Each turn
adds one move, so a message is told of by its own turns only (`SendTurn`);
the turns of others, the signal and the closing of a pool leave it where it
was, and what they do to the outlets lasts (`Lasting`).
-/
import Courier.Proofs.Publisher.Links
import Courier.Relay.Session

namespace Courier

-- ============================================================ the turns

/-- The message is out of the sender's hands: the broker answered to it, or
will not be asked any more. -/
def SendPhase.IsHanded : SendPhase → Prop
  | publishing _ _ | returning _ | restoring _ | finished (.ok ()) => True
  | _ => False

namespace SendTurn

variable {k retries : Nat} {posting : Posting} {pool pool' : Pool} {m : PublisherMove}
  {ready : Bool} {phase next : SendPhase}

/-- A message that the broker answered to does not fail any more. -/
theorem handed (turn : SendTurn k ready retries posting pool m phase pool' next)
    (handed : phase.IsHanded ∨ m = .accepted k ∨ m = .refused k) : next.IsHanded := by
  cases turn with
  | nears which _ _ _ =>
      rcases which with rfl | rfl <;> rcases handed with no | no | no <;> cases no
  | gets _ _ => rcases handed with no | no | no <;> cases no
  | refused _ _ => rcases handed with no | no | no <;> cases no
  | unmade _ => rcases handed with no | no | no <;> cases no
  | _ => trivial

/-- A message whose channel is not made fails with the reason for it. -/
theorem unmade_fails {f : Failure}
    (turn : SendTurn k ready retries posting pool (.unmade k f) phase pool' next) :
    next = .finished (.error f) := by
  cases turn with
  | nears which _ _ _ => rcases which with no | no <;> cases no
  | through which => rcases which with no | no | no <;> cases no
  | unmade _ => rfl

/-- A message fails for want of a channel, and for nothing else. -/
theorem failed {f : Failure}
    (turn : SendTurn k ready retries posting pool m phase pool' next)
    (ended : next = .finished (.error f)) :
    m = .unmade k f ∨ f = .alreadyDisposed ∧ pool.isOpen = false := by
  cases turn with
  | gets _ _ =>
      unfold Publisher.afterTaking at ended
      split at ended <;> cases ended
  | refused _ shut =>
      cases ended
      exact .inr ⟨rfl, shut⟩
  | unmade _ =>
      cases ended
      exact .inl rfl
  | _ => cases ended

end SendTurn

namespace Publisher

variable {p p' : Publisher} {k : Nat} {s : Send} {m : PublisherMove} {instances : List Instance}
  {ms : List PublisherMove}

-- ======================================================= who publishes

/-- Whether one of the instances has this name and publishes. -/
def publishes (instances : List Instance) (name : String) : Bool :=
  instances.any fun i => i.name == name && i.producer.isSome

/-- The pool of this name is closed. -/
def Closed (p : Publisher) (name : String) : Prop :=
  ∃ o, p.outlet? name = some o ∧ o.pool.isOpen = false

theorem Closed.lasting {name : String} (closed : Closed p name) (lasting : Lasting p p') :
    Closed p' name := by
  obtain ⟨o, found, shut⟩ := closed
  obtain ⟨o', found', -, shut'⟩ := lasting.some name o found
  exact ⟨o', found', shut' shut⟩

theorem isSome_of_outletsOf {outlets : List (String × Outlet)} {name : String}
    (created : outletsOf instances = some (.ok outlets)) :
    (KeyedList.get? name outlets).isSome = publishes instances name := by
  induction instances generalizing outlets with
  | nil =>
      cases created
      rfl
  | cons i rest ih =>
      rcases outletsOf_cons created with ⟨silent, created⟩
        | ⟨settings, pool, others, producer, -, hothers, rfl⟩
      · rw [ih created]
        simp [publishes, silent]
      · rw [KeyedList.get?_put]
        by_cases same : name = i.name
        · simp [publishes, same, producer]
        · rw [if_neg same, ih hothers]
          simp [publishes, Ne.symm same]

/-- Moves neither add an outlet nor take one away. -/
theorem Lasting.isSome (lasting : Lasting p p') (name : String) :
    (p'.outlet? name).isSome = (p.outlet? name).isSome := by
  cases found : p.outlet? name with
  | none => rw [lasting.none name found]
  | some o =>
      obtain ⟨o', found', -⟩ := lasting.some name o found
      rw [found']
      rfl

-- ============================================================== runs

/-- The publisher that those moves make of a new one. -/
inductive Run (instances : List Instance) : List PublisherMove → Publisher → Prop where
  | start {p : Publisher} : create instances = some (.ok p) → Run instances [] p
  | step {ms : List PublisherMove} {p p' : Publisher} (m : PublisherMove) :
    Run instances ms p → p.step? m = some p' → Run instances (ms ++ [m]) p'

theorem Run.links (run : Run instances ms p) : Links p := by
  induction run with
  | start created => exact links_of_create created
  | step m _ step links => exact links_step links step

theorem Run.reachable (run : Run instances ms p) : Reachable instances p := by
  induction run with
  | start created => exact .start created
  | step m _ step reachable => exact .step m reachable step

/-- Every reachable publisher has a run. -/
theorem run_of_reachable (reachable : Reachable instances p) : ∃ ms, Run instances ms p := by
  induction reachable with
  | start created => exact ⟨[], .start created⟩
  | step m _ step run =>
      obtain ⟨ms, run⟩ := run
      exact ⟨ms ++ [m], run.step m step⟩

/-- Some more moves after a run. -/
theorem Run.append (run : Run instances ms p) (more : List PublisherMove)
    (moved : more.foldlM step? p = some p') : Run instances (ms ++ more) p' := by
  induction more generalizing ms p with
  | nil =>
      cases moved
      rw [List.append_nil]
      exact run
  | cons m rest ih =>
      obtain ⟨next, step, moved⟩ := Option.bind_eq_some_iff.1 moved
      rw [List.append_cons]
      exact ih (run.step m step) moved

-- ================================================= what the moves tell

/-- What the moves made so far say of message `k`. -/
structure Told (ms : List PublisherMove) (p : Publisher) (k : Nat) (s : Send) : Prop where
  unknown : p.outlet? s.posting.instanceName = none →
    s.phase = .finished (.error (.unknownInstance s.posting.instanceName))
  unmade : ∀ f, .unmade k f ∈ ms → s.phase = .finished (.error f)
  handed : .accepted k ∈ ms ∨ .refused k ∈ ms → s.phase.IsHanded
  failed : ∀ f, s.phase = .finished (.error f) → p.outlet? s.posting.instanceName = none
    ∨ .unmade k f ∈ ms ∨ f = .alreadyDisposed ∧ Closed p s.posting.instanceName

/-- A move of somebody else tells nothing of a message. -/
theorem Told.other (told : Told ms p k s) (lasting : Lasting p p') (other : m.send? ≠ some k) :
    Told (ms ++ [m]) p' k s := by
  have old : ∀ {m' : PublisherMove}, m' ∈ ms ++ [m] → m'.send? = some k → m' ∈ ms := by
    intro m' member own
    rcases List.mem_append.1 member with old | new
    · exact old
    · rw [List.mem_singleton.1 new] at own
      exact absurd own other
  refine ⟨?_, ?_, ?_, ?_⟩
  · intro none
    apply told.unknown
    rw [← Option.isNone_iff_eq_none, ← Option.not_isSome] at none ⊢
    rw [← lasting.isSome, none]
  · intro f member
    exact told.unmade f (old member rfl)
  · intro answered
    apply told.handed
    exact answered.imp (old · rfl) (old · rfl)
  · intro f ended
    rcases told.failed f ended with none | member | ⟨rfl, closed⟩
    · exact .inl (lasting.none _ none)
    · exact .inr (.inl (List.mem_append_left _ member))
    · exact .inr (.inr ⟨rfl, closed.lasting lasting⟩)

/-- A message that has not ended has an outlet, and none of its channels
failed. -/
theorem Told.turn {o : Outlet} {pool : Pool} {next : SendPhase} (told : Told ms p k s)
    (moved : Moved p p' k s o pool next)
    (turn : SendTurn k p.ready o.settings.maxRetryCount.toNat s.posting o.pool m s.phase pool
      next) : Told (ms ++ [m]) p' k { s with phase := next } := by
  obtain ⟨t, ht⟩ := turn.taker?
  have found : p'.outlet? s.posting.instanceName = some { o with pool := pool } := by
    rw [moved.outlets, if_pos rfl]
  have running : ∀ result, s.phase ≠ .finished result := by
    intro result ended
    rw [ended] at ht
    cases ht
  refine ⟨?_, ?_, ?_, ?_⟩
  · intro none
    rw [found] at none
    cases none
  · intro f member
    rcases List.mem_append.1 member with old | new
    · exact absurd (told.unmade f old) (running _)
    · cases List.mem_singleton.1 new
      exact turn.unmade_fails
  · intro answered
    apply turn.handed
    rcases answered with member | member <;> rcases List.mem_append.1 member with old | new
    · exact .inl (told.handed (.inl old))
    · exact .inr (.inl (List.mem_singleton.1 new).symm)
    · exact .inl (told.handed (.inr old))
    · exact .inr (.inr (List.mem_singleton.1 new).symm)
  · intro f ended
    rcases turn.failed ended with rfl | ⟨rfl, shut⟩
    · exact .inr (.inl (List.mem_append_right _ List.mem_cons_self))
    · exact .inr (.inr ⟨rfl, _, found, turn.isOpen.trans shut⟩)

/-- A new message has not made a move. -/
theorem told_post {posting : Posting} (fresh : ∀ m ∈ ms, m.send? ≠ some p.sends.length)
    (sent : (p.post posting).sends[p.sends.length]? = some s) :
    Told (ms ++ [.post posting]) (p.post posting) p.sends.length s := by
  have none : ∀ {m : PublisherMove}, m ∈ ms ++ [.post posting] →
      m.send? ≠ some p.sends.length := by
    intro m member
    rcases List.mem_append.1 member with old | new
    · exact fresh m old
    · rw [List.mem_singleton.1 new]
      nofun
  have unmade : ∀ f, .unmade p.sends.length f ∈ ms ++ [.post posting] →
      s.phase = .finished (.error f) := fun f member => absurd rfl (none member)
  have handed : .accepted p.sends.length ∈ ms ++ [.post posting]
      ∨ .refused p.sends.length ∈ ms ++ [.post posting] → s.phase.IsHanded := by
    rintro (member | member)
    · exact absurd rfl (none member)
    · exact absurd rfl (none member)
  cases found : p.outlet? posting.instanceName with
  | none =>
      rw [post_of_none found] at sent ⊢
      rw [addSend, List.getElem?_concat_length] at sent
      cases sent
      exact ⟨fun _ => rfl, unmade, handed, fun f _ => .inl found⟩
  | some o =>
      rw [post_of_found found] at sent ⊢
      rw [setPool, addSend, List.getElem?_concat_length] at sent
      cases sent
      refine ⟨?_, unmade, handed, nofun⟩
      intro none
      rw [outlet?_setPool, if_pos rfl] at none
      cases none

-- ============================================================= every run

/-- What every run tells. -/
structure Chronicle (instances : List Instance) (ms : List PublisherMove) (p : Publisher) :
    Prop where
  inside : ∀ m ∈ ms, ∀ k, m.send? = some k → k < p.sends.length
  outlets : ∀ name, (p.outlet? name).isSome = publishes instances name
  told : ∀ k s, p.sends[k]? = some s → Told ms p k s

/-- No move but its own changes a message. -/
theorem chronicle_step (links : Links p) (told : Chronicle instances ms p)
    (step : p.step? m = some p') : Chronicle instances (ms ++ [m]) p' := by
  have lasting := lasting_step links step
  have outlets : ∀ name, (p'.outlet? name).isSome = publishes instances name :=
    fun name => (lasting.isSome name).trans (told.outlets name)
  have inside : p.sends.length ≤ p'.sends.length →
      (∀ k, m.send? = some k → k < p'.sends.length) →
      ∀ m' ∈ ms ++ [m], ∀ k, m'.send? = some k → k < p'.sends.length := by
    intro longer own m' member k hk
    rcases List.mem_append.1 member with old | new
    · exact Nat.lt_of_lt_of_le (told.inside m' old k hk) longer
    · rw [List.mem_singleton.1 new] at hk
      exact own k hk
  rcases step_cases links step with ⟨posting, rfl, rfl⟩ | ⟨rfl, rfl⟩ | ⟨name, o, rfl, found, rfl⟩
    | ⟨k, s, o, pool, next, moved, turn⟩
  · refine ⟨inside (by rw [length_post]; omega) nofun, outlets, ?_⟩
    intro j s' sent
    by_cases before : j < p.sends.length
    · rw [sends_post before] at sent
      exact (told.told j s' sent).other lasting nofun
    · have last : j = p.sends.length := by
        have := (List.getElem?_eq_some_iff.1 sent).1
        rw [length_post] at this
        omega
      subst last
      apply told_post _ sent
      intro m member own
      exact Nat.lt_irrefl _ (told.inside m member _ own)
  · exact ⟨inside (Nat.le_refl _) nofun, outlets,
      fun j s' sent => (told.told j s' sent).other lasting nofun⟩
  · exact ⟨inside (Nat.le_refl _) nofun, outlets,
      fun j s' sent => (told.told j s' sent).other lasting nofun⟩
  · have length : p'.sends.length = p.sends.length := by
      rw [moved.sends, List.length_set]
    refine ⟨inside (Nat.le_of_eq length.symm) ?_, outlets, ?_⟩
    · intro j own
      rw [turn.send?] at own
      cases own
      rw [length]
      exact (List.getElem?_eq_some_iff.1 moved.sent).1
    · intro j s' sent
      rcases moved.cases sent with ⟨rfl, rfl⟩ | ⟨other, old⟩
      · exact (told.told j s moved.sent).turn moved turn
      · apply (told.told j s' old).other lasting
        rw [turn.send?]
        exact fun same => other (Option.some.inj same).symm

theorem Run.chronicle (run : Run instances ms p) : Chronicle instances ms p := by
  induction run with
  | start created =>
      refine ⟨nofun, fun name => isSome_of_outletsOf (create_cases created).1, ?_⟩
      intro k s sent
      rw [(create_cases created).2.2] at sent
      cases sent
  | step m run step told => exact chronicle_step run.links told step

/-- What a sender is told. One whose instance does not publish is told so.
Any other one is told why its channel was not made, or that the publisher is
closed; and once the broker answered to the message, in whatever way, it is
told that the message was sent. -/
theorem outcome_of_run (run : Run instances ms p) (sent : p.sends[k]? = some s)
    {result : Except Failure Unit} (ended : s.phase = .finished result) :
    (publishes instances s.posting.instanceName = false →
        result = .error (.unknownInstance s.posting.instanceName))
      ∧ (publishes instances s.posting.instanceName = true → ∀ f, result = .error f →
        .unmade k f ∈ ms ∨ f = .alreadyDisposed ∧ Closed p s.posting.instanceName)
      ∧ (∀ f, .unmade k f ∈ ms → result = .error f)
      ∧ (.accepted k ∈ ms ∨ .refused k ∈ ms → result = .ok ()) := by
  obtain ⟨-, outlets, told⟩ := run.chronicle
  have told := told k s sent
  have outlet := outlets s.posting.instanceName
  refine ⟨?_, ?_, ?_, ?_⟩
  · intro silent
    rw [silent, Option.isSome_eq_false_iff, Option.isNone_iff_eq_none] at outlet
    exact SendPhase.finished.inj (ended.symm.trans (told.unknown outlet))
  · intro speaks f failed
    rw [failed] at ended
    rcases told.failed f ended with none | why
    · rw [none, speaks] at outlet
      cases outlet
    · exact why
  · intro f member
    exact SendPhase.finished.inj (ended.symm.trans (told.unmade f member))
  · intro answered
    have handed := told.handed answered
    rw [ended] at handed
    cases result with
    | ok => rfl
    | error f => cases handed

/-- An instance that publishes over one channel. -/
def mailroom : Instance where
  name := "mailroom"
  connection := {}
  consumer := none
  producer := some { maxPoolLength := 1 }
  init := none

/-- A message for an exchange of it. -/
def letter : Posting where
  instanceName := "mailroom"
  target := .exchange "letters" ""
  messageType := "Letter"
  body := .ok []

/-- A publisher of the mailroom, without anything sent. -/
def idle : Publisher where
  outlets := [("mailroom", ⟨{ maxPoolLength := 1 }, { capacity := 1, permits := 1 }⟩)]

/-- A letter is sent, and its channel cannot be made. -/
def unreached (f : Failure) : List PublisherMove :=
  [.post letter, .advance 0, .advance 0, .unmade 0 f]

/-- What comes of it. -/
def afterUnreached (f : Failure) : Publisher where
  outlets := [("mailroom", ⟨{ maxPoolLength := 1 },
    { capacity := 1, permits := 1, makings := 1, takers := [.failed f] }⟩)]
  sends := [⟨letter, .finished (.error f)⟩]

theorem run_unreached (f : Failure) : Run [mailroom] (unreached f) (afterUnreached f) :=
  (Run.start (p := idle) rfl).append (unreached f) rfl

theorem outcome_of_unreached :
    Run [mailroom] (unreached .channelRefused) (afterUnreached .channelRefused)
      ∧ ∀ f, .unmade 0 f ∈ unreached .channelRefused →
        Except.error .channelRefused = (Except.error f : Except Failure Unit) :=
  have run := run_unreached .channelRefused
  ⟨run, (outcome_of_run run (k := 0) rfl rfl).2.2.1⟩

/-- What a sender is promised to be told, and nothing else. -/
def Promised (instances : List Instance) (p : Publisher) (posting : Posting) :
    Except Failure Unit → Prop
  | .ok () => True
  | .error (.unknownInstance name) => name = posting.instanceName ∧ publishes instances name = false
  | .error .alreadyDisposed => Closed p posting.instanceName
  | .error _ => False

/-- The promise is not kept: where the broker cannot be reached, the sender
is told so. -/
theorem not_always_swallowed :
    (∃ relay : Relay, Relay.create ⟨[mailroom]⟩ = some (.ok relay)
      ∧ (RelaySession.post (.unreachable "no route") ⟨relay, (), [], []⟩ letter).2
        = some (.error (.brokerUnreachable "no route")))
    ∧ ¬ ∀ (instances : List Instance) (ms : List PublisherMove) (p : Publisher) (k : Nat)
      (s : Send) (result : Except Failure Unit), Run instances ms p → p.sends[k]? = some s →
      s.phase = .finished result → Promised instances p s.posting result := by
  refine ⟨⟨_, rfl, rfl⟩, ?_⟩
  intro promised
  exact promised _ _ _ 0 _ _ (run_unreached (.brokerUnreachable "no route")) rfl rfl

end Publisher

end Courier
