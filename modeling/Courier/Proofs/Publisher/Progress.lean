/-
How far messages come by themselves. Here no broker fails, no channel
cannot be made, nobody fires the signal and nobody closes a pool: messages
only go on, channels are made and publications accepted (`IsSmooth`).

# The measure

The moves ahead of a message, at most: one for each of the steps after its
channel, and before that those that its taker has ahead of it (`rank`). A
smooth move takes one off the message that makes it. The others keep theirs,
but for one that waits for a permit and is given it, which is one move
nearer to its channel. So the sum over all messages drops (`weight_lt`), and
every smooth run comes to a stop (`leads_to_still`).

# Where it stops

A message that has not ended makes a smooth move unless it waits, and it
waits in two places only (`Links.goes_on`): at the gate while the signal has
not fired, and in the queue of an open pool.
-/
import Mathlib.Algebra.GroupWithZero.Nat
import Mathlib.Algebra.Order.BigOperators.Group.List
import Mathlib.Algebra.Order.Group.Nat
import Mathlib.Logic.Relation
import Courier.Proofs.Publisher.Outcomes

namespace Courier

/-- A move in which a message goes on and nothing fails. -/
def PublisherMove.IsSmooth : PublisherMove → Prop
  | advance _ | made _ | accepted _ => True
  | _ => False

/-- How many moves a message has ahead of it, at most, when each taker has
that many before it holds a channel. -/
def SendPhase.ahead (taker : Nat → Nat) : SendPhase → Nat
  | taking t => 5 + taker t
  | gated _ => 4
  | publishing _ _ => 3
  | returning _ => 2
  | restoring _ => 1
  | finished _ => 0

/-- What a taker does next by itself, to get a resource. -/
def TakerPhase.next? (t : Nat) : TakerPhase → Option PoolMove
  | asking | queued | granted => some (.ask t)
  | permitted => some (.pick t)
  | registering _ => some (.register t)
  | _ => none

/-- Who has a resource holds it, and is at nothing else with it. -/
theorem TakerPhase.holding_of_held {φ : TakerPhase} (held : φ.held?.isSome = true) :
    ∃ r, φ = .holding r := by
  cases φ with
  | holding r => exact ⟨r, rfl⟩
  | _ => cases held

namespace Pool

variable {p : Pool} {t : Nat}

-- ================================================= what a taker can do

/-- A taker that asks for the first time gets an answer: a permit, a place in the
queue, or a failure. -/
theorem ask_of_asking (ht : p.phase? t = some .asking) : ∃ p', p.step? (.ask t) = some p' := by
  simp only [step?, ask, ht]
  split
  · exact ⟨_, rfl⟩
  · split <;> exact ⟨_, rfl⟩

/-- One that was given a permit can take it. -/
theorem ask_of_granted (ht : p.phase? t = some .granted) : ∃ p', p.step? (.ask t) = some p' := by
  simp only [step?, ask, ht]
  split <;> exact ⟨_, rfl⟩

/-- One that is queued goes on when its pool is closed. -/
theorem ask_of_shut (ht : p.phase? t = some .queued) (shut : p.isOpen = false) :
    ∃ p', p.step? (.ask t) = some p' := by
  simp [step?, ask, ht, shut]

/-- One with a permit can pick a resource, or have one made. -/
theorem pick_of_permitted (ht : p.phase? t = some .permitted) :
    ∃ p', p.step? (.pick t) = some p' := by
  simp only [step?, ht]
  cases p.free with
  | nil => exact ⟨_, rfl⟩
  | cons r rest => exact ⟨_, rfl⟩

end Pool

namespace Publisher

variable {p p' : Publisher} {j k t : Nat} {s : Send} {o : Outlet} {pool : Pool}
  {m : PublisherMove} {φ : TakerPhase}

/-- If the pool lets the taker go on, the message goes on. -/
theorem exists_take (found : p.outlet? s.posting.instanceName = some o) {m : PoolMove}
    (step : ∃ pool, o.pool.step? m = some pool) : ∃ p', p.take k t s.posting m = some p' := by
  obtain ⟨pool, step⟩ := step
  unfold take
  simp only [found, step, Option.bind_eq_bind, Option.bind_some]
  split <;> exact ⟨_, rfl⟩

/-- A message that takes a channel can go on by itself if its taker can. -/
theorem advance_of_taking (sent : p.sends[k]? = some s) (phase : s.phase = .taking t)
    (found : p.outlet? s.posting.instanceName = some o) {m : PoolMove}
    (next : p.nextTake t s.posting = some m) (step : ∃ pool, o.pool.step? m = some pool) :
    ∃ p', p.step? (.advance k) = some p' := by
  obtain ⟨p', taken⟩ := exists_take (k := k) (t := t) found step
  exact ⟨p', by simp [step?, advance, sent, phase, next, taken]⟩

/-- What a message does next is told by where its taker stands. -/
theorem nextTake_of_phase {posting : Posting} (found : p.outlet? posting.instanceName = some o)
    (hφ : o.pool.phase? t = some φ) : p.nextTake t posting = φ.next? t := by
  unfold nextTake
  simp only [found, hφ, Option.bind_eq_bind, Option.bind_some]
  cases φ <;> rfl

/-- A message can give back what its taker can. -/
theorem exists_leave (next : SendPhase) (found : p.outlet? s.posting.instanceName = some o)
    {m : PoolMove} (step : ∃ pool, o.pool.step? m = some pool) :
    ∃ p', p.leave k s.posting m next = some p' := by
  obtain ⟨pool, step⟩ := step
  unfold leave
  simp only [found, step, Option.bind_eq_bind, Option.bind_some]
  exact ⟨_, rfl⟩

/-- Message `k` can make a smooth move. -/
def CanGo (p : Publisher) (k : Nat) : Prop :=
  ∃ m p', PublisherMove.IsSmooth m ∧ m.send? = some k ∧ p.step? m = some p'

theorem canGo_of_advance (step : ∃ p', p.advance k = some p') : p.CanGo k := by
  obtain ⟨p', step⟩ := step
  exact ⟨.advance k, p', trivial, rfl, step⟩

/-- A message that takes a channel goes on, unless it waits for a permit. -/
theorem goes_on_taking (sent : p.sends[k]? = some s) (phase : s.phase = .taking t)
    (found : p.outlet? s.posting.instanceName = some o) (hφ : o.pool.phase? t = some φ)
    (waits : φ.isWaiting = true) : p.CanGo k ∨ φ = .queued ∧ o.pool.isOpen = true := by
  have next := nextTake_of_phase found hφ
  cases φ with
  | asking =>
      exact .inl (canGo_of_advance
        (advance_of_taking sent phase found next (Pool.ask_of_asking hφ)))
  | queued =>
      cases isOpen : o.pool.isOpen with
      | true => exact .inr ⟨rfl, rfl⟩
      | false =>
          exact .inl (canGo_of_advance
            (advance_of_taking sent phase found next (Pool.ask_of_shut hφ isOpen)))
  | granted =>
      exact .inl (canGo_of_advance
        (advance_of_taking sent phase found next (Pool.ask_of_granted hφ)))
  | permitted =>
      exact .inl (canGo_of_advance
        (advance_of_taking sent phase found next (Pool.pick_of_permitted hφ)))
  | making r =>
      have made : ∃ pool, o.pool.step? (.made t) = some pool := by simp [Pool.step?, hφ]
      obtain ⟨p', taken⟩ := exists_take (k := k) (t := t) found made
      have step : p.step? (.made k) = some p' := by
        simp [step?, endMaking, sent, phase, taken]
      exact .inl ⟨.made k, p', trivial, rfl, step⟩
  | registering r =>
      have register : ∃ pool, o.pool.step? (.register t) = some pool := by simp [Pool.step?, hφ]
      exact .inl (canGo_of_advance (advance_of_taking sent phase found next register))
  | _ => cases waits

/-- A message that is handed to the broker goes on. -/
theorem goes_on_publishing {n : Nat} (sent : p.sends[k]? = some s)
    (phase : s.phase = .publishing t n) (found : p.outlet? s.posting.instanceName = some o) :
    p.CanGo k := by
  cases body : s.posting.body with
  | error f =>
      apply canGo_of_advance
      simp [advance, sent, phase, body]
  | ok bytes =>
      have step : p.step? (.accepted k) = some (p.setPhase k (.returning t)) := by
        simp [step?, answered, sent, found, phase, body]
      exact ⟨.accepted k, _, trivial, rfl, step⟩

/-- A message that has not ended goes on, unless it waits at the gate or for
a permit. -/
theorem Links.goes_on (links : Links p) (sent : p.sends[k]? = some s)
    (ht : s.phase.taker? = some t) :
    p.CanGo k ∨ s.phase = .gated t ∧ p.ready = false
      ∨ s.phase = .taking t ∧ ∃ o, p.outlet? s.posting.instanceName = some o
        ∧ o.pool.phase? t = some .queued ∧ o.pool.isOpen = true := by
  obtain ⟨o, φ, found, hφ, fits⟩ := links.fits k s t sent ht
  cases phase : s.phase with
  | taking t' =>
      rw [phase] at ht fits
      cases ht
      rcases goes_on_taking sent phase found hφ fits with goes | ⟨rfl, isOpen⟩
      · exact .inl goes
      · exact .inr (.inr ⟨rfl, o, found, hφ, isOpen⟩)
  | gated t' =>
      rw [phase] at ht
      cases ht
      cases ready : p.ready with
      | false => exact .inr (.inl ⟨rfl, rfl⟩)
      | true =>
          refine .inl (canGo_of_advance ?_)
          simp [advance, sent, phase, ready]
  | publishing t' n => exact .inl (goes_on_publishing sent phase found)
  | returning t' =>
      rw [phase] at ht fits
      cases ht
      obtain ⟨r, rfl⟩ := φ.holding_of_held fits
      have give : ∃ pool, o.pool.step? (.giveBack t) = some pool := by simp [Pool.step?, hφ]
      refine .inl (canGo_of_advance ?_)
      obtain ⟨p', leaves⟩ := exists_leave (k := k) (.restoring t) found give
      exact ⟨p', by simp [advance, sent, phase, leaves]⟩
  | restoring t' =>
      rw [phase] at ht fits
      cases ht
      have restore : ∃ pool, o.pool.step? (.restore t) = some pool := by
        rw [fits] at hφ
        simp [Pool.step?, hφ]
      refine .inl (canGo_of_advance ?_)
      obtain ⟨p', leaves⟩ := exists_leave (k := k) (.finished (.ok ())) found restore
      exact ⟨p', by simp [advance, sent, phase, leaves]⟩
  | finished result =>
      rw [phase] at ht
      cases ht

-- ========================================================== the measure

/-- How many moves message `k` has ahead of it, at most. -/
def rank (p : Publisher) (k : Nat) : Nat :=
  match p.sends[k]? with
  | none => 0
  | some s => s.phase.ahead fun t =>
    ((p.outlet? s.posting.instanceName).bind (·.pool.phase? t)).elim 0 TakerPhase.ahead

/-- How many moves all messages have ahead of them, at most. -/
def weight (p : Publisher) : Nat := ((List.range p.sends.length).map p.rank).sum

/-- How far a message is from its end is told by its phase and that of its taker. -/
theorem rank_of_sent (sent : p.sends[k]? = some s) : p.rank k = s.phase.ahead fun t =>
    ((p.outlet? s.posting.instanceName).bind (·.pool.phase? t)).elim 0 TakerPhase.ahead := by
  unfold rank
  rw [sent]

theorem rank_of_taking (sent : p.sends[k]? = some s) (phase : s.phase = .taking t)
    (found : p.outlet? s.posting.instanceName = some o) (hφ : o.pool.phase? t = some φ) :
    p.rank k = 5 + φ.ahead := by
  rw [rank_of_sent sent, phase, found]
  show 5 + (o.pool.phase? t).elim 0 TakerPhase.ahead = 5 + φ.ahead
  rw [hφ]
  rfl

/-- With its channel in hand, a message is nearer to its end than while it was taking
it. -/
theorem ahead_afterTaking (target : Target) (t : Nat) (taker : Nat → Nat) :
    (afterTaking target t).ahead taker < 5 := by
  unfold afterTaking
  split
  · exact Nat.lt_succ_self 4
  · exact Nat.lt_succ_of_lt (Nat.lt_succ_self 3)

/-- A smooth move takes one off the message that makes it. -/
theorem rank_lt (smooth : m.IsSmooth) (turn : Turn p p' k m) : p'.rank k < p.rank k := by
  obtain ⟨s, o, pool, next, moved, turn⟩ := turn
  have found : p'.outlet? s.posting.instanceName = some { o with pool := pool } := by
    rw [moved.outlets, if_pos rfl]
  have self := moved.self
  generalize phase : s.phase = before at turn
  cases turn with
  | nears _ turned _ nearer =>
      rw [rank_of_taking self rfl found turned.after,
        rank_of_taking moved.sent phase moved.found turned.before]
      omega
  | gets _ _ =>
      rw [rank_of_sent self, rank_of_sent moved.sent, phase]
      exact Nat.lt_of_lt_of_le (ahead_afterTaking _ _ _) (Nat.le_add_right 5 _)
  | unmade _ => cases smooth
  | again _ => cases smooth
  | _ =>
      rw [rank_of_sent self, rank_of_sent moved.sent, phase]
      simp [SendPhase.ahead]

/-- A turn puts nobody else back. -/
theorem rank_le (links : Links p) (turn : Turn p p' k m) (other : j ≠ k) :
    p'.rank j ≤ p.rank j := by
  obtain ⟨s, o, pool, next, moved, turn⟩ := turn
  have same : p'.sends[j]? = p.sends[j]? := by
    rw [moved.sends, List.getElem?_set_ne other.symm]
  cases sent : p.sends[j]? with
  | none => simp [rank, same, sent]
  | some s' =>
      rw [sent] at same
      cases phase : s'.phase with
      | taking t' =>
          obtain ⟨o', φ', found', hφ', -⟩ := links.fits j s' t' sent (by rw [phase]; rfl)
          rw [rank_of_taking sent phase found' hφ']
          by_cases there : s'.posting.instanceName = s.posting.instanceName
          · obtain ⟨t, ht⟩ := turn.taker?
            obtain ⟨φ, hφ, fits⟩ := links.fits_of moved.sent ht moved.found
            obtain ⟨ψ, ψ', turned, -, -⟩ := turned_of_turn turn ht hφ fits
            have notSame : t' ≠ t := by
              intro both
              exact other (links.distinct j k s' s t sent moved.sent there
                (by rw [phase, both]; rfl) ht)
            have found : p'.outlet? s'.posting.instanceName = some { o with pool := pool } := by
              rw [moved.outlets, if_pos there]
            rw [there, moved.found] at found'
            cases found'
            -- one that waits may be given the permit, and is nearer to its channel then
            rcases turned.others t' notSame with unchanged | ⟨queued, granted⟩
            · rw [rank_of_taking same phase found (unchanged.trans hφ')]
            · rw [hφ'] at queued
              cases queued
              rw [rank_of_taking same phase found granted]
              decide
          · have found : p'.outlet? s'.posting.instanceName = some o' := by
              rw [moved.outlets, if_neg there, found']
            rw [rank_of_taking same phase found hφ']
      | _ =>
          rw [rank_of_sent same, rank_of_sent sent, phase]
          exact Nat.le_refl _

/-- No turn adds a message. -/
theorem length_of_turn (turn : Turn p p' k m) : p'.sends.length = p.sends.length := by
  obtain ⟨s, o, pool, next, moved, -⟩ := turn
  rw [moved.sends, List.length_set]

/-- A smooth move is the turn of a message, and leaves less to do. -/
theorem weight_lt (links : Links p) (smooth : m.IsSmooth) (turn : Turn p p' k m) :
    p'.weight < p.weight := by
  unfold weight
  rw [length_of_turn turn]
  have inside : k < p.sends.length := by
    obtain ⟨s, o, pool, next, moved, -⟩ := turn
    exact (List.getElem?_eq_some_iff.1 moved.sent).1
  apply List.sum_lt_sum
  · intro j _
    by_cases same : j = k
    · rw [same]
      exact Nat.le_of_lt (rank_lt smooth turn)
    · exact rank_le links turn same
  · exact ⟨k, List.mem_range.2 inside, rank_lt smooth turn⟩

/-- A smooth move is the turn of some message. -/
theorem turn_of_smooth (links : Links p) (smooth : m.IsSmooth) (step : p.step? m = some p') :
    ∃ k, Turn p p' k m := by
  rcases step_cases links step with ⟨posting, rfl, -⟩ | ⟨rfl, -⟩ | ⟨name, o, rfl, -, -⟩ | turn
  · cases smooth
  · cases smooth
  · cases smooth
  · exact turn

-- ================================================================ runs

/-- Some moves of one kind lead from one publisher to the other. -/
def Leads (allowed : PublisherMove → Prop) : Publisher → Publisher → Prop :=
  Relation.ReflTransGen fun p p' => ∃ m, allowed m ∧ p.step? m = some p'

variable {allowed : PublisherMove → Prop}

/-- The links hold wherever moves lead. -/
theorem Leads.links (leads : Leads allowed p p') (links : Links p) : Links p' := by
  induction leads with
  | refl => exact links
  | tail _ step links =>
      obtain ⟨m, -, step⟩ := step
      exact links_step links step

theorem Leads.mono {more : PublisherMove → Prop} (leads : Leads allowed p p')
    (weaker : ∀ m, allowed m → more m) : Leads more p p' := by
  induction leads with
  | refl => exact .refl
  | tail _ step leads =>
      obtain ⟨m, legal, step⟩ := step
      exact .tail leads ⟨m, weaker m legal, step⟩

/-- What every such move keeps, a run of them keeps. -/
theorem Leads.keeps {I : Publisher → Prop} (leads : Leads allowed p p') (links : Links p)
    (before : I p)
    (step : ∀ (q q' : Publisher) (m : PublisherMove), Links q → I q → allowed m →
      q.step? m = some q' → I q') : I p' := by
  induction leads with
  | refl => exact before
  | tail leads last kept =>
      obtain ⟨m, legal, last⟩ := last
      exact step _ _ m (Leads.links leads links) kept legal last

/-- No message can go on smoothly. -/
def Still (p : Publisher) : Prop := ∀ m p', m.IsSmooth → p.step? m ≠ some p'

/-- Every smooth run comes to a stop. -/
theorem leads_to_still (links : Links p) : ∃ p', Leads PublisherMove.IsSmooth p p' ∧ Still p' := by
  induction left : p.weight using Nat.strong_induction_on generalizing p with
  | _ n ih =>
      by_cases still : Still p
      · exact ⟨p, .refl, still⟩
      · simp only [Still, not_forall, not_not] at still
        obtain ⟨m, next, smooth, step⟩ := still
        obtain ⟨k, turn⟩ := turn_of_smooth links smooth step
        have less : next.weight < n := left ▸ weight_lt links smooth turn
        obtain ⟨p', leads, still⟩ := ih _ less (links_step links step) rfl
        exact ⟨p', .head ⟨m, smooth, step⟩ leads, still⟩

/-- A message with a channel is sent by its own moves, once the signal has
fired. -/
theorem sent_when_ready (links : Links p) (ready : p.ready = true) (sent : p.sends[k]? = some s)
    (holds : s.phase.IsHanded ∨ s.phase = .gated t) :
    ∃ p', Leads PublisherMove.IsSmooth p p' ∧ p'.result? k = some (.ok ()) := by
  induction left : p.rank k using Nat.strong_induction_on generalizing p s with
  | _ n ih =>
      cases ht : s.phase.taker? with
      | none =>
          cases phase : s.phase with
          | finished result =>
              rw [phase] at holds
              cases result with
              | ok => exact ⟨p, .refl, result?_eq_some.2 ⟨s, sent, phase⟩⟩
              | error f => rcases holds with no | no <;> cases no
          | _ => simp [phase, SendPhase.taker?] at ht
      | some t' =>
          rcases links.goes_on sent ht with ⟨m, p', smooth, own, step⟩ | ⟨-, unready⟩
            | ⟨phase, -⟩
          · obtain ⟨j, turn⟩ := turn_of_smooth links smooth step
            have less := rank_lt smooth turn
            obtain ⟨s', o, pool, next, moved, turned⟩ := turn
            rw [turned.send?] at own
            cases own
            rw [moved.sent] at sent
            cases sent
            have handed : next.IsHanded := by
              rcases holds with handed | phase
              · exact turned.handed (.inl handed)
              · rw [phase] at turned
                cases turned with
                | passes _ => trivial
            obtain ⟨p'', leads, ended⟩ := ih _ (left ▸ less) (links_step links step)
              (moved.ready.trans ready) moved.self (.inl handed) rfl
            exact ⟨p'', .head ⟨m, smooth, step⟩ leads, ended⟩
          · rw [ready] at unready
            cases unready
          · rw [phase] at holds
            rcases holds with no | no <;> cases no

-- ============================================================= no failure

/-- Message `k` has not failed, and its pool is open. -/
structure Afloat (p : Publisher) (k : Nat) (posting : Posting) (settings : Settings.Producer) :
    Prop where
  sent : ∃ s, p.sends[k]? = some s ∧ s.posting = posting ∧ ∀ f, s.phase ≠ .finished (.error f)
  isOpen : ∃ o, p.outlet? posting.instanceName = some o ∧ o.settings = settings
    ∧ o.pool.isOpen = true

/-- Where nothing fails and nothing is closed, no message fails. -/
theorem Afloat.step {posting : Posting} {settings : Settings.Producer} (links : Links p)
    (afloat : Afloat p k posting settings) (smooth : m.IsSmooth) (step : p.step? m = some p') :
    Afloat p' k posting settings := by
  obtain ⟨j, s, o, pool, next, moved, turn⟩ := turn_of_smooth links smooth step
  obtain ⟨⟨s', sent, rfl, unfailed⟩, o', found', rfl, isOpen⟩ := afloat
  constructor
  · by_cases same : k = j
    · subst same
      rw [moved.sent] at sent
      cases sent
      rw [moved.found] at found'
      cases found'
      refine ⟨_, moved.self, rfl, ?_⟩
      intro f ended
      rcases turn.failed ended with rfl | ⟨-, shut⟩
      · cases smooth
      · rw [isOpen] at shut
        cases shut
    · exact ⟨s', (moved.other same).2 sent, rfl, unfailed⟩
  · by_cases there : s'.posting.instanceName = s.posting.instanceName
    · rw [there, moved.found] at found'
      cases found'
      exact ⟨{ o with pool := pool }, by rw [moved.outlets, if_pos there], rfl,
        turn.isOpen.trans isOpen⟩
    · exact ⟨o', by rw [moved.outlets, if_neg there, found'], rfl, isOpen⟩

end Publisher

end Courier
