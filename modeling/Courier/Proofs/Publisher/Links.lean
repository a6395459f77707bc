/-
Messages and the takers they are. A message keeps only the number of its
taker; what it may do next is written in the pool of its instance, which
other messages move as well. This file ties the two together, for every
publisher that can come about.

# The invariant

A message that has not ended is a taker of its instance's pool, and what it
has come to fits what that taker has (`fits`): a message at the gate, say,
holds a channel. No two messages are the same taker (`distinct`), and every
taker that still has something to do with a pool is a message (`owned`): a
permit or a channel that is out is always in somebody's hands.

# Turns

`step_cases` goes through the moves once. Apart from a new message, the
signal and the closing of a pool, a move is the turn of one message: it and
its pool go on as `SendTurn` says, and all else stays (`Moved`). Everything
later is read off the turn.
-/
import Courier.Proofs.Pool.Turns
import Courier.Publisher

namespace Courier

-- ================================================== what a message has

/-- The taker that a message is, until it has ended. -/
def SendPhase.taker? : SendPhase → Option Nat
  | taking t | gated t | publishing t _ | returning t | restoring t => some t
  | finished _ => none

/-- What a message has come to fits what its taker has. -/
def SendPhase.Fits (ready : Bool) (target : Target) : SendPhase → TakerPhase → Prop
  | taking _, φ => φ.isWaiting = true
  | gated _, φ => φ.held?.isSome = true ∧ target.isGated = true
  | publishing _ _, φ => φ.held?.isSome = true ∧ (target.isGated = true → ready = true)
  | returning _, φ => φ.held?.isSome = true
  | restoring _, φ => φ = .returning
  | finished _, φ => φ.isOver = true

/-- How many moves a taker may have ahead of it before it holds a resource. -/
def TakerPhase.ahead : TakerPhase → Nat
  | asking => 6
  | queued => 5
  | granted => 4
  | permitted => 3
  | making _ => 2
  | registering _ => 1
  | _ => 0

variable {ready : Bool} {target : Target} {phase next : SendPhase} {φ φ' : TakerPhase}

/-- A message that waits for a channel may find itself with a permit. -/
theorem SendPhase.Fits.granted (fits : phase.Fits ready target .queued) :
    phase.Fits ready target .granted := by
  cases phase with
  | taking t => rfl
  | gated t => exact absurd fits.1 Bool.false_ne_true
  | publishing t n => exact absurd fits.1 Bool.false_ne_true
  | returning t => exact absurd fits Bool.false_ne_true
  | restoring t => cases fits
  | finished result => exact absurd fits Bool.false_ne_true

/-- Firing the signal spoils nothing: what is said of it is said only where it has
fired. -/
theorem SendPhase.Fits.fire (fits : phase.Fits ready target φ) : phase.Fits true target φ := by
  cases phase with
  | publishing t n => exact ⟨fits.1, fun _ => rfl⟩
  | _ => exact fits

-- ================================================================ turns

/-- Message `k` goes on, in a pool that `pool` was before. -/
inductive SendTurn (k : Nat) (ready : Bool) (retries : Nat) (posting : Posting) (pool : Pool) :
    PublisherMove → SendPhase → Pool → SendPhase → Prop where
  /-- It comes nearer to a channel. -/
  | nears {m : PublisherMove} {t : Nat} {pool' : Pool} {φ φ' : TakerPhase} :
    m = .advance k ∨ m = .made k → pool.Turned pool' t φ φ' → φ'.isWaiting = true →
    φ'.ahead < φ.ahead → SendTurn k ready retries posting pool m (.taking t) pool' (.taking t)
  /-- It gets a channel. -/
  | gets {t r : Nat} {pool' : Pool} {φ : TakerPhase} :
    pool.Turned pool' t φ (.holding r) → φ.isWaiting = true →
    SendTurn k ready retries posting pool (.advance k) (.taking t) pool'
      (Publisher.afterTaking posting.target t)
  /-- It finds its pool closed. -/
  | refused {t : Nat} {pool' : Pool} {φ : TakerPhase} :
    pool.Turned pool' t φ (.failed .alreadyDisposed) → pool.isOpen = false →
    SendTurn k ready retries posting pool (.advance k) (.taking t) pool'
      (.finished (.error .alreadyDisposed))
  /-- Its channel is not made. -/
  | unmade {t r : Nat} {pool' : Pool} {f : Failure} :
    pool.Turned pool' t (.making r) (.failed f) →
    SendTurn k ready retries posting pool (.unmade k f) (.taking t) pool' (.finished (.error f))
  /-- It passes the gate. -/
  | passes {t : Nat} : ready = true →
    SendTurn k ready retries posting pool (.advance k) (.gated t) pool (.publishing t 0)
  /-- The broker did not take it, and it is handed over again. -/
  | again {t n : Nat} : n < retries →
    SendTurn k ready retries posting pool (.refused k) (.publishing t n) pool
      (.publishing t (n + 1))
  /-- The broker took it, or will not be asked any more. -/
  | through {m : PublisherMove} {t n : Nat} : m = .accepted k ∨ m = .refused k ∨ m = .advance k →
    SendTurn k ready retries posting pool m (.publishing t n) pool (.returning t)
  | givesBack {t r : Nat} {pool' : Pool} : pool.Turned pool' t (.holding r) .returning →
    SendTurn k ready retries posting pool (.advance k) (.returning t) pool' (.restoring t)
  | ends {t : Nat} {pool' : Pool} : pool.Turned pool' t .returning .gone →
    SendTurn k ready retries posting pool (.advance k) (.restoring t) pool' (.finished (.ok ()))

/-- The message whose turn a move is. -/
def PublisherMove.send? : PublisherMove → Option Nat
  | advance k | made k | unmade k _ | accepted k | refused k => some k
  | post _ | fire | close _ => none

namespace SendTurn

variable {k retries : Nat} {posting : Posting} {pool pool' : Pool} {m : PublisherMove}

/-- A turn is that of the message that its move names. -/
theorem send? (turn : SendTurn k ready retries posting pool m phase pool' next) :
    m.send? = some k := by
  cases turn with
  | nears which _ _ _ => rcases which with rfl | rfl <;> rfl
  | through which => rcases which with rfl | rfl | rfl <;> rfl
  | _ => rfl

/-- Only a message that has not ended makes a move. -/
theorem taker? (turn : SendTurn k ready retries posting pool m phase pool' next) :
    ∃ t, phase.taker? = some t := by
  cases turn <;> exact ⟨_, rfl⟩

/-- No turn of a message opens or closes its pool. -/
theorem isOpen (turn : SendTurn k ready retries posting pool m phase pool' next) :
    pool'.isOpen = pool.isOpen := by
  cases turn with
  | nears _ turned _ _ => exact turned.isOpen
  | gets turned _ => exact turned.isOpen
  | refused turned _ => exact turned.isOpen
  | unmade turned => exact turned.isOpen
  | givesBack turned => exact turned.isOpen
  | ends turned => exact turned.isOpen
  | _ => rfl

end SendTurn

namespace Publisher

variable {p p' : Publisher} {k : Nat} {s : Send} {o : Outlet} {pool : Pool} {m : PublisherMove}

/-- Message `s` of number `k` goes on to `next`, its pool to `pool`, and
nothing else changes. -/
structure Moved (p p' : Publisher) (k : Nat) (s : Send) (o : Outlet) (pool : Pool)
    (next : SendPhase) : Prop where
  sent : p.sends[k]? = some s
  found : p.outlet? s.posting.instanceName = some o
  reached : pool = o.pool ∨ ∃ m, o.pool.step? m = some pool
  sends : p'.sends = p.sends.set k { s with phase := next }
  outlets : ∀ name, p'.outlet? name
    = if name = s.posting.instanceName then some { o with pool := pool } else p.outlet? name
  ready : p'.ready = p.ready

/-- A changed pool is found under the name of its instance, and the others are as
before. -/
theorem outlet?_setPool (p : Publisher) (name name' : String) (o : Outlet) (pool : Pool) :
    (p.setPool name o pool).outlet? name'
      = if name' = name then some { o with pool := pool } else p.outlet? name' :=
  KeyedList.get?_put _ _ _ _

theorem post_of_none {posting : Posting} (none : p.outlet? posting.instanceName = none) :
    p.post posting = p.addSend
      ⟨posting, .finished (.error (.unknownInstance posting.instanceName))⟩ := by
  unfold Publisher.post
  rw [none]

theorem post_of_found {posting : Posting} (found : p.outlet? posting.instanceName = some o) :
    p.post posting = (p.addSend ⟨posting, .taking o.pool.takers.length⟩).setPool
      posting.instanceName o (o.pool.step .arrive) := by
  unfold Publisher.post
  rw [found]

theorem length_post (p : Publisher) (posting : Posting) :
    (p.post posting).sends.length = p.sends.length + 1 := by
  unfold post
  split <;> exact List.length_append

theorem sends_post {posting : Posting} {j : Nat} (before : j < p.sends.length) :
    (p.post posting).sends[j]? = p.sends[j]? := by
  unfold post
  split <;> exact List.getElem?_append_left before

/-- The phase of a message is set in its place. -/
theorem sends_setPhase (sent : p.sends[k]? = some s) (next : SendPhase) :
    (p.setPhase k next).sends = p.sends.set k { s with phase := next } :=
  modify_eq_set _ sent

/-- A message that goes on with a move in its pool. -/
theorem moved_pool (sent : p.sends[k]? = some s)
    (found : p.outlet? s.posting.instanceName = some o) {m : PoolMove}
    (step : o.pool.step? m = some pool) (next : SendPhase) :
    Moved p ((p.setPool s.posting.instanceName o pool).setPhase k next) k s o pool next where
  sent := sent
  found := found
  reached := .inr ⟨m, step⟩
  sends := sends_setPhase (p := p.setPool _ o pool) sent next
  outlets name := outlet?_setPool p _ name o pool
  ready := rfl

/-- A message that stays what it was while its taker goes on. -/
theorem moved_pool_only (sent : p.sends[k]? = some s)
    (found : p.outlet? s.posting.instanceName = some o) {m : PoolMove}
    (step : o.pool.step? m = some pool) :
    Moved p (p.setPool s.posting.instanceName o pool) k s o pool s.phase where
  sent := sent
  found := found
  reached := .inr ⟨m, step⟩
  sends := by
    obtain ⟨inside, rfl⟩ := List.getElem?_eq_some_iff.1 sent
    exact (List.set_getElem_self inside).symm
  outlets name := outlet?_setPool p _ name o pool
  ready := rfl

/-- A message that goes on without one. -/
theorem moved_phase (sent : p.sends[k]? = some s)
    (found : p.outlet? s.posting.instanceName = some o) (next : SendPhase) :
    Moved p (p.setPhase k next) k s o o.pool next where
  sent := sent
  found := found
  reached := .inl rfl
  sends := sends_setPhase sent next
  outlets name := by
    by_cases same : name = s.posting.instanceName
    · rw [if_pos same, same]
      exact found
    · rw [if_neg same]
      rfl
  ready := rfl

/-- The message that went on is found in its new phase. -/
theorem Moved.self (moved : Moved p p' k s o pool next) :
    p'.sends[k]? = some { s with phase := next } := by
  rw [moved.sends]
  exact getElem?_set_self_of_some moved.sent

/-- All other messages are where they were. -/
theorem Moved.other {j : Nat} {s' : Send} (moved : Moved p p' k s o pool next) (hj : j ≠ k) :
    p'.sends[j]? = some s' ↔ p.sends[j]? = some s' := by
  rw [moved.sends, List.getElem?_set_ne hj.symm]

/-- A message after a turn is the one that made it, or as it was. -/
theorem Moved.cases {j : Nat} {s' : Send} (moved : Moved p p' k s o pool next)
    (hs : p'.sends[j]? = some s') :
    j = k ∧ s' = { s with phase := next } ∨ j ≠ k ∧ p.sends[j]? = some s' := by
  by_cases same : j = k
  · rw [same, moved.self] at hs
    exact .inl ⟨same, (Option.some.inj hs).symm⟩
  · exact .inr ⟨same, (moved.other same).1 hs⟩

theorem result?_eq_some {result : Except Failure Unit} :
    p.result? k = some result ↔ ∃ s, p.sends[k]? = some s ∧ s.phase = .finished result := by
  unfold result?
  split
  next posting result' sent =>
    rw [sent]
    simp
  next other =>
    constructor
    · nofun
    · rintro ⟨⟨posting, phase⟩, sent, ended⟩
      exact absurd (ended ▸ sent) (other posting result)

-- ======================================================== the invariant

/-- Some message is taker `t` of the instance. -/
def Owned (p : Publisher) (name : String) (t : Nat) : Prop :=
  ∃ (k : Nat) (s : Send), p.sends[k]? = some s ∧ s.posting.instanceName = name
    ∧ s.phase.taker? = some t

structure Links (p : Publisher) : Prop where
  pools : ∀ name o, p.outlet? name = some o →
    Pool.Reachable o.settings.maxPoolLength.toNat o.pool
  fits : ∀ (k : Nat) (s : Send) (t : Nat), p.sends[k]? = some s → s.phase.taker? = some t →
    ∃ o φ, p.outlet? s.posting.instanceName = some o ∧ o.pool.phase? t = some φ
      ∧ s.phase.Fits p.ready s.posting.target φ
  distinct : ∀ (k k' : Nat) (s s' : Send) (t : Nat), p.sends[k]? = some s →
    p.sends[k']? = some s' → s.posting.instanceName = s'.posting.instanceName →
    s.phase.taker? = some t → s'.phase.taker? = some t → k = k'
  owned : ∀ name o t φ, p.outlet? name = some o → o.pool.phase? t = some φ →
    φ.isOver = false → p.Owned name t

/-- The pool of an outlet keeps its accounts. -/
theorem Links.accounts (links : Links p) {name : String} (found : p.outlet? name = some o) :
    Pool.Accounts o.settings.maxPoolLength.toNat 0 o.pool :=
  Pool.accounts_of_reachable (links.pools name o found)

/-- The taker of a message stands where the message says it does. -/
theorem Links.fits_of (links : Links p) {t : Nat} (sent : p.sends[k]? = some s)
    (ht : s.phase.taker? = some t) (found : p.outlet? s.posting.instanceName = some o) :
    ∃ φ, o.pool.phase? t = some φ ∧ s.phase.Fits p.ready s.posting.target φ := by
  obtain ⟨o', φ, found', hφ, fits⟩ := links.fits k s t sent ht
  rw [found] at found'
  cases found'
  exact ⟨φ, hφ, fits⟩

/-- The pools are reachable after one of them has gone on. -/
theorem Links.pools_of_outlets (links : Links p) {name : String}
    (reachable : Pool.Reachable o.settings.maxPoolLength.toNat pool)
    (outlets : ∀ name', p'.outlet? name'
      = if name' = name then some { o with pool := pool } else p.outlet? name')
    {name' : String} {o' : Outlet} (found : p'.outlet? name' = some o') :
    Pool.Reachable o'.settings.maxPoolLength.toNat o'.pool := by
  rw [outlets] at found
  split at found
  next =>
    cases found
    exact reachable
  next => exact links.pools name' o' found

-- ------------------------------------------------ what a turn keeps of them

section Turn

variable {t : Nat}

/-- After a turn every message still fits its taker. One that did not go on may have
been given the permit that the turn set free, which fits too. -/
theorem Links.fits_turn (links : Links p) (moved : Moved p p' k s o pool next)
    (ht : s.phase.taker? = some t) (turned : o.pool.Turned pool t φ φ')
    (fits : next.Fits p.ready s.posting.target φ')
    (taker : next.taker? = some t ∨ ∃ result, next = .finished result) {j t' : Nat} {s' : Send}
    (hs : p'.sends[j]? = some s') (ht' : s'.phase.taker? = some t') :
    ∃ o' φ, p'.outlet? s'.posting.instanceName = some o' ∧ o'.pool.phase? t' = some φ
      ∧ s'.phase.Fits p'.ready s'.posting.target φ := by
  rw [moved.ready, moved.outlets]
  rcases moved.cases hs with ⟨rfl, rfl⟩ | ⟨other, old⟩
  · have same : t' = t := by
      rcases taker with same | ⟨result, rfl⟩
      · exact Option.some.inj (ht'.symm.trans same)
      · cases ht'
    subst same
    exact ⟨_, φ', if_pos rfl, turned.after, fits⟩
  · by_cases there : s'.posting.instanceName = s.posting.instanceName
    · obtain ⟨ψ, hψ, fits'⟩ := links.fits_of old ht' (there ▸ moved.found)
      have notSame : t' ≠ t := by
        intro same
        exact other (links.distinct j k s' s t old moved.sent there (same ▸ ht') ht)
      rw [if_pos there]
      rcases turned.others t' notSame with unchanged | ⟨queued, granted⟩
      · exact ⟨_, ψ, rfl, unchanged.trans hψ, fits'⟩
      · rw [hψ] at queued
        cases queued
        exact ⟨_, _, rfl, granted, fits'.granted⟩
    · rw [if_neg there]
      exact links.fits j s' t' old ht'

/-- Whoever is a message after a turn was the same taker before. -/
theorem Moved.taker_before (moved : Moved p p' k s o pool next) (ht : s.phase.taker? = some t)
    (taker : next.taker? = some t ∨ ∃ result, next = .finished result) {j t' : Nat} {s' : Send}
    (hs : p'.sends[j]? = some s') (ht' : s'.phase.taker? = some t') :
    ∃ s'' : Send, p.sends[j]? = some s'' ∧ s''.posting = s'.posting
      ∧ s''.phase.taker? = some t' := by
  rcases moved.cases hs with ⟨rfl, rfl⟩ | ⟨-, old⟩
  · rcases taker with same | ⟨result, rfl⟩
    · exact ⟨s, moved.sent, rfl, by rw [ht, ← same, ← ht']⟩
    · cases ht'
  · exact ⟨s', old, rfl, ht'⟩

/-- Another taker is still a message after a turn. -/
theorem Moved.owned (moved : Moved p p' k s o pool next) (ht : s.phase.taker? = some t)
    {name : String} {t' : Nat} (other : name = s.posting.instanceName → t' ≠ t)
    (owned : p.Owned name t') : p'.Owned name t' := by
  obtain ⟨j, s', hs, there, ht'⟩ := owned
  have notSame : j ≠ k := by
    intro same
    rw [same, moved.sent] at hs
    cases hs
    exact other there.symm (Option.some.inj (ht'.symm.trans ht))
  exact ⟨j, s', (moved.other notSame).2 hs, there, ht'⟩

/-- After a turn every taker that is not over still belongs to a message. -/
theorem Links.owned_turn (links : Links p) (moved : Moved p p' k s o pool next)
    (ht : s.phase.taker? = some t) (turned : o.pool.Turned pool t φ φ')
    (fits : next.Fits p.ready s.posting.target φ')
    (taker : next.taker? = some t ∨ ∃ result, next = .finished result)
    {name : String} {o' : Outlet} {t' : Nat} {ψ : TakerPhase}
    (found : p'.outlet? name = some o') (hψ : o'.pool.phase? t' = some ψ)
    (notOver : ψ.isOver = false) : p'.Owned name t' := by
  rw [moved.outlets] at found
  split at found
  next same =>
    cases found
    subst same
    by_cases self : t' = t
    · subst self
      rw [turned.after] at hψ
      cases hψ
      rcases taker with there | ⟨result, rfl⟩
      · exact ⟨k, _, moved.self, rfl, there⟩
      · exact absurd (notOver.symm.trans fits) Bool.false_ne_true
    · apply moved.owned ht fun _ => self
      rcases turned.others t' self with unchanged | ⟨queued, -⟩
      · exact links.owned _ o t' ψ moved.found (unchanged.symm.trans hψ) notOver
      · exact links.owned _ o t' .queued moved.found queued rfl
  next elsewhere =>
    apply moved.owned ht fun same => absurd same elsewhere
    exact links.owned name o' t' ψ found hψ notOver

/-- A turn of one message keeps the links, if it fits in the end. -/
theorem Links.turn (links : Links p) (moved : Moved p p' k s o pool next)
    (ht : s.phase.taker? = some t) (turned : o.pool.Turned pool t φ φ')
    (fits : next.Fits p.ready s.posting.target φ')
    (taker : next.taker? = some t ∨ ∃ result, next = .finished result) : Links p' := by
  have reachable : Pool.Reachable o.settings.maxPoolLength.toNat pool := by
    have before := links.pools _ o moved.found
    rcases moved.reached with rfl | ⟨m, step⟩
    · exact before
    · exact .step m before step
  refine ⟨?_, ?_, ?_, ?_⟩
  · intro name o' found
    exact links.pools_of_outlets reachable moved.outlets found
  · intro j s' t' hs ht'
    exact links.fits_turn moved ht turned fits taker hs ht'
  · intro i j s₁ s₂ t' h₁ h₂ there ht₁ ht₂
    obtain ⟨s₁', h₁', posting₁, ht₁'⟩ := moved.taker_before ht taker h₁ ht₁
    obtain ⟨s₂', h₂', posting₂, ht₂'⟩ := moved.taker_before ht taker h₂ ht₂
    exact links.distinct i j s₁' s₂' t' h₁' h₂' (by rw [posting₁, posting₂, there]) ht₁' ht₂'
  · intro name o' t' ψ found hψ notOver
    exact links.owned_turn moved ht turned fits taker found hψ notOver

end Turn

-- ==================================================== the turns of a message

/-- Taking a channel is a move in the pool of the instance, whose result says how
the message goes on. -/
theorem take_cases {posting : Posting} {t : Nat} {m : PoolMove}
    (step : p.take k t posting m = some p') :
    ∃ o pool, p.outlet? posting.instanceName = some o ∧ o.pool.step? m = some pool := by
  obtain ⟨o, found, step⟩ := Option.bind_eq_some_iff.1 step
  obtain ⟨pool, moved, -⟩ := Option.bind_eq_some_iff.1 step
  exact ⟨o, pool, found, moved⟩

/-- What making a move in its pool comes to for a message that takes a channel. -/
theorem take_of_turned {t : Nat} {m : PoolMove} (found : p.outlet? s.posting.instanceName = some o)
    (step : o.pool.step? m = some pool) (after : pool.phase? t = some φ) :
    p.take k t s.posting m
      = some (match φ with
        | .holding _ => (p.setPool s.posting.instanceName o pool).setPhase k
            (afterTaking s.posting.target t)
        | .failed f => (p.setPool s.posting.instanceName o pool).setPhase k (.finished (.error f))
        | _ => p.setPool s.posting.instanceName o pool) := by
  unfold take
  simp only [found, step, after, Option.bind_eq_bind, Option.bind_some]
  cases φ <;> rfl

/-- Leaving a channel is a move in the pool, after which the message goes on. -/
theorem leave_cases {posting : Posting} {m : PoolMove}
    (step : p.leave k posting m next = some p') :
    ∃ o pool, p.outlet? posting.instanceName = some o ∧ o.pool.step? m = some pool
      ∧ p' = (p.setPool posting.instanceName o pool).setPhase k next := by
  obtain ⟨o, found, step⟩ := Option.bind_eq_some_iff.1 step
  obtain ⟨pool, moved, step⟩ := Option.bind_eq_some_iff.1 step
  exact ⟨o, pool, found, moved, (Option.some.inj step).symm⟩

/-- A message that takes a channel by itself asks, picks, or registers. -/
theorem nextTake_cases {t : Nat} {posting : Posting} {m' : PoolMove}
    (next : p.nextTake t posting = some m') : m' = .ask t ∨ m' = .pick t ∨ m' = .register t := by
  unfold nextTake at next
  obtain ⟨o, -, next⟩ := Option.bind_eq_some_iff.1 next
  obtain ⟨φ, -, next⟩ := Option.bind_eq_some_iff.1 next
  cases φ <;> cases next <;> simp

/-- What a move of message `k` made of the publisher. -/
def Turn (p p' : Publisher) (k : Nat) (m : PublisherMove) : Prop :=
  ∃ s o pool next, Moved p p' k s o pool next
    ∧ SendTurn k p.ready o.settings.maxRetryCount.toNat s.posting o.pool m s.phase pool next

section Taking

variable {t : Nat} {m' : PoolMove} (sent : p.sends[k]? = some s) (takes : s.phase = .taking t)
include sent takes

/-- It stops taking, and comes to `next`. -/
theorem turn_taken (found : p.outlet? s.posting.instanceName = some o)
    (moved : o.pool.step? m' = some pool)
    (result : p' = (p.setPool s.posting.instanceName o pool).setPhase k next)
    (turn : SendTurn k p.ready o.settings.maxRetryCount.toNat s.posting o.pool m (.taking t) pool
      next) : Turn p p' k m := by
  rw [result]
  exact ⟨s, o, pool, next, moved_pool sent found moved next, takes ▸ turn⟩

/-- It goes on taking. -/
theorem turn_nearing (found : p.outlet? s.posting.instanceName = some o)
    (moved : o.pool.step? m' = some pool) (turned : o.pool.Turned pool t φ φ')
    (waits : φ'.isWaiting = true) (nearer : φ'.ahead < φ.ahead)
    (which : m = .advance k ∨ m = .made k) (step : p.take k t s.posting m' = some p') :
    Turn p p' k m := by
  have result : p' = p.setPool s.posting.instanceName o pool := by
    rw [take_of_turned found moved turned.after] at step
    cases φ' with
    | holding _ | failed _ | returning | gone => cases waits
    | _ => exact (Option.some.inj step).symm
  rw [result]
  exact ⟨s, o, pool, s.phase, moved_pool_only sent found moved,
    takes ▸ .nears which turned waits nearer⟩

/-- A message that takes a channel by itself makes a turn. -/
theorem turn_take (links : Links p) (next : p.nextTake t s.posting = some m')
    (step : p.take k t s.posting m' = some p') : Turn p p' k (.advance k) := by
  obtain ⟨o, pool, found, moved⟩ := take_cases step
  rcases nextTake_cases next with rfl | rfl | rfl
  · obtain ⟨ψ, ψ', turned, ways⟩ := Pool.turned_ask (links.accounts found) moved
    rcases ways with ⟨rfl, rfl, -, -⟩ | ⟨rfl, rfl, -, -⟩ | ⟨rfl, rfl, -⟩ | ⟨-, rfl, shut⟩
    · exact turn_nearing sent takes found moved turned rfl (by decide) (.inl rfl) step
    · exact turn_nearing sent takes found moved turned rfl (by decide) (.inl rfl) step
    · exact turn_nearing sent takes found moved turned rfl (by decide) (.inl rfl) step
    · rw [take_of_turned found moved turned.after] at step
      exact turn_taken sent takes found moved (Option.some.inj step).symm (.refused turned shut)
  · obtain ⟨r, ψ', turned, rfl | rfl⟩ := Pool.turned_pick moved
    · rw [take_of_turned found moved turned.after] at step
      exact turn_taken sent takes found moved (Option.some.inj step).symm (.gets turned rfl)
    · exact turn_nearing sent takes found moved turned rfl (Nat.lt_succ_self 2) (.inl rfl) step
  · obtain ⟨r, turned⟩ := Pool.turned_register moved
    rw [take_of_turned found moved turned.after] at step
    exact turn_taken sent takes found moved (Option.some.inj step).symm (.gets turned rfl)

theorem turn_made (step : p.take k t s.posting (.made t) = some p') : Turn p p' k (.made k) := by
  obtain ⟨o, pool, found, moved⟩ := take_cases step
  obtain ⟨r, turned⟩ := Pool.turned_made moved
  exact turn_nearing sent takes found moved turned rfl (Nat.lt_succ_self 1) (.inr rfl) step

theorem turn_unmade (links : Links p) {f : Failure}
    (step : p.take k t s.posting (.unmade t f) = some p') : Turn p p' k (.unmade k f) := by
  obtain ⟨o, pool, found, moved⟩ := take_cases step
  obtain ⟨r, turned⟩ := Pool.turned_unmade (links.accounts found) moved
  rw [take_of_turned found moved turned.after] at step
  exact turn_taken sent takes found moved (Option.some.inj step).symm (.unmade turned)

end Taking

/-- A message that goes on by itself makes a turn, one case for each of its phases. -/
theorem turn_advance (links : Links p) (step : p.advance k = some p') :
    Turn p p' k (.advance k) := by
  unfold advance at step
  cases sent : p.sends[k]? with
  | none => simp [sent] at step
  | some s =>
      simp only [sent, Option.bind_eq_bind, Option.bind_some] at step
      cases phase : s.phase with
      | taking t =>
          simp only [phase] at step
          obtain ⟨m', next, step⟩ := Option.bind_eq_some_iff.1 step
          exact turn_take sent phase links next step
      | gated t =>
          simp only [phase] at step
          obtain ⟨o, φ, found, -, -⟩ := links.fits k s t sent (by rw [phase]; rfl)
          split at step
          next ready =>
            cases step
            exact ⟨s, o, _, _, moved_phase sent found _, phase ▸ .passes ready⟩
          next => cases step
      | publishing t n =>
          simp only [phase] at step
          obtain ⟨o, φ, found, -, -⟩ := links.fits k s t sent (by rw [phase]; rfl)
          split at step
          · cases step
            exact ⟨s, o, _, _, moved_phase sent found _, phase ▸ .through (.inr (.inr rfl))⟩
          · cases step
      | returning t =>
          simp only [phase] at step
          obtain ⟨o, pool, found, moved, rfl⟩ := leave_cases step
          obtain ⟨r, turned⟩ := Pool.turned_giveBack moved
          exact ⟨s, o, pool, _, moved_pool sent found moved _, phase ▸ .givesBack turned⟩
      | restoring t =>
          simp only [phase] at step
          obtain ⟨o, pool, found, moved, rfl⟩ := leave_cases step
          exact ⟨s, o, pool, _, moved_pool sent found moved _,
            phase ▸ .ends (Pool.turned_restore (links.accounts found) moved)⟩
      | finished result => simp [phase] at step

/-- The making of a channel can end only for a message that takes one. -/
theorem endMaking_cases {m' : Nat → PoolMove} (step : p.endMaking k m' = some p') :
    ∃ s t, p.sends[k]? = some s ∧ s.phase = .taking t
      ∧ p.take k t s.posting (m' t) = some p' := by
  unfold endMaking at step
  cases sent : p.sends[k]? with
  | none => simp [sent] at step
  | some s =>
      simp only [sent, Option.bind_eq_bind, Option.bind_some] at step
      split at step
      next t phase => exact ⟨s, t, rfl, phase, step⟩
      next => cases step

/-- A message that the broker answered makes a turn: it is over with its attempts, or
has another one. -/
theorem turn_answered {ok : Bool} (step : p.answered k ok = some p') :
    Turn p p' k (if ok then .accepted k else .refused k) := by
  unfold answered at step
  cases sent : p.sends[k]? with
  | none => simp [sent] at step
  | some s =>
      simp only [sent, Option.bind_eq_bind, Option.bind_some] at step
      obtain ⟨o, found, step⟩ := Option.bind_eq_some_iff.1 step
      split at step
      next t n body phase written =>
        split at step
        next more =>
          cases step
          simp only [Bool.and_eq_true, Bool.not_eq_true', decide_eq_true_eq] at more
          rw [more.1]
          exact ⟨s, o, _, _, moved_phase sent found _, phase ▸ .again more.2⟩
        next =>
          cases step
          refine ⟨s, o, _, _, moved_phase sent found _, phase ▸ .through ?_⟩
          cases ok <;> simp
      next => cases step

/-- A move is a new message, the signal, the closing of a pool, or the turn
of one message. -/
theorem step_cases (links : Links p) (step : p.step? m = some p') :
    (∃ posting, m = .post posting ∧ p' = p.post posting)
    ∨ m = .fire ∧ p' = { p with ready := true }
    ∨ (∃ name o, m = .close name ∧ p.outlet? name = some o
      ∧ p' = p.setPool name o (o.pool.step .close))
    ∨ ∃ k, Turn p p' k m := by
  cases m with
  | post posting => exact .inl ⟨posting, rfl, (Option.some.inj step).symm⟩
  | fire => exact .inr (.inl ⟨rfl, (Option.some.inj step).symm⟩)
  | close name =>
      simp only [step?] at step
      split at step
      next o found => exact .inr (.inr (.inl ⟨name, o, rfl, found, (Option.some.inj step).symm⟩))
      next => cases step
  | advance k => exact .inr (.inr (.inr ⟨k, turn_advance links step⟩))
  | made k =>
      obtain ⟨s, t, sent, phase, step⟩ := endMaking_cases step
      exact .inr (.inr (.inr ⟨k, turn_made sent phase step⟩))
  | unmade k f =>
      obtain ⟨s, t, sent, phase, step⟩ := endMaking_cases step
      exact .inr (.inr (.inr ⟨k, turn_unmade sent phase links step⟩))
  | accepted k => exact .inr (.inr (.inr ⟨k, turn_answered step⟩))
  | refused k => exact .inr (.inr (.inr ⟨k, turn_answered step⟩))

-- ================================================= the moves keep the links

theorem turned_self {t : Nat} (hφ : pool.phase? t = some φ) : pool.Turned pool t φ φ :=
  ⟨hφ, hφ, fun _ _ => .inl rfl, rfl⟩

/-- With a channel in hand a message goes to the gate if it has to, and else to the
broker. -/
theorem fits_afterTaking (ready : Bool) (target : Target) (t r : Nat) :
    (afterTaking target t).Fits ready target (.holding r)
      ∧ (afterTaking target t).taker? = some t := by
  unfold afterTaking
  split
  next gated => exact ⟨⟨rfl, gated⟩, rfl⟩
  next free => exact ⟨⟨rfl, fun gated => absurd gated free⟩, rfl⟩

/-- In its turn a message comes to something that fits. -/
theorem turned_of_turn {t retries : Nat} {posting : Posting} {pool' : Pool}
    (turn : SendTurn k ready retries posting pool m phase pool' next)
    (ht : phase.taker? = some t) (hφ : pool.phase? t = some φ)
    (fits : phase.Fits ready posting.target φ) :
    ∃ φ φ', pool.Turned pool' t φ φ' ∧ next.Fits ready posting.target φ'
      ∧ (next.taker? = some t ∨ ∃ result, next = .finished result) := by
  cases turn with
  | nears _ turned waits _ =>
      cases ht
      exact ⟨_, _, turned, waits, .inl rfl⟩
  | gets turned _ =>
      cases ht
      obtain ⟨fits, taker⟩ := fits_afterTaking ready posting.target t _
      exact ⟨_, _, turned, fits, .inl taker⟩
  | refused turned _ =>
      cases ht
      exact ⟨_, _, turned, rfl, .inr ⟨_, rfl⟩⟩
  | unmade turned =>
      cases ht
      exact ⟨_, _, turned, rfl, .inr ⟨_, rfl⟩⟩
  | passes fired =>
      cases ht
      exact ⟨φ, φ, turned_self hφ, ⟨fits.1, fun _ => fired⟩, .inl rfl⟩
  | again _ =>
      cases ht
      exact ⟨φ, φ, turned_self hφ, fits, .inl rfl⟩
  | through _ =>
      cases ht
      exact ⟨φ, φ, turned_self hφ, fits.1, .inl rfl⟩
  | givesBack turned =>
      cases ht
      exact ⟨_, _, turned, rfl, .inl rfl⟩
  | ends turned =>
      cases ht
      exact ⟨_, _, turned, rfl, .inr ⟨_, rfl⟩⟩

/-- So every turn keeps the links. -/
theorem Links.turn_of (links : Links p) (turn : Turn p p' k m) : Links p' := by
  obtain ⟨s, o, pool, next, moved, turn⟩ := turn
  obtain ⟨t, ht⟩ := turn.taker?
  obtain ⟨φ, hφ, fits⟩ := links.fits_of moved.sent ht moved.found
  obtain ⟨ψ, ψ', turned, fits, taker⟩ := turned_of_turn turn ht hφ fits
  exact links.turn moved ht turned fits taker

theorem Owned.addSend {name : String} {t : Nat} (owned : p.Owned name t) (s : Send) :
    (p.addSend s).Owned name t := by
  obtain ⟨k, s', hs, there, ht⟩ := owned
  exact ⟨k, s', getElem?_append_of_some hs, there, ht⟩

/-- A message for an instance that does not publish has ended at once. -/
theorem Links.addFinished (links : Links p) {s : Send} {result : Except Failure Unit}
    (ended : s.phase = .finished result) : Links (p.addSend s) := by
  have old : ∀ {k : Nat} {s' : Send} {t : Nat}, (p.addSend s).sends[k]? = some s' →
      s'.phase.taker? = some t → p.sends[k]? = some s' := by
    intro k s' t hs ht
    rcases of_getElem?_append hs with old | ⟨-, rfl⟩
    · exact old
    · rw [ended] at ht
      cases ht
  refine ⟨links.pools, ?_, ?_, ?_⟩
  · intro k s' t hs ht
    exact links.fits k s' t (old hs ht) ht
  · intro k k' s₁ s₂ t h₁ h₂ there ht₁ ht₂
    exact links.distinct k k' s₁ s₂ t (old h₁ ht₁) (old h₂ ht₂) there ht₁ ht₂
  · intro name o t φ found hφ notOver
    exact (links.owned name o t φ found hφ notOver).addSend s

/-- A new message becomes the last taker in the pool of its instance. -/
theorem Links.addTaking (links : Links p) {posting : Posting}
    (found : p.outlet? posting.instanceName = some o) :
    Links ((p.addSend ⟨posting, .taking o.pool.takers.length⟩).setPool posting.instanceName o
      (o.pool.step .arrive)) := by
  have outlets : ∀ name, (((p.addSend ⟨posting, .taking o.pool.takers.length⟩).setPool
      posting.instanceName o (o.pool.step .arrive)).outlet? name)
        = if name = posting.instanceName then some { o with pool := o.pool.step .arrive }
          else p.outlet? name :=
    fun name => outlet?_setPool (p.addSend _) _ name o _
  -- none of the old messages is the new taker
  have fresh : ∀ {k : Nat} {s : Send}, p.sends[k]? = some s →
      s.posting.instanceName = posting.instanceName →
      s.phase.taker? ≠ some o.pool.takers.length := by
    intro k s sent there ht
    obtain ⟨φ, hφ, -⟩ := links.fits_of sent ht (there ▸ found)
    exact Nat.lt_irrefl _ (List.getElem?_eq_some_iff.1 hφ).1
  refine ⟨?_, ?_, ?_, ?_⟩
  · intro name o' found'
    exact links.pools_of_outlets (.step .arrive (links.pools _ o found) rfl) outlets found'
  · intro k s t hs ht
    rw [outlets]
    rcases of_getElem?_append hs with old | ⟨-, rfl⟩
    · by_cases there : s.posting.instanceName = posting.instanceName
      · obtain ⟨φ, hφ, fits⟩ := links.fits_of old ht (there ▸ found)
        exact ⟨_, φ, if_pos there, Pool.phase?_arrive_of_some hφ, fits⟩
      · obtain ⟨o', φ, found', hφ, fits⟩ := links.fits k s t old ht
        exact ⟨o', φ, by rw [if_neg there, found'], hφ, fits⟩
    · cases ht
      exact ⟨_, _, if_pos rfl, o.pool.phase?_arrive_self, rfl⟩
  · intro k k' s₁ s₂ t h₁ h₂ there ht₁ ht₂
    rcases of_getElem?_append h₁ with old₁ | ⟨rfl, rfl⟩
    · rcases of_getElem?_append h₂ with old₂ | ⟨rfl, rfl⟩
      · exact links.distinct k k' s₁ s₂ t old₁ old₂ there ht₁ ht₂
      · cases ht₂
        exact absurd ht₁ (fresh old₁ there)
    · rcases of_getElem?_append h₂ with old₂ | ⟨rfl, rfl⟩
      · cases ht₁
        exact absurd ht₂ (fresh old₂ there.symm)
      · rfl
  · intro name o' t φ found' hφ notOver
    rw [outlets] at found'
    split at found'
    next same =>
      cases found'
      subst same
      rcases Pool.of_phase?_arrive hφ with old | ⟨rfl, -⟩
      · exact (links.owned _ o t φ found old notOver).addSend _
      · exact ⟨p.sends.length, _, List.getElem?_concat_length, rfl, rfl⟩
    next => exact (links.owned name o' t φ found' hφ notOver).addSend _

/-- A new message brings a new taker with it, or is over at once. -/
theorem Links.post (links : Links p) (posting : Posting) : Links (p.post posting) := by
  cases found : p.outlet? posting.instanceName with
  | none =>
      rw [post_of_none found]
      exact links.addFinished rfl
  | some o =>
      rw [post_of_found found]
      exact links.addTaking found

theorem Links.fire (links : Links p) : Links { p with ready := true } := by
  refine ⟨links.pools, ?_, links.distinct, links.owned⟩
  intro k s t hs ht
  obtain ⟨o, φ, found, hφ, fits⟩ := links.fits k s t hs ht
  exact ⟨o, φ, found, hφ, fits.fire⟩

/-- Closing a pool moves no message; those that wait in it will see it when they ask. -/
theorem Links.close (links : Links p) {name : String} (found : p.outlet? name = some o) :
    Links (p.setPool name o (o.pool.step .close)) := by
  have outlets := fun name' => outlet?_setPool p name name' o (o.pool.step .close)
  refine ⟨?_, ?_, links.distinct, ?_⟩
  · intro name' o' found'
    exact links.pools_of_outlets (.step .close (links.pools _ o found) rfl) outlets found'
  · intro k s t hs ht
    rw [outlets]
    by_cases there : s.posting.instanceName = name
    · obtain ⟨φ, hφ, fits⟩ := links.fits_of hs ht (there ▸ found)
      exact ⟨_, φ, if_pos there, hφ, fits⟩
    · obtain ⟨o', φ, found', hφ, fits⟩ := links.fits k s t hs ht
      exact ⟨o', φ, by rw [if_neg there, found'], hφ, fits⟩
  · intro name' o' t φ found' hφ notOver
    rw [outlets] at found'
    split at found'
    next same =>
      cases found'
      exact links.owned name' o t φ (same ▸ found) hφ notOver
    next => exact links.owned name' o' t φ found' hφ notOver

/-- Every move of a publisher keeps the links. -/
theorem links_step (links : Links p) (step : p.step? m = some p') : Links p' := by
  rcases step_cases links step with ⟨posting, -, rfl⟩ | ⟨-, rfl⟩ | ⟨name, o, -, found, rfl⟩
    | ⟨k, turn⟩
  · exact links.post posting
  · exact links.fire
  · exact links.close found
  · exact links.turn_of turn

-- =================================================== what stays the same

/-- The outlets after some moves: there are the same, with their settings,
and those that were closed still are. -/
structure Lasting (p p' : Publisher) : Prop where
  none : ∀ name, p.outlet? name = none → p'.outlet? name = none
  some : ∀ name o, p.outlet? name = some o → ∃ o', p'.outlet? name = some o'
    ∧ o'.settings = o.settings ∧ (o.pool.isOpen = false → o'.pool.isOpen = false)

theorem lasting_of_eq (same : p'.outlets = p.outlets) : Lasting p p' := by
  have outlet? : ∀ name, p'.outlet? name = p.outlet? name := by
    intro name
    unfold Publisher.outlet?
    rw [same]
  refine ⟨?_, ?_⟩
  · intro name none
    rw [outlet?, none]
  · intro name o found
    exact ⟨o, by rw [outlet?, found], rfl, id⟩

/-- One pool goes on, and is not opened again. -/
theorem lasting_of_outlets {name : String} (found : p.outlet? name = some o)
    (outlets : ∀ name', p'.outlet? name'
      = if name' = name then some { o with pool := pool } else p.outlet? name')
    (shut : o.pool.isOpen = false → pool.isOpen = false) : Lasting p p' := by
  refine ⟨?_, ?_⟩
  · intro name' none
    rw [outlets]
    split
    next same =>
      rw [same, found] at none
      cases none
    next => exact none
  · intro name' o' found'
    rw [outlets]
    split
    next same =>
      rw [same, found] at found'
      cases found'
      exact ⟨_, rfl, rfl, shut⟩
    next => exact ⟨o', found', rfl, id⟩

/-- Every move of a publisher keeps its outlets and their settings. -/
theorem lasting_step (links : Links p) (step : p.step? m = some p') : Lasting p p' := by
  rcases step_cases links step with ⟨posting, -, rfl⟩ | ⟨-, rfl⟩ | ⟨name, o, -, found, rfl⟩
    | ⟨k, s, o, pool, next, moved, turn⟩
  · cases found : p.outlet? posting.instanceName with
    | none =>
        rw [post_of_none found]
        exact lasting_of_eq rfl
    | some o =>
        rw [post_of_found found]
        exact lasting_of_outlets found (fun name => outlet?_setPool (p.addSend _) _ name o _) id
  · exact lasting_of_eq rfl
  · exact lasting_of_outlets found (fun name' => outlet?_setPool p name name' o _) (fun _ => rfl)
  · exact lasting_of_outlets moved.found moved.outlets fun shut => turn.isOpen.trans shut

/-- Only one move fires the signal, and none takes it back. -/
theorem ready_step (links : Links p) (unfired : m ≠ .fire) (step : p.step? m = some p') :
    p'.ready = p.ready := by
  rcases step_cases links step with ⟨posting, -, rfl⟩ | ⟨rfl, -⟩ | ⟨name', o, -, -, rfl⟩
    | ⟨j, s, o, pool, next, moved, -⟩
  · unfold post
    split <;> rfl
  · exact absurd rfl unfired
  · rfl
  · exact moved.ready

/-- While the signal has not fired, nobody leaves the gate. -/
theorem gated_step (links : Links p) (unready : p.ready = false) (unfired : m ≠ .fire)
    (step : p.step? m = some p') {t : Nat} (sent : p.sends[k]? = some s)
    (phase : s.phase = .gated t) : p'.sends[k]? = some s := by
  rcases step_cases links step with ⟨posting, -, rfl⟩ | ⟨rfl, -⟩ | ⟨name', o, -, -, rfl⟩
    | ⟨j, s', o, pool, next, moved, turn⟩
  · rw [sends_post (List.getElem?_eq_some_iff.1 sent).1, sent]
  · exact absurd rfl unfired
  · exact sent
  · have other : k ≠ j := by
      rintro rfl
      rw [moved.sent] at sent
      cases sent
      rw [phase] at turn
      cases turn with
      | passes fired =>
          rw [unready] at fired
          cases fired
    exact (moved.other other).2 sent

-- ========================================================== the beginning

/-- An instance adds its outlet to those of the rest, if it publishes. -/
theorem outletsOf_cons {i : Instance} {rest : List Instance} {outlets : List (String × Outlet)}
    (created : outletsOf (i :: rest) = some (.ok outlets)) :
    i.producer = none ∧ outletsOf rest = some (.ok outlets)
      ∨ ∃ settings pool others, i.producer = some settings
        ∧ Pool.create settings.maxPoolLength.toNat = some (.ok pool)
        ∧ outletsOf rest = some (.ok others)
        ∧ outlets = KeyedList.put i.name ⟨settings, pool⟩ others := by
  unfold outletsOf at created
  split at created
  next silent => exact .inl ⟨silent, created⟩
  next settings publishes =>
    obtain ⟨made, hmade, created⟩ := Option.bind_eq_some_iff.1 created
    cases made with
    | error f => cases created
    | ok pool =>
        obtain ⟨others, hothers, created⟩ := Option.bind_eq_some_iff.1 created
        cases others with
        | error f => cases created
        | ok others =>
            cases created
            exact .inr ⟨settings, pool, others, publishes, hmade, hothers, rfl⟩

/-- The pools at the beginning are as their settings say, and empty. -/
theorem outlets_fresh {instances : List Instance} {outlets : List (String × Outlet)}
    (created : outletsOf instances = some (.ok outlets)) {name : String}
    (found : KeyedList.get? name outlets = some o) :
    Pool.create o.settings.maxPoolLength.toNat = some (.ok o.pool) := by
  induction instances generalizing outlets with
  | nil =>
      cases created
      cases found
  | cons i rest ih =>
      rcases outletsOf_cons created with ⟨-, created⟩
        | ⟨settings, pool, others, -, made, hothers, rfl⟩
      · exact ih created found
      · rw [KeyedList.get?_put] at found
        split at found
        next =>
          cases found
          exact made
        next => exact ih hothers found

/-- An empty pool has no takers. -/
theorem takers_of_create {capacity : Nat} (created : Pool.create capacity = some (.ok pool)) :
    pool.takers = [] := by
  unfold Pool.create at created
  split at created
  · cases created
  · split at created
    · cases created
    · cases created
      rfl

/-- A publisher begins with a pool for each producing instance, and nothing sent. -/
theorem create_cases {instances : List Instance} (created : create instances = some (.ok p)) :
    outletsOf instances = some (.ok p.outlets) ∧ p.ready = false ∧ p.sends = [] := by
  unfold create at created
  obtain ⟨made, hmade, created⟩ := Option.bind_eq_some_iff.1 created
  cases made with
  | error f => cases created
  | ok outlets =>
      cases created
      exact ⟨hmade, rfl, rfl⟩

/-- Where nothing is sent, the links hold. -/
theorem links_of_create {instances : List Instance} (created : create instances = some (.ok p)) :
    Links p := by
  obtain ⟨outlets, -, empty⟩ := create_cases created
  refine ⟨?_, ?_, ?_, ?_⟩
  · intro name o found
    exact .start (outlets_fresh outlets found)
  · intro k s t hs
    simp [empty] at hs
  · intro k k' s s' t hs
    simp [empty] at hs
  · intro name o t φ found hφ
    have none := takers_of_create (outlets_fresh outlets found)
    simp [Pool.phase?, none] at hφ

/-- In every publisher that can come about messages and takers fit together. -/
theorem links_of_reachable {instances : List Instance} (h : Reachable instances p) : Links p := by
  induction h with
  | start created => exact links_of_create created
  | step m _ step links => exact links_step links step

end Publisher

end Courier
