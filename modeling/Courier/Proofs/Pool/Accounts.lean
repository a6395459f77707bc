/-
The accounts of a pool. Permits, free resources and registered resources
are changed by different moves, between which other takers may move, so no
single one of them bounds what the pool holds. This file states what holds
between any two moves and shows that every move keeps it.

# The invariant

Every taker past the queue counts for one permit: as a spare one (it was
given a permit and looks for a resource, or has put its resource back and
not yet the permit), as a resource under way, or as a resource held. With
the permits in the pool they add up to the capacity (`permits_eq`). A free
resource was put back together with a permit, so there are at most as many
of them as permits in the pool and spare ones (`free_le`); that is what
keeps a taker from making a resource while others lie idle.

For the resources themselves it is enough to count occurrences: each one is
as often in the free list or in somebody's hands as it was registered
(`placed`), and nothing is registered twice, nor while it is under way
(`once`).

# Loose permits

`release` is never a move of its own. It follows a change that leaves one
permit with nobody, so the invariant is stated with a number of `loose`
permits: a taker's change leaves one loose, and `release` takes it up.
-/
import Courier.Pool
import Courier.Proofs.Lookup

namespace Courier

-- =========================================================== the phases

/-- A permit without a resource that is under way or held. -/
def TakerPhase.isSpare : TakerPhase → Bool
  | granted | permitted | returning => true
  | _ => false

/-- The resource that is made or registered for a taker. -/
def TakerPhase.underway? : TakerPhase → Option Nat
  | making r | registering r => some r
  | _ => none

/-- The resource that a taker holds. -/
def TakerPhase.held? : TakerPhase → Option Nat
  | holding r => some r
  | _ => none

/-- Whether a taker has nothing to do with the pool any more. -/
def TakerPhase.isOver : TakerPhase → Bool
  | failed _ | gone => true
  | _ => false

namespace Pool

/-- The resources under way. -/
def underway (p : Pool) : List Nat := p.takers.filterMap (·.underway?)

/-- The resources that takers hold. -/
def held (p : Pool) : List Nat := p.takers.filterMap (·.held?)

/-- The permits without a resource, outside the pool. -/
def spares (p : Pool) : Nat := p.takers.countP (·.isSpare)

-- ========================================================= the invariant

/-- What holds of a pool between any two moves, and, with `loose` permits
that nobody has, in the middle of one. -/
structure Accounts (capacity loose : Nat) (p : Pool) : Prop where
  permits_eq : p.permits + p.spares + p.underway.length + p.held.length + loose = capacity
  free_le : p.free.length ≤ p.permits + p.spares + loose
  placed : ∀ r, p.free.count r + p.held.count r = p.created.count r
  once : ∀ r, p.created.count r + p.underway.count r ≤ 1
  numbered : ∀ r, p.makings ≤ r → p.created.count r + p.underway.count r = 0
  queued : ∀ k ∈ p.queue, p.phase? k = some .queued
  queue_nodup : p.queue.Nodup
  closed : p.isOpen = false → p.queue = []

-- ===================================================== one taker's change

variable {p : Pool} {k : Nat} {phase : TakerPhase} {capacity loose : Nat}

theorem phase?_setPhase (p : Pool) (k j : Nat) (phase : TakerPhase) :
    (p.setPhase k phase).phase? j
      = if k = j then (if k < p.takers.length then some phase else none) else p.phase? j := by
  unfold phase? setPhase
  rw [List.getElem?_set]

/-- Other takers do not notice the change of one. -/
theorem phase?_setPhase_of_ne {j : Nat} (p : Pool) (phase : TakerPhase) (hj : k ≠ j) :
    (p.setPhase k phase).phase? j = p.phase? j := by
  rw [phase?_setPhase, if_neg hj]

theorem toNat_eq_ite (b : Bool) : b.toNat = if b then 1 else 0 := by
  cases b with
  | false => rfl
  | true => rfl

/-- A taker that changes is counted as what it is then. -/
theorem countP_setPhase (q : TakerPhase → Bool) (hk : p.phase? k = some phase)
    (next : TakerPhase) :
    (p.setPhase k next).takers.countP q + (q phase).toNat
      = p.takers.countP q + (q next).toNat :=
  countP_set_add q hk next

theorem length_toList (o : Option Nat) : o.toList.length = o.isSome.toNat := by
  cases o with
  | none => rfl
  | some i => rfl

theorem count_toList (o : Option Nat) (r : Nat) : o.toList.count r = (o == some r).toNat := by
  cases o with
  | none => rfl
  | some i => simp [List.count_singleton, toNat_eq_ite]

/-- What the change of one taker does to the lists and counts of a pool. -/
structure Changed (p p' : Pool) (phase next : TakerPhase) : Prop where
  spares : p'.spares + phase.isSpare.toNat = p.spares + next.isSpare.toNat
  underway : p'.underway.length + phase.underway?.toList.length
    = p.underway.length + next.underway?.toList.length
  held : p'.held.length + phase.held?.toList.length
    = p.held.length + next.held?.toList.length
  count_underway : ∀ r, p'.underway.count r + phase.underway?.toList.count r
    = p.underway.count r + next.underway?.toList.count r
  count_held : ∀ r, p'.held.count r + phase.held?.toList.count r
    = p.held.count r + next.held?.toList.count r

theorem changed_setPhase (hk : p.phase? k = some phase) (next : TakerPhase) :
    Changed p (p.setPhase k next) phase next := by
  refine ⟨countP_setPhase _ hk next, ?_, ?_, ?_, ?_⟩
  · unfold underway
    rw [List.length_filterMap_eq_countP, List.length_filterMap_eq_countP,
      length_toList, length_toList]
    exact countP_setPhase _ hk next
  · unfold held
    rw [List.length_filterMap_eq_countP, List.length_filterMap_eq_countP,
      length_toList, length_toList]
    exact countP_setPhase _ hk next
  · intro r
    unfold underway
    rw [List.count_filterMap, List.count_filterMap, count_toList, count_toList]
    exact countP_setPhase (fun φ => φ.underway? == some r) hk next
  · intro r
    unfold held
    rw [List.count_filterMap, List.count_filterMap, count_toList, count_toList]
    exact countP_setPhase (fun φ => φ.held? == some r) hk next

/-- A taker that does not wait for a permit is not in the queue. -/
theorem Accounts.notQueued (acc : Accounts capacity loose p) (hk : p.phase? k = some phase)
    (waits : phase ≠ .queued) : k ∉ p.queue := by
  intro member
  have queued := acc.queued k member
  rw [hk] at queued
  exact waits (Option.some.inj queued)

/-- One taker goes on from `phase` to `next` while the pool `p` becomes `q`
but for that. The permits balance, with those that are loose before and
after. A free resource more stands against a permit more, unless none is
free. No resource appears or vanishes, and none is registered or under way
that was not, but for those whose making is begun now. -/
theorem Accounts.change {loose' : Nat} {q : Pool} {next : TakerPhase}
    (acc : Accounts capacity loose p) (hk : p.phase? k = some phase) (notQueued : k ∉ p.queue)
    (takers : q.takers = p.takers) (permits : q.permits = p.permits)
    (queue : q.queue = p.queue) (isOpen : q.isOpen = p.isOpen) (makings : p.makings ≤ q.makings)
    (balance : phase.isSpare.toNat + phase.underway?.toList.length + phase.held?.toList.length
        + loose
      = next.isSpare.toNat + next.underway?.toList.length + next.held?.toList.length + loose')
    (free : q.free = [] ∨ q.free.length + phase.isSpare.toNat + loose
      ≤ p.free.length + next.isSpare.toNat + loose')
    (placed : ∀ r, q.free.count r + next.held?.toList.count r + p.created.count r
      = p.free.count r + phase.held?.toList.count r + q.created.count r)
    (once : ∀ r, q.created.count r + next.underway?.toList.count r
      ≤ p.created.count r + phase.underway?.toList.count r
        + if p.makings ≤ r ∧ r < q.makings then 1 else 0) :
    Accounts capacity loose' (q.setPhase k next) := by
  have ch : Changed q (q.setPhase k next) phase next := by
    refine changed_setPhase ?_ next
    unfold phase?
    rw [takers]
    exact hk
  have spares := ch.spares
  have underway := ch.underway
  have held := ch.held
  have sameSpares : q.spares = p.spares := congrArg (List.countP _) takers
  have sameUnderway : q.underway = p.underway := congrArg (List.filterMap _) takers
  have sameHeld : q.held = p.held := congrArg (List.filterMap _) takers
  rw [sameSpares] at spares
  rw [sameUnderway] at underway
  rw [sameHeld] at held
  refine ⟨?_, ?_, ?_, ?_, ?_, ?_, ?_, ?_⟩
  · have total := acc.permits_eq
    show q.permits + _ + _ + _ + _ = _
    omega
  · have bound := acc.free_le
    show q.free.length ≤ q.permits + _ + _
    rcases free with none | balanced
    · rw [none]
      exact Nat.zero_le _
    · omega
  · intro r
    have count := ch.count_held r
    have before := acc.placed r
    have after := placed r
    rw [sameHeld] at count
    show q.free.count r + _ = q.created.count r
    omega
  · intro r
    have count := ch.count_underway r
    have before := acc.once r
    have unused := acc.numbered r
    have after := once r
    rw [sameUnderway] at count
    show q.created.count r + _ ≤ 1
    split at after
    next new =>
      have none := unused new.1
      omega
    next => omega
  · intro r hr
    have count := ch.count_underway r
    have unused := acc.numbered r (Nat.le_trans makings hr)
    have after := once r
    rw [if_neg (fun new => Nat.not_lt.2 hr new.2)] at after
    rw [sameUnderway] at count
    show q.created.count r + _ = 0
    omega
  · intro j hj
    rw [show (q.setPhase k next).queue = p.queue from queue] at hj
    have other : k ≠ j := fun same => notQueued (same ▸ hj)
    rw [phase?_setPhase_of_ne q next other]
    unfold phase?
    rw [takers]
    exact acc.queued j hj
  · show q.queue.Nodup
    rw [queue]
    exact acc.queue_nodup
  · intro shut
    show q.queue = []
    rw [queue]
    exact acc.closed (isOpen ▸ shut)

/-- A taker that goes on without another resource keeps the accounts, when
the permit it gains or loses is loose before or after. -/
theorem Accounts.setPhase {loose' : Nat} (acc : Accounts capacity loose p)
    (hk : p.phase? k = some phase) (notQueued : k ∉ p.queue) {next : TakerPhase}
    (held : next.held? = phase.held?)
    (underway : next.underway? = phase.underway? ∨ next.underway? = none)
    (balance : phase.isSpare.toNat + phase.underway?.toList.length + loose
      = next.isSpare.toNat + next.underway?.toList.length + loose') :
    Accounts capacity loose' (p.setPhase k next) := by
  have fewer : ∀ r, next.underway?.toList.count r ≤ phase.underway?.toList.count r := by
    intro r
    rcases underway with same | none
    · simp [same]
    · simp [none]
  have shorter : next.underway?.toList.length ≤ phase.underway?.toList.length := by
    rcases underway with same | none
    · simp [same]
    · simp [none]
  refine acc.change hk notQueued rfl rfl rfl rfl (Nat.le_refl _) ?_ (.inr ?_) ?_ ?_
  · rw [held]
    omega
  · omega
  · intro r
    rw [held]
  · intro r
    exact Nat.le_trans (Nat.add_le_add_left (fewer r) _) (Nat.le_add_right _ _)

-- ================================================================ permits

/-- A loose permit goes to the taker that has waited longest, or back to the
pool. -/
theorem Accounts.release (acc : Accounts capacity (loose + 1) p) :
    Accounts capacity loose p.release := by
  unfold Pool.release
  split
  next k rest hq =>
      have nodup := acc.queue_nodup
      rw [hq, List.nodup_cons] at nodup
      have shorter : Accounts capacity (loose + 1) { p with queue := rest } := by
        refine ⟨acc.permits_eq, acc.free_le, acc.placed, acc.once, acc.numbered, ?_, nodup.2, ?_⟩
        · intro j hj
          exact acc.queued j (hq ▸ List.mem_cons_of_mem k hj)
        · intro shut
          have empty := acc.closed shut
          rw [hq] at empty
          cases empty
      have waiting : ({ p with queue := rest } : Pool).phase? k = some .queued :=
        acc.queued k (hq ▸ List.mem_cons_self)
      refine shorter.setPhase waiting nodup.1 rfl (.inl rfl) ?_
      show 0 + 0 + (loose + 1) = 1 + 0 + loose
      omega
  next =>
      refine ⟨?_, ?_, acc.placed, acc.once, acc.numbered, acc.queued, acc.queue_nodup, acc.closed⟩
      · have total := acc.permits_eq
        show p.permits + 1 + p.spares + p.underway.length + p.held.length + _ = _
        omega
      · have bound := acc.free_le
        show p.free.length ≤ p.permits + 1 + p.spares + _
        omega

/-- A permit that is taken out of the pool is loose. -/
theorem Accounts.takePermit (acc : Accounts capacity loose p) (some_left : 0 < p.permits) :
    Accounts capacity (loose + 1) { p with permits := p.permits - 1 } := by
  refine ⟨?_, ?_, acc.placed, acc.once, acc.numbered, acc.queued, acc.queue_nodup, acc.closed⟩
  · have total := acc.permits_eq
    show p.permits - 1 + p.spares + p.underway.length + p.held.length + _ = _
    omega
  · have bound := acc.free_le
    show p.free.length ≤ p.permits - 1 + p.spares + _
    omega

end Pool

end Courier
