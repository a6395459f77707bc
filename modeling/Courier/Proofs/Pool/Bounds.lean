/-
What a pool keeps to, whatever its takers do and in whatever order: it
never has more resources than its capacity, every one of them is free or in
one taker's hands, none is made while another lies idle, and when everyone
has gone all the permits are back.

# The shape of the argument

`accounts_step` goes through the moves once and shows that each keeps the
accounts; `accounts_of_reachable` carries that over a run. A move that
leaves the resources where they are is a change of one taker
(`Accounts.setPhase`), before or after one of the permits or of the queue.
The four that put a resource somewhere else (taken off the free ones,
begun, registered, put back) move one number from one list to another,
which `Accounts.change` allows when the counts agree.
-/
import Courier.Proofs.Pool.Accounts

namespace Courier.Pool

variable {p p' : Pool} {k : Nat} {phase : TakerPhase} {capacity loose : Nat}

-- ============================================================== the queue

/-- A taker that has come to wait is put at the end of the queue. -/
theorem Accounts.enqueue (acc : Accounts capacity loose p) (hk : p.phase? k = some .queued)
    (notQueued : k ∉ p.queue) (isOpen : p.isOpen = true) :
    Accounts capacity loose { p with queue := p.queue ++ [k] } := by
  refine ⟨acc.permits_eq, acc.free_le, acc.placed, acc.once, acc.numbered, ?_, ?_, ?_⟩
  · intro j hj
    rcases List.mem_append.1 hj with before | last
    · exact acc.queued j before
    · rw [List.mem_singleton.1 last]
      exact hk
  · show (p.queue ++ [k]).Nodup
    refine List.nodup_append.2 ⟨acc.queue_nodup, List.pairwise_singleton _ _, ?_⟩
    intro j hj i hi same
    rw [List.mem_singleton.1 hi] at same
    exact notQueued (same ▸ hj)
  · intro shut
    rw [show p.isOpen = false from shut] at isOpen
    cases isOpen

/-- Nobody has to stay in the queue. -/
theorem Accounts.dequeue (acc : Accounts capacity loose p) {queue : List Nat}
    (fewer : queue.Sublist p.queue) :
    Accounts capacity loose { p with queue := queue } := by
  refine ⟨acc.permits_eq, acc.free_le, acc.placed, acc.once, acc.numbered, ?_,
    acc.queue_nodup.sublist fewer, ?_⟩
  · intro j hj
    exact acc.queued j (fewer.subset hj)
  · intro shut
    have empty := acc.closed shut
    rw [empty] at fewer
    exact List.sublist_nil.1 fewer

/-- A taker that ends with a permit and no resource in hand leaves the
permit to the next one. -/
theorem Accounts.leave (acc : Accounts capacity loose p) (hk : p.phase? k = some phase)
    (permit : phase.isSpare.toNat + phase.underway?.toList.length = 1)
    (none : phase.held? = none) {next : TakerPhase} (ended : next.isOver = true) :
    Accounts capacity loose (p.setPhase k next).release := by
  have notQueued : k ∉ p.queue := by
    refine acc.notQueued hk ?_
    intro same
    rw [same] at permit
    cases permit
  apply Accounts.release
  cases next with
  | failed failure =>
      refine acc.setPhase hk notQueued none.symm (.inr rfl) ?_
      rw [permit]
      exact Nat.add_comm 1 loose ▸ (Nat.zero_add _).symm
  | gone =>
      refine acc.setPhase hk notQueued none.symm (.inr rfl) ?_
      rw [permit]
      exact Nat.add_comm 1 loose ▸ (Nat.zero_add _).symm
  | _ => cases ended

-- ============================================================= the moves

/-- Asking for a permit keeps the accounts. -/
theorem Accounts.ask (acc : Accounts capacity 0 p) (step : p.ask k = some p') :
    Accounts capacity 0 p' := by
  unfold Pool.ask at step
  split at step
  next hk =>
    have notQueued := acc.notQueued hk nofun
    split at step
    · cases step
      exact acc.setPhase hk notQueued rfl (.inl rfl) rfl
    · split at step
      next left =>
        cases step
        exact (acc.takePermit left).setPhase hk notQueued rfl (.inl rfl) rfl
      next shut none =>
        cases step
        have waiting : Accounts capacity 0 (p.setPhase k .queued) :=
          acc.setPhase hk notQueued rfl (.inl rfl) rfl
        refine waiting.enqueue ?_ notQueued ?_
        · rw [phase?_setPhase, if_pos rfl, if_pos (List.getElem?_eq_some_iff.1 hk).1]
        · show p.isOpen = true
          simpa using shut
  next hk =>
    split at step
    · cases step
    next shut =>
      cases step
      refine acc.setPhase hk ?_ rfl (.inl rfl) rfl
      rw [acc.closed (by simpa using shut)]
      exact List.not_mem_nil
  next hk =>
    split at step
    · cases step
      exact acc.setPhase hk (acc.notQueued hk nofun) rfl (.inl rfl) rfl
    · cases step
      exact acc.leave hk rfl rfl rfl
  next => cases step

/-- Taking a free resource, or beginning to make one, keeps the accounts. -/
theorem Accounts.pick (acc : Accounts capacity 0 p) (step : p.step? (.pick k) = some p') :
    Accounts capacity 0 p' := by
  simp only [step?] at step
  split at step
  next r rest hk top =>
    cases step
    refine acc.change (q := { p with free := rest }) hk (acc.notQueued hk nofun)
      rfl rfl rfl rfl (Nat.le_refl _) rfl (.inr ?_) ?_ ?_
    · rw [top]
      exact Nat.le_refl _
    · intro i
      rw [top, ← List.singleton_append, List.count_append]
      show rest.count i + [r].count i + p.created.count i
        = [r].count i + rest.count i + 0 + p.created.count i
      omega
    · intro i
      exact Nat.le_add_right _ _
  next hk none =>
    cases step
    refine acc.change (q := { p with makings := p.makings + 1 }) hk
      (acc.notQueued hk nofun) rfl rfl rfl rfl (Nat.le_succ _) rfl
      (.inl none) (fun _ => rfl) ?_
    intro i
    show p.created.count i + [p.makings].count i ≤ p.created.count i + 0 + _
    rw [List.count_singleton]
    split
    next same =>
      rw [beq_iff_eq] at same
      simp [same]
    next => exact Nat.le_add_right _ _
  next => cases step

/-- Registering the resource that was made keeps the accounts. -/
theorem Accounts.register (acc : Accounts capacity 0 p)
    (step : p.step? (.register k) = some p') : Accounts capacity 0 p' := by
  simp only [step?] at step
  split at step
  next r hk =>
    cases step
    refine acc.change (q := { p with created := p.created ++ [r] }) hk
      (acc.notQueued hk nofun) rfl rfl rfl rfl (Nat.le_refl _) rfl
      (.inr (Nat.le_refl _)) ?_ ?_
    · intro i
      show p.free.count i + [r].count i + _ = p.free.count i + 0 + (p.created ++ [r]).count i
      rw [List.count_append]
      omega
    · intro i
      show (p.created ++ [r]).count i + 0 ≤ p.created.count i + [r].count i + _
      rw [List.count_append]
      exact Nat.le_add_right _ _
  next => cases step

/-- Giving a resource back keeps the accounts. -/
theorem Accounts.giveBack (acc : Accounts capacity 0 p)
    (step : p.step? (.giveBack k) = some p') : Accounts capacity 0 p' := by
  simp only [step?] at step
  split at step
  next r hk =>
    cases step
    refine acc.change (q := { p with free := r :: p.free }) hk
      (acc.notQueued hk nofun) rfl rfl rfl rfl (Nat.le_refl _) rfl
      (.inr (Nat.le_refl _)) ?_ ?_
    · intro i
      show ([r] ++ p.free).count i + 0 + p.created.count i
        = p.free.count i + [r].count i + p.created.count i
      rw [List.count_append]
      omega
    · intro i
      exact Nat.le_add_right _ _
  next => cases step

/-- Giving up keeps the accounts. -/
theorem Accounts.abandon (acc : Accounts capacity 0 p)
    (step : p.step? (.abandon k) = some p') : Accounts capacity 0 p' := by
  simp only [step?] at step
  split at step
  next hk =>
    cases step
    exact acc.setPhase hk (acc.notQueued hk nofun) rfl (.inl rfl) rfl
  next hk =>
    cases step
    refine (acc.dequeue List.filter_sublist).setPhase hk ?_ rfl (.inl rfl) rfl
    intro member
    have other := (List.mem_filter.1 member).2
    rw [bne_self_eq_false] at other
    cases other
  next hk =>
    cases step
    exact acc.leave hk rfl rfl rfl
  next hk =>
    cases step
    exact acc.leave hk rfl rfl rfl
  next r hk =>
    cases step
    exact acc.leave hk rfl rfl rfl
  next => cases step

/-- A new taker keeps the accounts: it has nothing yet. -/
theorem Accounts.arrive (acc : Accounts capacity 0 p) :
    Accounts capacity 0 { p with takers := p.takers ++ [.asking] } := by
  have spares : ({ p with takers := p.takers ++ [.asking] } : Pool).spares = p.spares := by
    unfold spares
    rw [List.countP_append]
    rfl
  have underway : ({ p with takers := p.takers ++ [.asking] } : Pool).underway = p.underway := by
    unfold underway
    rw [List.filterMap_append]
    exact List.append_nil _
  have held : ({ p with takers := p.takers ++ [.asking] } : Pool).held = p.held := by
    unfold held
    rw [List.filterMap_append]
    exact List.append_nil _
  refine ⟨?_, ?_, ?_, ?_, ?_, ?_, acc.queue_nodup, acc.closed⟩
  · rw [spares, underway, held]
    exact acc.permits_eq
  · rw [spares]
    exact acc.free_le
  · rw [held]
    exact acc.placed
  · rw [underway]
    exact acc.once
  · rw [underway]
    exact acc.numbered
  · intro j hj
    have there := acc.queued j hj
    unfold phase? at there ⊢
    rw [List.getElem?_append_left (List.getElem?_eq_some_iff.1 there).1]
    exact there

/-- Every move keeps the accounts. -/
theorem accounts_step (acc : Accounts capacity 0 p) {m : PoolMove}
    (step : p.step? m = some p') : Accounts capacity 0 p' := by
  cases m with
  | arrive =>
      cases step
      exact acc.arrive
  | ask k => exact acc.ask step
  | pick k => exact acc.pick step
  | made k =>
      simp only [step?] at step
      split at step
      next r hk =>
        cases step
        exact acc.setPhase hk (acc.notQueued hk nofun) rfl (.inl rfl) rfl
      next => cases step
  | unmade k failure =>
      simp only [step?] at step
      split at step
      next r hk =>
        cases step
        exact acc.leave hk rfl rfl rfl
      next => cases step
  | register k => exact acc.register step
  | abandon k => exact acc.abandon step
  | giveBack k => exact acc.giveBack step
  | restore k =>
      simp only [step?] at step
      split at step
      next hk =>
        cases step
        exact acc.leave hk rfl rfl rfl
      next => cases step
  | close =>
      cases step
      have emptied := acc.dequeue (List.nil_sublist p.queue)
      exact { emptied with closed := fun _ => rfl }

/-- The accounts hold in every pool that can come about. -/
theorem accounts_of_reachable (hp : Reachable capacity p) : Accounts capacity 0 p := by
  induction hp with
  | start created =>
      unfold create at created
      split at created
      · cases created
      · split at created
        · cases created
        · cases created
          exact ⟨rfl, Nat.zero_le _, fun _ => rfl, fun _ => Nat.zero_le _, fun _ _ => rfl,
            fun _ absurd => (List.not_mem_nil absurd).elim, List.nodup_nil, fun _ => rfl⟩
  | step m _ step acc => exact accounts_step acc step

-- ================================================= what a move begins anew

/-- No making is begun and no resource registered on the way from `p` to `p'`. -/
structure Quiet (p p' : Pool) : Prop where
  created : p'.created = p.created
  making : ∀ k r, p'.phase? k = some (.making r) → p.phase? k = some (.making r)

/-- A taker that goes on to anything else begins no making. -/
theorem making_setPhase {q : Pool} {next : TakerPhase} (takers : q.takers = p.takers)
    (other : ∀ r, next ≠ .making r) {j r : Nat}
    (making : (q.setPhase k next).phase? j = some (.making r)) :
    p.phase? j = some (.making r) := by
  rw [phase?_setPhase] at making
  split at making
  · split at making
    · exact absurd (Option.some.inj making) (other r)
    · cases making
  · unfold phase? at making ⊢
    rw [← takers]
    exact making

theorem quiet_setPhase {q : Pool} {next : TakerPhase} (takers : q.takers = p.takers)
    (created : q.created = p.created) (other : ∀ r, next ≠ .making r) :
    Quiet p (q.setPhase k next) :=
  ⟨created, fun _ _ making => making_setPhase takers other making⟩

/-- Releasing a permit concerns no resource. -/
theorem quiet_release {q : Pool} (quiet : Quiet p q) : Quiet p q.release := by
  unfold release
  split
  next j rest hq =>
    have granted : Quiet q ({ q with queue := rest }.setPhase j .granted) :=
      quiet_setPhase rfl rfl nofun
    exact ⟨granted.created.trans quiet.created,
      fun k r making => quiet.making k r (granted.making k r making)⟩
  next => exact ⟨quiet.created, quiet.making⟩

theorem quiet_ask (step : p.ask k = some p') : Quiet p p' := by
  unfold Pool.ask at step
  split at step
  · split at step
    · cases step
      exact quiet_setPhase rfl rfl nofun
    · split at step
      · cases step
        exact quiet_setPhase rfl rfl nofun
      · cases step
        exact quiet_setPhase rfl rfl nofun
  · split at step
    · cases step
    · cases step
      exact quiet_setPhase rfl rfl nofun
  · split at step
    · cases step
      exact quiet_setPhase rfl rfl nofun
    · cases step
      exact quiet_release (quiet_setPhase rfl rfl nofun)
  · cases step

/-- A making is begun only for a taker that found nothing free, and a
resource registered only for the taker it was made for. -/
theorem quiet_step {m : PoolMove} (step : p.step? m = some p') :
    Quiet p p'
    ∨ (∃ k, m = .pick k ∧ p.phase? k = some .permitted ∧ p.free = []
        ∧ p' = { p with makings := p.makings + 1 }.setPhase k (.making p.makings))
    ∨ ∃ k r, m = .register k ∧ p.phase? k = some (.registering r)
        ∧ p' = { p with created := p.created ++ [r] }.setPhase k (.holding r) := by
  cases m with
  | arrive =>
      cases step
      refine .inl ⟨rfl, ?_⟩
      intro k r making
      unfold phase? at making ⊢
      rcases Nat.lt_or_ge k p.takers.length with before | after
      · rwa [List.getElem?_append_left before] at making
      · rw [List.getElem?_append_right after, List.getElem?_singleton] at making
        split at making
        · cases making
        · cases making
  | ask k => exact .inl (quiet_ask step)
  | pick k =>
      simp only [step?] at step
      split at step
      · cases step
        exact .inl (quiet_setPhase rfl rfl nofun)
      next hk none =>
        exact .inr (.inl ⟨k, rfl, hk, none, (Option.some.inj step).symm⟩)
      · cases step
  | made k =>
      simp only [step?] at step
      split at step
      · cases step
        exact .inl (quiet_setPhase rfl rfl nofun)
      · cases step
  | unmade k failure =>
      simp only [step?] at step
      split at step
      · cases step
        exact .inl (quiet_release (quiet_setPhase rfl rfl nofun))
      · cases step
  | register k =>
      simp only [step?] at step
      split at step
      next r hk => exact .inr (.inr ⟨k, r, rfl, hk, (Option.some.inj step).symm⟩)
      · cases step
  | abandon k =>
      have gone : ∀ {q : Pool}, q.takers = p.takers → q.created = p.created →
          Quiet p (q.setPhase k .gone) :=
        fun takers created => quiet_setPhase takers created nofun
      simp only [step?] at step
      split at step
      · cases step
        exact .inl (gone rfl rfl)
      · cases step
        exact .inl (gone rfl rfl)
      · cases step
        exact .inl (quiet_release (gone rfl rfl))
      · cases step
        exact .inl (quiet_release (gone rfl rfl))
      · cases step
        exact .inl (quiet_release (gone rfl rfl))
      · cases step
  | giveBack k =>
      simp only [step?] at step
      split at step
      · cases step
        exact .inl (quiet_setPhase rfl rfl nofun)
      · cases step
  | restore k =>
      simp only [step?] at step
      split at step
      · cases step
        exact .inl (quiet_release (quiet_setPhase rfl rfl nofun))
      · cases step
  | close =>
      cases step
      exact .inl ⟨rfl, fun _ _ making => making⟩

/-- Nothing leaves the list of registered resources. -/
theorem created_step {m : PoolMove} (step : p.step? m = some p') :
    p.created <+: p'.created := by
  rcases quiet_step step with quiet | ⟨k, -, -, -, rfl⟩ | ⟨k, r, -, -, rfl⟩
  · simp [quiet.created]
  · exact List.prefix_refl _
  · exact List.prefix_append _ _

/-- Only a taker that finds nothing free begins a making. -/
theorem making_step {m : PoolMove} (step : p.step? m = some p') {r : Nat}
    (making : p'.phase? k = some (.making r)) :
    p.phase? k = some (.making r) ∨ m = .pick k ∧ p.phase? k = some .permitted ∧ p.free = [] := by
  rcases quiet_step step with quiet | ⟨j, rfl, hj, none, rfl⟩ | ⟨j, i, -, -, rfl⟩
  · exact .inl (quiet.making k r making)
  · by_cases same : j = k
    · rw [← same]
      exact .inr ⟨rfl, hj, none⟩
    · rw [phase?_setPhase_of_ne _ _ same] at making
      exact .inl making
  · exact .inl (making_setPhase rfl (fun _ => TakerPhase.noConfusion) making)

-- ========================================================= the main result

/-- Two takers do not hold the same resource: with one of them gone it
would still be held, and so have been there twice. -/
theorem Accounts.holder_unique (acc : Accounts capacity loose p) {j r : Nat}
    (hj : p.phase? j = some (.holding r)) (hk : p.phase? k = some (.holding r)) : j = k := by
  by_cases other : j = k
  · exact other
  have once := acc.once r
  have placed := acc.placed r
  have without := (changed_setPhase hj .gone).count_held r
  have stays : (p.setPhase j .gone).phase? k = some (.holding r) := by
    rw [phase?_setPhase_of_ne p .gone other]
    exact hk
  have within := (changed_setPhase stays .gone).count_held r
  have one : (TakerPhase.holding r).held?.toList.count r = 1 := List.count_singleton_self
  have zero : TakerPhase.gone.held?.toList.count r = 0 := rfl
  rw [one, zero] at without within
  omega

/-- A pool of some capacity, whatever was done to it and in whatever order:
the resources that are free, held and under way are never more than the
capacity. Each registered one is either free or with exactly one taker, and
none is ever lost. Once all takers are gone, whichever way, every permit is
back. And a making is begun only for a taker that finds nothing free. -/
theorem bounded_and_placed (hp : Reachable capacity p) :
    (p.free.length + p.held.length + p.underway.length ≤ capacity
      ∧ p.created.length ≤ capacity)
    ∧ ((p.free ++ p.held).Perm p.created
      ∧ (p.created ++ p.underway).Nodup
      ∧ (∀ j k r, p.phase? j = some (.holding r) → p.phase? k = some (.holding r) → j = k)
      ∧ ∀ m p', p.step? m = some p' → p.created <+: p'.created)
    ∧ ((∀ φ ∈ p.takers, φ.isOver = true) → p.permits = capacity)
    ∧ ∀ m p' k r, p.step? m = some p' → p'.phase? k = some (.making r) →
        p.phase? k = some (.making r)
        ∨ m = .pick k ∧ p.phase? k = some .permitted ∧ p.free = [] := by
  have acc := accounts_of_reachable hp
  have total := acc.permits_eq
  have bound := acc.free_le
  have everywhere : (p.free ++ p.held).Perm p.created := by
    rw [List.perm_iff_count]
    intro r
    rw [List.count_append]
    exact acc.placed r
  have size := everywhere.length_eq
  rw [List.length_append] at size
  refine ⟨⟨?_, ?_⟩, ⟨everywhere, ?_, ?_, ?_⟩, ?_, ?_⟩
  · omega
  · omega
  · rw [List.nodup_iff_count]
    intro r
    rw [List.count_append]
    exact acc.once r
  · exact fun _ _ _ hj hk => acc.holder_unique hj hk
  · exact fun _ _ step => created_step step
  · intro ended
    have nothing : ∀ φ ∈ p.takers, φ.isSpare = false ∧ φ.underway? = none ∧ φ.held? = none := by
      intro φ member
      have past := ended φ member
      cases φ with
      | failed failure => exact ⟨rfl, rfl, rfl⟩
      | gone => exact ⟨rfl, rfl, rfl⟩
      | _ => cases past
    have spares : p.spares = 0 := by
      refine List.countP_eq_zero.2 ?_
      intro φ member
      rw [(nothing φ member).1]
      exact Bool.false_ne_true
    have underway : p.underway = [] :=
      List.filterMap_eq_nil_iff.2 fun φ member => (nothing φ member).2.1
    have held : p.held = [] :=
      List.filterMap_eq_nil_iff.2 fun φ member => (nothing φ member).2.2
    rw [spares, underway, held] at total
    exact total
  · exact fun _ _ _ _ step making => making_step step making

/-- Three takers of a pool for two: the first holds a resource, the making
for the second has failed, and the third, who waited, has one made. -/
def lent : Pool where
  capacity := 2
  permits := 0
  created := [0]
  makings := 3
  takers := [.holding 0, .failed .channelRefused, .making 2]

theorem bounded_and_placed_of_lent :
    Reachable 2 lent ∧ (lent.free ++ lent.held).Perm lent.created
      ∧ lent.free.length + lent.held.length + lent.underway.length ≤ 2 := by
  have served : Reachable 2 {
      capacity := 2
      permits := 0
      queue := [2]
      makings := 2
      takers := [.making 0, .making 1, .queued] } :=
    .step (.ask 2) (.step (.pick 1) (.step (.pick 0) (.step (.ask 1) (.step (.ask 0)
      (.step .arrive (.step .arrive (.step .arrive (.start rfl) rfl) rfl) rfl) rfl) rfl) rfl) rfl) rfl
  have reached : Reachable 2 lent :=
    .step (.pick 2) (.step (.ask 2) (.step (.unmade 1 .channelRefused) (.step (.register 0)
      (.step (.made 0) served rfl) rfl) rfl) rfl) rfl
  have all := bounded_and_placed reached
  exact ⟨reached, all.2.1.1, all.1.1⟩

end Courier.Pool
