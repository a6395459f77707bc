/-
What one move of a taker does to the pool around it. The accounts of a pool
say how many permits and resources there are; a caller that is a taker
itself needs to know where it stands after its move, and that nobody else
was set back by it.

# The two facts

- A move of one taker leaves every other taker where it was, but for one
  that waits: it may be given the permit that the move sets free
  (`Turned`).
- A permit lies idle only while nobody waits, and who waits in an open pool
  is in its queue (`Served`). So in an open pool a taker that cannot go on
  stands behind permits that are all out.
-/
import Courier.Proofs.Lookup
import Courier.Proofs.Pool.Bounds

namespace Courier.Pool

variable {p p' q : Pool} {t : Nat} {φ φ' : TakerPhase} {capacity : Nat}

-- ============================================================= one's turn

/-- Taker `t` goes on from `φ` to `φ'`, and nobody else does more than to be
given a permit. -/
structure Turned (p p' : Pool) (t : Nat) (φ φ' : TakerPhase) : Prop where
  before : p.phase? t = some φ
  after : p'.phase? t = some φ'
  others : ∀ j, j ≠ t → p'.phase? j = p.phase? j
    ∨ p.phase? j = some .queued ∧ p'.phase? j = some .granted
  isOpen : p'.isOpen = p.isOpen

/-- Where a taker stands is told by the takers alone. -/
theorem phase?_of_takers (same : q.takers = p.takers) (j : Nat) : q.phase? j = p.phase? j := by
  unfold phase?
  rw [same]

/-- A new taker comes last. -/
theorem phase?_arrive_self (p : Pool) :
    (p.step .arrive).phase? p.takers.length = some .asking :=
  List.getElem?_concat_length

/-- Nobody is set back by a new taker. -/
theorem phase?_arrive_of_some (ht : p.phase? t = some φ) : (p.step .arrive).phase? t = some φ :=
  getElem?_append_of_some ht

/-- Back: who is there after an arrival was there before, or is the one that
arrived. -/
theorem of_phase?_arrive (ht : (p.step .arrive).phase? t = some φ) :
    p.phase? t = some φ ∨ t = p.takers.length ∧ φ = .asking :=
  of_getElem?_append ht

theorem phase?_setPhase_self (ht : p.phase? t = some φ) :
    (p.setPhase t φ').phase? t = some φ' := by
  rw [phase?_setPhase, if_pos rfl, if_pos (List.getElem?_eq_some_iff.1 ht).1]

/-- A taker that goes on without a permit being set free concerns nobody else. -/
theorem turned_setPhase (ht : p.phase? t = some φ) (takers : q.takers = p.takers)
    (isOpen : q.isOpen = p.isOpen) : Turned p (q.setPhase t φ') t φ φ' := by
  have hq : q.phase? t = some φ := by rw [phase?_of_takers takers, ht]
  refine ⟨ht, phase?_setPhase_self hq, ?_, isOpen⟩
  intro j other
  rw [phase?_setPhase_of_ne q φ' other.symm]
  exact .inl (phase?_of_takers takers j)

/-- The permit that a turn sets free goes to somebody who waits. -/
theorem Turned.release (turned : Turned p q t φ φ') (waits : φ' ≠ .queued)
    (queued : ∀ k ∈ q.queue, q.phase? k = some .queued) : Turned p q.release t φ φ' := by
  unfold Pool.release
  split
  next k rest hq =>
    have hk : q.phase? k = some .queued := queued k (hq ▸ List.mem_cons_self)
    have other : k ≠ t := by
      intro same
      rw [same, turned.after] at hk
      exact waits (Option.some.inj hk)
    refine ⟨turned.before, ?_, ?_, turned.isOpen⟩
    · rw [phase?_setPhase_of_ne _ _ other]
      exact turned.after
    · intro j notSelf
      by_cases same : k = j
      · subst same
        rcases turned.others k notSelf with unchanged | granted
        · exact .inr ⟨unchanged ▸ hk, phase?_setPhase_self hk⟩
        · rw [granted.2] at hk
          cases hk
      · rw [phase?_setPhase_of_ne _ _ same]
        exact turned.others j notSelf
  next => exact ⟨turned.before, turned.after, turned.others, turned.isOpen⟩

/-- Setting one taker that does not wait leaves those in the queue waiting. -/
theorem Accounts.queued_setPhase {loose : Nat} (acc : Accounts capacity loose p)
    (ht : p.phase? t = some φ) (waits : φ ≠ .queued) :
    ∀ k ∈ (p.setPhase t φ').queue, (p.setPhase t φ').phase? k = some .queued := by
  intro k hk
  have other : t ≠ k := fun same => acc.notQueued ht waits (same ▸ hk)
  rw [phase?_setPhase_of_ne p φ' other]
  exact acc.queued k hk

/-- A taker that goes on and sets a permit free: the one that gets it was queued. -/
theorem Accounts.turned_leave {loose : Nat} (acc : Accounts capacity loose p)
    (ht : p.phase? t = some φ) (waits : φ ≠ .queued) (waits' : φ' ≠ .queued) :
    Turned p (p.setPhase t φ').release t φ φ' :=
  (turned_setPhase ht rfl rfl).release waits' (acc.queued_setPhase ht waits)

-- ========================================================= the moves

/-- A taker that asks comes to wait, gets a permit, or finds the pool closed. -/
theorem turned_ask (acc : Accounts capacity 0 p) (step : p.step? (.ask t) = some p') :
    ∃ φ φ', Turned p p' t φ φ'
      ∧ (φ = .asking ∧ φ' = .queued ∧ p.isOpen = true ∧ p.permits = 0
        ∨ φ = .asking ∧ φ' = .permitted ∧ p.isOpen = true ∧ 0 < p.permits
        ∨ φ = .granted ∧ φ' = .permitted ∧ p.isOpen = true
        ∨ (φ = .asking ∨ φ = .queued ∨ φ = .granted) ∧ φ' = .failed .alreadyDisposed
          ∧ p.isOpen = false) := by
  simp only [step?, Pool.ask] at step
  split at step
  next ht =>
    split at step
    next shut =>
      cases step
      refine ⟨_, _, turned_setPhase ht rfl rfl, .inr (.inr (.inr ⟨.inl rfl, rfl, ?_⟩))⟩
      simpa using shut
    next isOpen =>
      split at step
      next left =>
        cases step
        refine ⟨_, _, turned_setPhase ht rfl rfl, .inr (.inl ⟨rfl, rfl, ?_, left⟩)⟩
        simpa using isOpen
      next none =>
        cases step
        refine ⟨_, _, turned_setPhase ht rfl rfl, .inl ⟨rfl, rfl, ?_, ?_⟩⟩
        · simpa using isOpen
        · omega
  next ht =>
    split at step
    · cases step
    next shut =>
      cases step
      refine ⟨_, _, turned_setPhase ht rfl rfl, .inr (.inr (.inr ⟨.inr (.inl rfl), rfl, ?_⟩))⟩
      simpa using shut
  next ht =>
    split at step
    next isOpen =>
      cases step
      exact ⟨_, _, turned_setPhase ht rfl rfl, .inr (.inr (.inl ⟨rfl, rfl, isOpen⟩))⟩
    next shut =>
      cases step
      refine ⟨_, _, acc.turned_leave ht (by simp) (by simp),
        .inr (.inr (.inr ⟨.inr (.inr rfl), rfl, ?_⟩))⟩
      simpa using shut
  next => cases step

/-- A taker that looks for a resource holds one, or has one made. -/
theorem turned_pick (step : p.step? (.pick t) = some p') :
    ∃ r φ', Turned p p' t .permitted φ' ∧ (φ' = .holding r ∨ φ' = .making r) := by
  simp only [step?] at step
  split at step
  next r rest ht top =>
    cases step
    exact ⟨r, _, turned_setPhase ht rfl rfl, .inl rfl⟩
  next ht none =>
    cases step
    exact ⟨p.makings, _, turned_setPhase ht rfl rfl, .inr rfl⟩
  next => cases step

/-- The making of a resource comes to an end for the taker it is made for. -/
theorem turned_made (step : p.step? (.made t) = some p') :
    ∃ r, Turned p p' t (.making r) (.registering r) := by
  simp only [step?] at step
  split at step
  next r ht =>
    cases step
    exact ⟨r, turned_setPhase ht rfl rfl⟩
  next => cases step

/-- A making that fails sets the permit free, and the taker has failed. -/
theorem turned_unmade {f : Failure} (acc : Accounts capacity 0 p)
    (step : p.step? (.unmade t f) = some p') :
    ∃ r, Turned p p' t (.making r) (.failed f) := by
  simp only [step?] at step
  split at step
  next r ht =>
    cases step
    exact ⟨r, acc.turned_leave ht (by simp) (by simp)⟩
  next => cases step

/-- A resource that was made belongs to its taker once it is registered. -/
theorem turned_register (step : p.step? (.register t) = some p') :
    ∃ r, Turned p p' t (.registering r) (.holding r) := by
  simp only [step?] at step
  split at step
  next r ht =>
    cases step
    exact ⟨r, turned_setPhase ht rfl rfl⟩
  next => cases step

/-- Giving a resource back keeps the permit; it is restored by a move of its own. -/
theorem turned_giveBack (step : p.step? (.giveBack t) = some p') :
    ∃ r, Turned p p' t (.holding r) .returning := by
  simp only [step?] at step
  split at step
  next r ht =>
    cases step
    exact ⟨r, turned_setPhase ht rfl rfl⟩
  next => cases step

/-- Restoring sets the permit free, and whoever is first in the queue gets it. -/
theorem turned_restore (acc : Accounts capacity 0 p) (step : p.step? (.restore t) = some p') :
    Turned p p' t .returning .gone := by
  simp only [step?] at step
  split at step
  next ht =>
    cases step
    exact acc.turned_leave ht (by simp) (by simp)
  next => cases step

-- ============================================================== the queue

/-- No permit lies idle while somebody waits. -/
structure Served (p : Pool) : Prop where
  idle : p.queue = [] ∨ p.permits = 0
  listed : p.isOpen = true → ∀ k, p.phase? k = some .queued → k ∈ p.queue

/-- A taker that goes on to anything but waiting. -/
theorem Served.setPhase (served : Served p) (takers : q.takers = p.takers)
    (isOpen : q.isOpen = p.isOpen) (idle : q.queue = [] ∨ q.permits = 0)
    (queue : p.isOpen = true → ∀ k ∈ p.queue, k = t ∨ k ∈ q.queue) (waits : φ' ≠ .queued) :
    Served (q.setPhase t φ') := by
  refine ⟨idle, ?_⟩
  intro opened k hk
  have opened : p.isOpen = true := isOpen ▸ opened
  rw [phase?_setPhase] at hk
  split at hk
  · split at hk
    · exact absurd (Option.some.inj hk) waits
    · cases hk
  next other =>
    rw [phase?_of_takers takers] at hk
    rcases queue opened k (served.listed opened k hk) with same | member
    · exact absurd same.symm other
    · exact member

/-- A permit that is set free goes to the first in the queue, and lies idle only if
there is none. -/
theorem Served.release (served : Served p) : Served p.release := by
  unfold Pool.release
  split
  next k rest hq =>
    have none : p.permits = 0 := by
      rcases served.idle with empty | none
      · rw [hq] at empty
        cases empty
      · exact none
    refine served.setPhase rfl rfl (.inr none) ?_ (by simp)
    intro _ j hj
    rw [hq] at hj
    exact List.mem_cons.1 hj
  next hq => exact ⟨.inl hq, served.listed⟩

/-- A taker that neither waits nor comes to wait, with all else as it was. -/
theorem Served.goOn (served : Served p) (waits : φ' ≠ .queued) : Served (p.setPhase t φ') :=
  served.setPhase rfl rfl served.idle (fun _ _ hk => .inr hk) waits

/-- A taker that sets its permit free and does not come to wait. -/
theorem Served.leave (served : Served p) (waits : φ' ≠ .queued) :
    Served (p.setPhase t φ').release :=
  (served.goOn waits).release

/-- A taker that asks gets an idle permit, or is in the queue then; it waits in no
other way. -/
theorem Served.ask (served : Served p) (step : p.ask t = some p') : Served p' := by
  unfold Pool.ask at step
  split at step
  next ht =>
    split at step
    · cases step
      exact served.goOn (by simp)
    · split at step
      next left =>
        cases step
        have empty : p.queue = [] := by
          rcases served.idle with empty | none
          · exact empty
          · omega
        exact served.setPhase rfl rfl (.inl empty) (fun _ _ hk => .inr hk) (by simp)
      next none =>
        cases step
        refine ⟨.inr (by show p.permits = 0; omega), ?_⟩
        intro opened k hk
        show k ∈ p.queue ++ [t]
        by_cases same : t = k
        · simp [same]
        · rw [phase?_setPhase_of_ne _ _ same] at hk
          exact List.mem_append_left _ (served.listed opened k hk)
  next ht =>
    split at step
    · cases step
    · cases step
      exact served.goOn (by simp)
  next ht =>
    split at step
    · cases step
      exact served.goOn (by simp)
    · cases step
      exact served.leave (by simp)
  next => cases step

/-- One that gives up leaves the queue, or hands on the permit that it was given. -/
theorem Served.abandon (served : Served p) (step : p.step? (.abandon t) = some p') :
    Served p' := by
  simp only [step?] at step
  split at step
  · cases step
    exact served.goOn (by simp)
  · cases step
    refine served.setPhase rfl rfl ?_ ?_ (by simp)
    · rcases served.idle with empty | none
      · exact .inl (by simp [empty])
      · exact .inr none
    · intro _ k hk
      by_cases same : k = t
      · exact .inl same
      · exact .inr (List.mem_filter.2 ⟨hk, by simpa using same⟩)
  · cases step
    exact served.leave (by simp)
  · cases step
    exact served.leave (by simp)
  · cases step
    exact served.leave (by simp)
  · cases step

/-- Every move of a pool keeps this, one case for each kind of move. -/
theorem served_step (served : Served p) {m : PoolMove} (step : p.step? m = some p') :
    Served p' := by
  cases m with
  | arrive =>
      cases step
      refine ⟨served.idle, ?_⟩
      intro opened k hk
      rcases of_phase?_arrive hk with old | ⟨-, new⟩
      · exact served.listed opened k old
      · cases new
  | ask t => exact served.ask step
  | abandon t => exact served.abandon step
  | close =>
      cases step
      exact ⟨.inl rfl, (by simp)⟩
  | pick t =>
      simp only [step?] at step
      split at step
      · cases step
        exact served.setPhase rfl rfl served.idle (fun _ _ hk => .inr hk) (by simp)
      · cases step
        exact served.setPhase rfl rfl served.idle (fun _ _ hk => .inr hk) (by simp)
      · cases step
  | made t =>
      simp only [step?] at step
      split at step
      · cases step
        exact served.goOn (by simp)
      · cases step
  | unmade t f =>
      simp only [step?] at step
      split at step
      · cases step
        exact served.leave (by simp)
      · cases step
  | register t =>
      simp only [step?] at step
      split at step
      · cases step
        exact served.setPhase rfl rfl served.idle (fun _ _ hk => .inr hk) (by simp)
      · cases step
  | giveBack t =>
      simp only [step?] at step
      split at step
      · cases step
        exact served.setPhase rfl rfl served.idle (fun _ _ hk => .inr hk) (by simp)
      · cases step
  | restore t =>
      simp only [step?] at step
      split at step
      · cases step
        exact served.leave (by simp)
      · cases step

/-- In every pool that can come about no permit lies idle while somebody waits. -/
theorem served_of_reachable (hp : Reachable capacity p) : Served p := by
  induction hp with
  | start created =>
      unfold create at created
      split at created
      · cases created
      · split at created
        · cases created
        · cases created
          exact ⟨.inl rfl, fun _ _ none => nomatch none⟩
  | step m _ step served => exact served_step served step

end Courier.Pool
