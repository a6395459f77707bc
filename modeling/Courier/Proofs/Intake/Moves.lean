/-
What the moves of listeners and their tasks do, read off once.

- A move of a listener depends on its phase and, where it looks at the token,
  on that: `Listener.Turn` has one case for each, `turn_of_step` says that
  there are no others.
- A move of an intake is the turn of one reader (`Reader.Turn`), which says
  what becomes of the permits as well, or it sets a limit, begins a listener,
  or cancels all of them: `step_cases`.
-/
import Courier.Intake
import Courier.Proofs.Lookup

namespace Courier

-- ======================================================== one listener

/-- A listener goes on. -/
inductive Listener.Turn (l : Listener) : ListenerMove → Listener → Prop where
  | cancels : Turn l .cancel { l with cancelled := true }
  | asks : l.phase = .looking → l.cancelled = false → Turn l .look { l with phase := .asking }
  | stops : l.phase = .looking ∨ l.phase = .asking → l.cancelled = true →
    Turn l .look (l.stop .cancelled)
  | leaves {d : Delivery} : l.phase = .holding d ∨ l.phase = .admitting d →
    l.cancelled = true → Turn l .look { l with phase := .looking }
  | seeks {d : Delivery} : l.phase = .holding d → l.cancelled = false →
    Turn l .look { l with phase := .admitting d }
  | pends : l.phase = .asking → Turn l .pend { l with phase := .looking }
  | takes {d : Delivery} : l.phase = .asking →
    Turn l (.take d) { l with phase := .holding d, taken := l.taken ++ [d] }
  | fails : l.phase = .asking → Turn l .fail (l.stop .shutDown)
  | finishes : l.phase = .asking → Turn l .finish (l.stop .unregistered)
  | granted {d : Delivery} : l.phase = .admitting d →
    Turn l .grant { l with phase := .admitted d }
  | spawns {d : Delivery} : l.phase = .admitted d →
    Turn l .spawn { l with phase := .looking, spawned := l.spawned ++ [d] }
  | closes {d : Delivery} : l.phase = .admitting d → Turn l .close (l.stop .shutDown)

/-- A look at the token leads a listener on, or to its end. -/
theorem Listener.turn_of_looked {l l' : Listener} (step : l.looked = some l') :
    l.Turn .look l' := by
  unfold looked at step
  cases phase : l.phase with
  | looking =>
      simp only [phase] at step
      split at step
      next seen =>
        cases step
        exact .stops (.inl phase) seen
      next unseen =>
        cases step
        exact .asks phase (by simpa using unseen)
  | asking =>
      simp only [phase] at step
      split at step
      next seen =>
        cases step
        exact .stops (.inr phase) seen
      next => cases step
  | holding d =>
      simp only [phase] at step
      cases step
      split
      next seen => exact .leaves (.inl phase) seen
      next unseen => exact .seeks phase (by simpa using unseen)
  | admitting d =>
      simp only [phase] at step
      split at step
      next seen =>
        cases step
        exact .leaves (.inr phase) seen
      next => cases step
  | admitted d =>
      simp only [phase] at step
      cases step
  | ended state =>
      simp only [phase] at step
      cases step

/-- Every move of a listener is its turn, one case for each kind of move. -/
theorem Listener.turn_of_step {l l' : Listener} {m : ListenerMove} (step : l.step? m = some l') :
    l.Turn m l' := by
  cases m with
  | cancel =>
      cases step
      exact .cancels
  | look => exact turn_of_looked step
  | _ =>
      -- every other move is for one phase
      simp only [step?] at step
      split at step
      next phase =>
        cases step
        constructor
        exact phase
      next => cases step

-- ========================================================== one reader

/-- What only concerns a listener and its stream. -/
inductive ListenerMove.IsAtStream : ListenerMove → Prop where
  | pend : IsAtStream .pend
  | take (d : Delivery) : IsAtStream (.take d)
  | fail : IsAtStream .fail
  | finish : IsAtStream .finish

/-- A reader goes on, where the token is cancelled or not; there are `p`
permits in the pool before and `p'` after it. -/
inductive Reader.Turn (cancelled : Bool) (r : Reader) : (p : Nat) → Reader → (p' : Nat) → Prop where
  | looks {p : Nat} {l : Listener} : r.listener.Turn .look l →
    Turn cancelled r p { r with listener := l, assigned := false } (p + r.assigned.toNat)
  | asks {p : Nat} {m : ListenerMove} {l : Listener} : m.IsAtStream → r.listener.Turn m l →
    Turn cancelled r p { r with listener := l } p
  | assigned {p : Nat} {d : Delivery} : r.listener.phase = .admitting d → r.assigned = false →
    Turn cancelled r (p + 1) { r with assigned := true } p
  | granted {p : Nat} {l : Listener} : r.assigned = true → r.listener.Turn .grant l →
    Turn cancelled r p { r with listener := l, assigned := false } p
  | spawns {p : Nat} {d : Delivery} {l : Listener} : r.listener.phase = .admitted d →
    r.listener.Turn .spawn l → Turn cancelled r p ({ r with listener := l }.addTask d) p
  | begins {p k : Nat} {d : Delivery} {c : Consumption} {calls : Nat} :
    r.tasks[k]? = some ⟨d, .waiting⟩ →
    r.subscription.consume r.queue r.calls d cancelled = (c, calls) →
    Turn cancelled r p { r.setPhase k (.handling c) with calls := calls } p
  | ends {p k : Nat} {d : Delivery} {c : Consumption} : r.tasks[k]? = some ⟨d, .handling c⟩ →
    Turn cancelled r p (r.setPhase k (.settling c)) p
  | settles {p k : Nat} {d : Delivery} {c : Consumption} : r.tasks[k]? = some ⟨d, .settling c⟩ →
    Turn cancelled r p ((r.setPhase k (.leaving c)).issue k c.settled.settlement) p
  | leaves {p k : Nat} {d : Delivery} {c : Consumption} : r.tasks[k]? = some ⟨d, .leaving c⟩ →
    Turn cancelled r p (r.setPhase k (.ended c)) (p + 1)

/-- A reader stays at its queue, with its subscription and its limit. -/
theorem Reader.Turn.fixed {cancelled : Bool} {r r' : Reader} {p p' : Nat}
    (turn : Reader.Turn cancelled r p r' p') : r'.subscription = r.subscription
      ∧ r'.queue = r.queue ∧ r'.prefetch = r.prefetch := by
  cases turn <;> exact ⟨rfl, rfl, rfl⟩

namespace Intake

variable {t t' : Intake} {n : Nat} {m : IntakeMove}

/-- Reader `n` goes on, and nothing else happens. -/
structure Passed (t t' : Intake) (n : Nat) (r r' : Reader) : Prop where
  before : t.readers[n]? = some r
  turn : Reader.Turn t.cancelled r t.permits r' t'.permits
  readers : t'.readers = t.readers.set n r'
  cancelled : t'.cancelled = t.cancelled
  prefetch : t'.prefetch = t.prefetch

/-- All readers stay with their subscriptions. -/
theorem Passed.subscriptions {r r' : Reader} (passed : Passed t t' n r r') :
    t'.readers.map (·.subscription) = t.readers.map (·.subscription) := by
  obtain ⟨inside, rfl⟩ := List.getElem?_eq_some_iff.1 passed.before
  rw [passed.readers, List.map_set, passed.turn.fixed.1]
  refine List.ext_getElem? fun j => ?_
  rw [List.getElem?_set]
  split
  next same =>
    subst same
    simp [inside]
  next => rfl

/-- A move of a listener is one of its reader, with the permits that it takes or
sets free. -/
theorem passed_listen {m : ListenerMove} (step : t.listen n m = some t') :
    ∃ r r', Passed t t' n r r' := by
  unfold listen at step
  obtain ⟨r, before, step⟩ := Option.bind_eq_some_iff.1 step
  obtain ⟨l, moved, step⟩ := Option.bind_eq_some_iff.1 step
  have turn := Listener.turn_of_step moved
  cases m with
  | cancel => cases step
  | close => cases step
  | look =>
      cases step
      exact ⟨_, _, before, .looks turn, rfl, rfl, rfl⟩
  | grant =>
      simp only at step
      split at step
      next assigned =>
        cases step
        exact ⟨_, _, before, .granted assigned turn, rfl, rfl, rfl⟩
      next => cases step
  | spawn =>
      cases turn with
      | spawns phase =>
          simp only [phase] at step
          cases step
          exact ⟨_, _, before, .spawns phase (.spawns phase), rfl, rfl, rfl⟩
  | pend =>
      cases step
      exact ⟨_, _, before, .asks .pend turn, rfl, rfl, rfl⟩
  | take d =>
      cases step
      exact ⟨_, _, before, .asks (.take d) turn, rfl, rfl, rfl⟩
  | fail =>
      cases step
      exact ⟨_, _, before, .asks .fail turn, rfl, rfl, rfl⟩
  | finish =>
      cases step
      exact ⟨_, _, before, .asks .finish turn, rfl, rfl, rfl⟩

/-- A permit that is free is given to a listener that waits for one. -/
theorem passed_assign (step : t.assign n = some t') : ∃ r r', Passed t t' n r r' := by
  unfold assign at step
  obtain ⟨r, before, step⟩ := Option.bind_eq_some_iff.1 step
  cases phase : r.listener.phase with
  | admitting d =>
      simp only [phase] at step
      split at step
      next free =>
        cases step
        rw [Bool.and_eq_true, decide_eq_true_iff] at free
        obtain ⟨p, some⟩ := Nat.exists_eq_succ_of_ne_zero (Nat.ne_of_gt free.1)
        refine ⟨r, { r with assigned := true }, before, ?_, rfl, rfl, rfl⟩
        show Reader.Turn t.cancelled r t.permits _ (t.permits - 1)
        rw [some]
        exact .assigned phase (by simpa using free.2)
      next => cases step
  | _ =>
      simp only [phase] at step
      cases step

/-- The task of a delivery goes on in its reader, and sets its permit free at its
end. -/
theorem passed_work {k : Nat} (step : t.work n k = some t') : ∃ r r', Passed t t' n r r' := by
  unfold work at step
  obtain ⟨r, before, step⟩ := Option.bind_eq_some_iff.1 step
  obtain ⟨⟨d, φ⟩, task, step⟩ := Option.bind_eq_some_iff.1 step
  cases φ with
  | waiting =>
      cases step
      exact ⟨_, _, before, .begins task rfl, rfl, rfl, rfl⟩
  | handling c =>
      cases step
      exact ⟨_, _, before, .ends task, rfl, rfl, rfl⟩
  | settling c =>
      cases step
      exact ⟨_, _, before, .settles task, rfl, rfl, rfl⟩
  | leaving c =>
      cases step
      exact ⟨_, _, before, .leaves task, rfl, rfl, rfl⟩
  | ended c => cases step

/-- A move is the turn of one reader, or a limit, a new listener, or the
cancellation of all. -/
theorem step_cases (step : t.step? m = some t') :
    (∃ n r r', Passed t t' n r r') ∨ (∃ p, t' = { t with prefetch := some p })
      ∨ (∃ s queue, t' = t.register s queue) ∨ t' = t.cancel := by
  cases m with
  | limit p =>
      cases step
      exact .inr (.inl ⟨p, rfl⟩)
  | register s queue =>
      cases step
      exact .inr (.inr (.inl ⟨s, queue, rfl⟩))
  | listen n m => exact .inl ⟨n, passed_listen step⟩
  | assign n => exact .inl ⟨n, passed_assign step⟩
  | work n k => exact .inl ⟨n, passed_work step⟩
  | cancel =>
      cases step
      exact .inr (.inr (.inr rfl))

/-- What every move keeps holds of all listeners that can come about. -/
theorem Reachable.keeps {ceiling : Nat} {I : Intake → Prop} (reachable : Reachable ceiling t)
    (start : I { permits := ceiling })
    (step : ∀ (q q' : Intake) (m : IntakeMove), I q → q.step? m = some q' → I q') : I t := by
  induction reachable with
  | start => exact start
  | step m _ last kept => exact step _ _ m kept last

end Intake

end Courier
