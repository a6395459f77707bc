/-
Where the permits of an instance are. Each is in the pool, with a listener
that has not handed its delivery on yet, or with a task that has not ended
(`Intake.permits_add_load`). So at most as many tasks run at once as there
are permits, whatever the deliveries come to.

# The account

What a reader has of the permits is its load. Each turn of a reader moves a
permit between the pool and the reader, or within the reader, or none at
all: pool and load add up to the same before and after (`Turn.balanced`).
A permit that is assigned is not taken yet, and one that was taken is not
assigned any more (`Sound.waits`), so no permit counts twice.

# The prefetch

A handler at work has a delivery that the broker does not know to be
settled. So a broker that keeps these below a limit keeps the handlers of
the reader below it as well (`handling_le_unsettled`).
-/
import Mathlib.Algebra.BigOperators.Group.List.Basic
import Courier.Proofs.Intake.Sound

namespace Courier

/-- How many moves of its own a task has before its end. -/
def DeliveryPhase.movesLeft : DeliveryPhase → Nat
  | waiting => 4
  | handling _ => 3
  | settling _ => 2
  | leaving _ => 1
  | ended _ => 0

namespace Reader

variable {r r' : Reader} {cancelled : Bool} {p p' k : Nat} {d : Delivery} {φ : DeliveryPhase}

-- ============================================================== the load

/-- How many permits a reader has. -/
def load (r : Reader) : Nat := r.hasPermit.toNat + r.running

/-- Tasks are counted for what they have come to. -/
theorem countP_setPhase (q : DeliveryTask → Bool) (task : r.tasks[k]? = some ⟨d, φ⟩)
    (φ' : DeliveryPhase) :
    (r.setPhase k φ').tasks.countP q + (q ⟨d, φ⟩).toNat
      = r.tasks.countP q + (q ⟨d, φ'⟩).toNat := by
  unfold setPhase
  rw [modify_eq_set _ task]
  exact countP_set_add q task _

theorem load_setPhase (task : r.tasks[k]? = some ⟨d, φ⟩) (φ' : DeliveryPhase) :
    (r.setPhase k φ').load + (DeliveryTask.isRunning ⟨d, φ⟩).toNat
      = r.load + (DeliveryTask.isRunning ⟨d, φ'⟩).toNat := by
  have counted := countP_setPhase (·.isRunning) task φ'
  show r.hasPermit.toNat + (r.setPhase k φ').tasks.countP (·.isRunning) + _
    = r.hasPermit.toNat + r.tasks.countP (·.isRunning) + _
  omega

/-- A task that goes on and does not end keeps its permit. -/
theorem load_of_goes_on {φ' : DeliveryPhase} (task : r.tasks[k]? = some ⟨d, φ⟩)
    (before : DeliveryTask.isRunning ⟨d, φ⟩ = true)
    (after : DeliveryTask.isRunning ⟨d, φ'⟩ = true) : (r.setPhase k φ').load = r.load := by
  have counted := load_setPhase task φ'
  rw [before, after] at counted
  exact Nat.add_right_cancel counted

/-- A listener that has no permit yet and none afterwards, but the one
assigned to it. -/
theorem load_of_unadmitted {l : Listener} (before : r.listener.isAdmitted = false)
    (after : l.isAdmitted = false) (assigned : Bool) :
    { r with listener := l, assigned := assigned }.load + r.assigned.toNat
      = r.load + assigned.toNat := by
  show (assigned || l.isAdmitted).toNat + r.running + _
    = (r.assigned || r.listener.isAdmitted).toNat + r.running + _
  rw [before, after, Bool.or_false, Bool.or_false]
  omega

end Reader

-- ============================================================== the turns

section turns

variable {l l' : Listener} {m : ListenerMove} {r r' : Reader} {cancelled : Bool} {p p' : Nat}

/-- Looking at the token neither takes a permit nor gives one up. -/
theorem Listener.Turn.unadmitted_of_look (turn : l.Turn .look l') :
    l.isAdmitted = false ∧ l'.isAdmitted = false := by
  unfold isAdmitted
  cases turn with
  | asks phase _ => simp [phase]
  | stops phase _ => rcases phase with phase | phase <;> simp [phase, stop]
  | leaves phase _ => rcases phase with phase | phase <;> simp [phase]
  | seeks phase _ => simp [phase]

/-- Nor does anything at the stream. -/
theorem Listener.Turn.unadmitted_of_isAtStream (turn : l.Turn m l') (atStream : m.IsAtStream) :
    l.isAdmitted = false ∧ l'.isAdmitted = false := by
  have phase := turn.asking_of_isAtStream atStream
  refine ⟨by simp [isAdmitted, phase], ?_⟩
  unfold isAdmitted
  cases atStream with
  | pend => cases turn with | pends _ => rfl
  | take d => cases turn with | takes _ => rfl
  | fail => cases turn with | fails _ => rfl
  | finish => cases turn with | finishes _ => rfl

/-- What a turn adds to the pool it takes off the load, and the other way
round. -/
theorem Reader.Turn.balanced (turn : Reader.Turn cancelled r p r' p') (sound : r.Sound) :
    p' + r'.load = p + r.load := by
  cases turn with
  | looks moved =>
      obtain ⟨before, after⟩ := moved.unadmitted_of_look
      have load := load_of_unadmitted before after false
      simp only [Bool.toNat_false] at load
      omega
  | asks atStream moved =>
      obtain ⟨before, after⟩ := moved.unadmitted_of_isAtStream atStream
      have load := load_of_unadmitted before after r.assigned
      have same : { r with listener := _ }.load = r.load := Nat.add_right_cancel load
      omega
  | assigned phase unassigned =>
      have before : r.listener.isAdmitted = false := by simp [Listener.isAdmitted, phase]
      have load := load_of_unadmitted before before true
      rw [unassigned, Bool.toNat_true, Bool.toNat_false] at load
      omega
  | granted assigned moved =>
      -- the permit was assigned to the listener, and now it is taken
      cases moved with
      | granted phase =>
          have load : r.load = 1 + r.running := by simp [load, hasPermit, assigned]
          rw [load]
          rfl
  | @spawns _ d _ phase moved =>
      -- the permit goes from the listener to the new task
      have unassigned := sound.unassigned (by simp [phase])
      have load : r.load = 1 + r.running := by
        simp [load, hasPermit, Listener.isAdmitted, phase]
      have added : (r.addTask d).running = r.running + 1 := by
        unfold running addTask
        rw [List.countP_append]
        rfl
      cases moved with
      | spawns _ =>
          show p + ((r.assigned || false).toNat + (r.addTask d).running) = p + r.load
          rw [added, load, unassigned]
          show p + (0 + (r.running + 1)) = _
          omega
  | begins task _ => exact congrArg (p + ·) (load_of_goes_on task rfl rfl)
  | ends task => exact congrArg (p + ·) (load_of_goes_on task rfl rfl)
  | settles task => exact congrArg (p + ·) (load_of_goes_on task rfl rfl)
  | @leaves _ k d c task =>
      have load := load_setPhase task (.ended c)
      simp only [DeliveryTask.isRunning, DeliveryTask.isEnded, Bool.not_false, Bool.not_true,
        Bool.toNat_true, Bool.toNat_false] at load
      omega

end turns

namespace Intake

variable {t t' : Intake} {ceiling n : Nat}

-- ============================================================ the account

/-- How many deliveries are processed now. -/
def running (t : Intake) : Nat := (t.readers.map (·.running)).sum

/-- How many permits all readers have. -/
def load (t : Intake) : Nat := (t.readers.map (·.load)).sum

theorem load_eq (t : Intake) : t.load = t.held + t.running := by
  unfold load held running
  rw [countP_eq_sum, ← List.sum_map_add]
  rfl

theorem Passed.balanced {r r' : Reader} (passed : Passed t t' n r r') (sound : t.AllSound) :
    t'.permits + t'.load = t.permits + t.load := by
  have total := sum_map_set_add (·.load) passed.before r'
  have turn := passed.turn.balanced (sound r (List.mem_of_getElem? passed.before))
  rw [load, passed.readers, load]
  omega

/-- Every permit is in the pool or with a reader. -/
theorem permits_add_load (reachable : Reachable ceiling t) : t.permits + t.load = ceiling := by
  induction reachable with
  | start => rfl
  | @step t t' m reachable step balanced =>
      rcases step_cases step with ⟨n, r, r', passed⟩ | ⟨p, rfl⟩ | ⟨s, queue, rfl⟩ | rfl
      · exact (passed.balanced (allSound_of_reachable reachable)).trans balanced
      · exact balanced
      · show t.permits + ((t.readers ++ [_]).map Reader.load).sum = ceiling
        rw [List.map_append, List.sum_append]
        exact balanced
      · show t.permits + ((t.readers.map _).map Reader.load).sum = ceiling
        rw [List.map_map]
        exact balanced

-- ======================================================= permits come back

/-- The next move of a task: it comes one move closer to its end, and gives
its permit back there. -/
theorem work_next {r : Reader} {d : Delivery} {φ : DeliveryPhase} {k left : Nat}
    (reader : t.readers[n]? = some r) (task : r.tasks[k]? = some ⟨d, φ⟩)
    (ahead : φ.movesLeft = left + 1) :
    ∃ t' r' φ', t.step? (.work n k) = some t' ∧ t'.readers[n]? = some r'
      ∧ r'.tasks[k]? = some ⟨d, φ'⟩ ∧ φ'.movesLeft = left
      ∧ t'.permits = t.permits + (left == 0).toNat := by
  have moved : ∀ φ' : DeliveryPhase, (r.setPhase k φ').tasks[k]? = some ⟨d, φ'⟩ := by
    intro φ'
    rw [r.task_setPhase, task, Option.map_some, if_pos rfl]
  have set : ∀ r' : Reader, (t.readers.set n r')[n]? = some r' :=
    fun r' => getElem?_set_self_of_some reader
  simp only [step?, work, reader, task, Option.bind_eq_bind, Option.bind_some]
  cases φ with
  | waiting =>
      cases ahead
      exact ⟨_, _, _, rfl, set _, moved _, rfl, rfl⟩
  | handling c =>
      cases ahead
      exact ⟨_, _, _, rfl, set _, moved _, rfl, rfl⟩
  | settling c =>
      cases ahead
      exact ⟨_, _, _, rfl, set _, moved _, rfl, rfl⟩
  | leaving c =>
      cases ahead
      exact ⟨_, _, _, rfl, set _, moved _, rfl, rfl⟩
  | ended c => cases ahead

/-- Whatever a delivery comes to, its task ends by its own moves, and its
permit is in the pool then. -/
theorem permit_back {r : Reader} {x : DeliveryTask} {k : Nat} (reader : t.readers[n]? = some r)
    (task : r.tasks[k]? = some x) (running : x.isRunning = true) :
    ∃ t', (List.replicate x.phase.movesLeft (.work n k)).foldlM step? t = some t'
      ∧ t'.permits = t.permits + 1 := by
  obtain ⟨d, φ⟩ := x
  obtain ⟨left, ahead⟩ : ∃ left, φ.movesLeft = left + 1 := by
    cases φ with
    | ended c => cases running
    | _ => exact ⟨_, rfl⟩
  clear running
  show ∃ t', (List.replicate φ.movesLeft _).foldlM step? t = some t' ∧ _
  rw [ahead]
  induction left generalizing t r φ with
  | zero =>
      obtain ⟨t', -, -, step, -, -, -, permits⟩ := work_next reader task ahead
      refine ⟨t', ?_, permits⟩
      rw [List.replicate_succ, List.foldlM_cons, step]
      rfl
  | succ left ih =>
      obtain ⟨t', r', φ', step, reader, task, ahead, permits⟩ := work_next reader task ahead
      obtain ⟨last, run, back⟩ := ih reader φ' task ahead
      refine ⟨last, ?_, back.trans (congrArg (· + 1) permits)⟩
      rw [List.replicate_succ, List.foldlM_cons, step]
      exact run

end Intake

-- =========================================================== the prefetch

/-- A task at its handler has not settled its delivery. -/
theorem Reader.handling_add_settled (r : Reader) :
    r.handling + r.tasks.countP (·.isSettled) ≤ r.tasks.length := by
  have disjoint : r.handling ≤ r.tasks.countP fun x => !x.isSettled := by
    refine List.countP_mono_left fun x _ handling => ?_
    obtain ⟨d, φ⟩ := x
    cases φ with
    | handling c => rfl
    | _ => cases handling
  have all := List.length_eq_countP_add_countP (·.isSettled) (l := r.tasks)
  simp only [Bool.not_eq_true, Bool.decide_eq_false] at all
  omega

/-- The handlers at work have deliveries that are not settled. -/
theorem Reader.Sound.handling_le_unsettled {r : Reader} (sound : r.Sound) :
    r.handling ≤ r.unsettled := by
  have tasks : r.tasks.length = r.listener.spawned.length := by
    rw [← sound.tasks, List.length_map]
  have given := sound.given.spawned.length_le
  have counted := r.handling_add_settled
  unfold unsettled
  omega

end Courier
