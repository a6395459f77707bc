/-
A listener on the clock comes to its end, if there is a permit for it: the
tasks that can run and the timers come to nothing, the listener has ended,
and all permits are back (`complete_ends`). So the bounds on the moves of
the listener and on the tasks are never what ends a run, and what the
listener comes back with is what its stream calls for (`complete_returns`).

# The measures

`workLeft` counts the tasks that a run still comes to. A consumption comes to
itself, the timer it sets, its conclusion and the listener it wakes; what the
stream still has to give comes to the tasks it starts. Every task that runs,
and every move of the clock, makes it less. `movesAhead` counts the moves that
the listener has before it waits or ends, six for each item of the stream.

# Nobody is forgotten

A listener that waits and has not ended is called again (`Attended`): it is
among the tasks that can run, or on the clock, or it waits for a permit. In
the last case there is none left, and as every permit is either free or with
a task (`Sound.lent`), there is a task to give one back.
-/
import Mathlib.Algebra.BigOperators.Group.List.Basic
import Courier.Proofs.Listener.Timeline

namespace Courier

-- ================================================ statement vocabulary

/-- Whether a task gives a permit back. -/
def TimelineTask.hasPermit : TimelineTask → Bool
  | consume _ | conclude _ _ => true
  | listen | cancel => false

/-- The permits given to a listener that did not see them yet. -/
def PermitWait.held : PermitWait → Nat
  | granted => 1
  | notWaiting | waiting => 0

/-- The tasks that a task comes to, with the moves of the clock for them. -/
def TimelineTask.work : TimelineTask → Nat
  | listen => 1
  | cancel => 2
  | conclude _ _ => 2
  | consume _ => 4

/-- Every task is some work. -/
theorem TimelineTask.work_pos (task : TimelineTask) : 0 < task.work := by
  cases task <;> simp [TimelineTask.work]

/-- The tasks that an item of the stream comes to. -/
def StreamItem.work : StreamItem → Nat
  | delivery _ _ => 5
  | pause _ => 2
  | cancel => 1
  | failure | closeDispatch => 0

/-- The moves that a listener has before it asks the stream again. -/
def ListenerPhase.rank : ListenerPhase → Nat
  | holding _ => 5
  | admitting _ => 4
  | admitted _ => 3
  | looking => 2
  | asking => 1
  | ended _ => 0

namespace Timeline

variable {n : Nat} {t t' : Timeline} {task : TimelineTask}

/-- The permits that are with a task, or with the listener. -/
def lent (t : Timeline) : Nat :=
  t.ready.countP (·.hasPermit) + t.timers.countP (·.2.hasPermit)
    + t.wait.held + t.listener.isAdmitted.toNat

/-- The tasks that a timeline still comes to, with the moves of the clock. -/
def workLeft (t : Timeline) : Nat :=
  (t.ready.map (·.work)).sum + (t.timers.map (·.2.work + 1)).sum
    + (t.stream.map (·.work)).sum + 4 * t.listener.phase.atHand.length

/-- The moves that the listener has before it waits or ends. -/
def movesAhead (t : Timeline) : Nat :=
  6 * t.stream.length + t.listener.phase.rank + t.pausedUntil.isSome.toNat

/-- What holds between two tasks, and between two moves of the listener. -/
structure Sound (n : Nat) (t : Timeline) : Prop where
  lent : t.permits + t.lent = n
  waits : t.wait ≠ .notWaiting → ∃ d, t.listener.phase = .admitting d
  dry : t.wait = .waiting → t.permits = 0
  resumes : ∀ due, t.pausedUntil = some due → due ≤ t.now ∨ (due, .listen) ∈ t.timers

/-- A listener that has not ended is called again. -/
def Attended (t : Timeline) : Prop :=
  (∃ state, t.listener.phase = .ended state) ∨ .listen ∈ t.ready
    ∨ (∃ due, (due, .listen) ∈ t.timers) ∨ t.wait = .waiting

/-- What a part of a run brings: permits that are given back, more work, and
nobody is forgotten. -/
structure Brings (permits work : Nat) (t t' : Timeline) : Prop where
  sound : ∀ n, Sound n t → Sound (n + permits) t'
  work : t'.workLeft ≤ t.workLeft + work
  attended : Attended t → Attended t'

/-- What the next thing that the listener does comes to, with the work and the
moves that are allowed for it. `r.2` says whether the listener goes on at
once. -/
structure Turned (n work moves : Nat) (t : Timeline) (r : Timeline × Bool) : Prop where
  sound : Sound n r.1
  work : r.1.workLeft ≤ t.workLeft + work
  nearer : r.2 = true → r.1.movesAhead < t.movesAhead + moves
  attended : r.2 = false → Attended r.1

-- ============================================================ new tasks

/-- What two parts of a run bring adds up. -/
theorem Brings.trans {p p' w w' : Nat} {t'' : Timeline} (first : Brings p w t t')
    (second : Brings p' w' t' t'') : Brings (p + p') (w + w') t t'' := by
  refine ⟨fun n sound => ?_, ?_, fun attended => second.attended (first.attended attended)⟩
  · rw [← Nat.add_assoc]
    exact second.sound _ (first.sound n sound)
  · have before := first.work
    have after := second.work
    omega

/-- A timer comes in its place among the others, and all of them stay. -/
theorem insertTimer_perm (due : Nat) (task : TimelineTask) (timers : List (Nat × TimelineTask)) :
    (insertTimer due task timers).Perm ((due, task) :: timers) := by
  induction timers with
  | nil => exact .refl _
  | cons first rest ih =>
      unfold insertTimer
      split
      · exact .refl _
      · exact (ih.cons first).trans (.swap ..)

theorem mem_timers_addTimer {due : Nat} {x : Nat × TimelineTask} :
    x ∈ (t.addTimer due task).timers ↔ x = (due, task) ∨ x ∈ t.timers :=
  (insertTimer_perm due task t.timers).mem_iff.trans List.mem_cons

/-- A task that is added brings its work, and its permit if it has one. -/
theorem brings_enqueue (t : Timeline) (task : TimelineTask) :
    Brings task.hasPermit.toNat task.work t (t.enqueue task) := by
  refine ⟨fun n sound => ⟨?_, sound.waits, sound.dry, sound.resumes⟩, ?_, ?_⟩
  · have lent : (t.enqueue task).lent = t.lent + task.hasPermit.toNat := by
      simp only [Timeline.lent, enqueue, List.countP_append, List.countP_singleton]
      cases task.hasPermit <;> simp +arith
    rw [lent, ← sound.lent]
    exact (Nat.add_assoc ..).symm
  · simp only [workLeft, enqueue, List.map_append, List.sum_append, List.map_singleton,
      List.sum_singleton]
    omega
  · exact fun attended => attended.imp_right (Or.imp_left (List.mem_append_left _))

/-- A timer brings one move of the clock besides. -/
theorem brings_addTimer (t : Timeline) (due : Nat) (task : TimelineTask) :
    Brings task.hasPermit.toNat (task.work + 1) t (t.addTimer due task) := by
  have perm := insertTimer_perm due task t.timers
  refine ⟨fun n sound => ⟨?_, sound.waits, sound.dry, ?_⟩, ?_, ?_⟩
  · have timed := perm.countP_eq (·.2.hasPermit)
    rw [List.countP_cons] at timed
    have lent : (t.addTimer due task).lent = t.lent + task.hasPermit.toNat := by
      simp only [Timeline.lent, addTimer, timed]
      cases task.hasPermit <;> simp +arith
    rw [lent, ← sound.lent]
    exact (Nat.add_assoc ..).symm
  · intro resume paused
    exact (sound.resumes resume paused).imp_right fun timed => mem_timers_addTimer.2 (.inr timed)
  · have timed := (perm.map (·.2.work + 1)).sum_eq
    simp only [List.map_cons, List.sum_cons] at timed
    simp only [workLeft, addTimer, timed]
    omega
  · rintro (ended | ready | ⟨resume, timed⟩ | waits)
    · exact .inl ended
    · exact .inr (.inl ready)
    · exact .inr (.inr (.inl ⟨resume, mem_timers_addTimer.2 (.inr timed)⟩))
    · exact .inr (.inr (.inr waits))

/-- A listener that is to run again can run. -/
theorem wake_cases (t : Timeline) :
    t.wake = t ∧ .listen ∈ t.ready ∨ t.wake = t.enqueue .listen := by
  unfold wake
  split
  next called =>
    obtain ⟨task, inside, listens⟩ := List.any_eq_true.1 called
    cases task with
    | listen => exact .inl ⟨rfl, inside⟩
    | _ => cases listens
  next => exact .inr rfl

/-- Whoever was woken is not forgotten. -/
theorem attended_wake (t : Timeline) : Attended t.wake := by
  rcases t.wake_cases with ⟨same, inside⟩ | called
  · rw [same]
    exact .inr (.inl inside)
  · rw [called]
    exact .inr (.inl (List.mem_append_right _ (List.mem_singleton_self _)))

theorem brings_wake (t : Timeline) : Brings 0 1 t t.wake := by
  rcases t.wake_cases with ⟨same, -⟩ | called
  · rw [same]
    exact ⟨fun _ => id, Nat.le_add_right .., id⟩
  · rw [called]
    exact t.brings_enqueue .listen

/-- Nothing hangs on the records. -/
theorem brings_recorded (same : t'.quiet = t.quiet) : Brings 0 0 t t' := by
  refine ⟨fun n sound => ?_, ?_, fun attended => ?_⟩
  · have kept : Sound n t.quiet := ⟨sound.lent, sound.waits, sound.dry, sound.resumes⟩
    rw [← same] at kept
    exact ⟨kept.lent, kept.waits, kept.dry, kept.resumes⟩
  · have kept : t'.quiet.workLeft = t.quiet.workLeft := by rw [same]
    exact Nat.le_of_eq kept
  · have kept : Attended t.quiet := attended
    rwa [← same] at kept

theorem brings_log (t : Timeline) (es : List LogEvent) : Brings 0 0 t (t.log es) :=
  brings_recorded rfl

-- =========================================================== consuming

/-- A permit that is given back goes to the listener that waits for one, and wakes
it. -/
theorem brings_release (t : Timeline) : Brings 1 1 t t.release := by
  unfold Timeline.release
  split
  next waiting =>
    have woken := brings_wake { t with wait := .granted }
    refine ⟨fun n sound => woken.sound (n + 1) ?_, woken.work, fun _ => attended_wake _⟩
    have lent := sound.lent
    refine ⟨?_, fun _ => sound.waits (by simp [waiting]), nofun, sound.resumes⟩
    simp only [Timeline.lent, waiting, PermitWait.held] at lent ⊢
    omega
  next other =>
    refine ⟨fun n sound => ?_, Nat.le_add_right .., id⟩
    have lent := sound.lent
    refine ⟨?_, sound.waits, fun waiting => absurd waiting other, sound.resumes⟩
    simp only [Timeline.lent] at lent ⊢
    omega

/-- The end of a consumption gives one permit back. -/
theorem brings_conclude (t : Timeline) (index : Nat) (c : Consumption) :
    Brings 1 1 t (t.conclude index c) := by
  obtain ⟨t', same, concluded⟩ := t.conclude_cases index c
  rw [concluded]
  exact (brings_recorded same).trans t'.brings_release

/-- A consumption gives its permit back at once, or leaves it with the timer that
ends it. -/
theorem brings_consume (t : Timeline) (task : ConsumeTask) :
    Brings 1 3 t (t.consume task) := by
  obtain ⟨t', c, same, consumed | ⟨due, consumed⟩⟩ := t.consume_cases task
  · have brings := (brings_recorded same).trans (t'.brings_conclude task.index c)
    have work := brings.work
    rw [consumed]
    exact ⟨brings.sound, by omega, brings.attended⟩
  · rw [consumed]
    exact (brings_recorded same).trans (t'.brings_addTimer due (.conclude task.index c))

/-- Cancelling the token wakes the listener, and gives nothing back. -/
theorem brings_cancelToken (t : Timeline) : Brings 0 1 t t.cancelToken := by
  have woken := (t.move .cancel).brings_wake
  refine ⟨fun n sound => woken.sound n ?_, woken.work, fun _ => attended_wake _⟩
  exact ⟨sound.lent, sound.waits, sound.dry, sound.resumes⟩

-- =========================================================== listening

/-- A listener that asks for no permit does not wait for one. -/
theorem Sound.idle (sound : Sound n t) (other : ∀ d, t.listener.phase ≠ .admitting d) :
    t.wait = .notWaiting := by
  cases wait : t.wait with
  | notWaiting => rfl
  | _ =>
      obtain ⟨d, phase⟩ := sound.waits (by simp [wait])
      exact absurd phase (other d)

/-- Where no permit is waited for, only the permits and the pause have to be right. -/
theorem Sound.of_idle (idle : t.wait = .notWaiting) (lent : t.permits + t.lent = n)
    (resumes : ∀ due, t.pausedUntil = some due → due ≤ t.now ∨ (due, .listen) ∈ t.timers) :
    Sound n t := by
  refine ⟨lent, fun waits => absurd idle waits, fun waiting => ?_, resumes⟩
  rw [idle] at waiting
  cases waiting

/-- The listener goes on at once. -/
theorem Turned.goesOn {w k : Nat} (sound : Sound n t') (work : t'.workLeft ≤ t.workLeft + w)
    (nearer : t'.movesAhead < t.movesAhead + k) : Turned n w k t (t', true) :=
  ⟨sound, work, fun _ => nearer, fun stays => Bool.noConfusion stays⟩

/-- The listener stays where it is until it is called. -/
theorem Turned.stays {w k : Nat} (sound : Sound n t') (work : t'.workLeft ≤ t.workLeft + w)
    (attended : Attended t') : Turned n w k t (t', false) :=
  ⟨sound, work, fun goesOn => Bool.noConfusion goesOn, fun _ => attended⟩

/-- A listener that waits for no permit goes on to another phase. -/
theorem Sound.relisten (sound : Sound n t) (idle : t.wait = .notWaiting) {l : Listener}
    (same : l.isAdmitted = t.listener.isAdmitted) : Sound n { t with listener := l } := by
  have lent := sound.lent
  refine .of_idle idle ?_ sound.resumes
  simp only [Timeline.lent, same] at lent ⊢
  exact lent

/-- A listener that does not wait for a permit makes a move that leads it on. -/
theorem Sound.turned_move (sound : Sound n t) (idle : t.wait = .notWaiting) {m : ListenerMove}
    {l : Listener} (step : t.listener.step? m = some l)
    (same : l.isAdmitted = t.listener.isAdmitted)
    (fewer : l.phase.atHand.length ≤ t.listener.phase.atHand.length)
    (nearer : l.phase.rank < t.listener.phase.rank) : Turned n 0 0 t (t.move m, true) := by
  rw [move_of_step step]
  refine .goesOn (sound.relisten idle same) ?_ ?_
  · simp only [workLeft]
    omega
  · simp only [movesAhead]
    omega

/-- A look that leads anywhere leads on. -/
theorem nearer_of_looked {l l' : Listener} (looked : l.looked = some l') :
    l'.isAdmitted = l.isAdmitted ∧ l'.phase.atHand.length ≤ l.phase.atHand.length
      ∧ l'.phase.rank < l.phase.rank := by
  cases Listener.turn_of_looked looked with
  | asks phase => simp [Listener.isAdmitted, ListenerPhase.atHand, ListenerPhase.rank, phase]
  | seeks phase => simp [Listener.isAdmitted, ListenerPhase.atHand, ListenerPhase.rank, phase]
  | stops phase =>
      rcases phase with phase | phase <;>
        simp [Listener.stop, Listener.isAdmitted, ListenerPhase.atHand, ListenerPhase.rank, phase]
  | leaves phase =>
      rcases phase with phase | phase <;>
        simp [Listener.isAdmitted, ListenerPhase.atHand, ListenerPhase.rank, phase]

theorem Sound.turned_look (sound : Sound n t) (idle : t.wait = .notWaiting)
    (possible : t.listener.looked.isSome = true) : Turned n 0 0 t (t.move .look, true) := by
  obtain ⟨l, looked⟩ := Option.isSome_iff_exists.1 possible
  obtain ⟨same, fewer, nearer⟩ := nearer_of_looked looked
  have step : t.listener.step? .look = some l := looked
  exact sound.turned_move idle step same fewer nearer

/-- A delivery that is handed on takes its permit along with its task. -/
theorem Sound.turned_spawn (sound : Sound n t) {d : Delivery}
    (phase : t.listener.phase = .admitted d) : Turned n 0 0 t (t.spawn d, true) := by
  have idle : t.wait = .notWaiting := sound.idle (by simp [phase])
  have lent := sound.lent
  have step : t.listener.step? .spawn
      = some { t.listener with phase := .looking, spawned := t.listener.spawned ++ [d] } := by
    simp only [Listener.step?, phase]
  rw [Timeline.spawn, move_of_step step]
  refine .goesOn (.of_idle idle ?_ sound.resumes) ?_ ?_
  · simp [Timeline.lent, enqueue, Listener.isAdmitted, phase, TimelineTask.hasPermit] at lent ⊢
    omega
  · simp [workLeft, enqueue, phase, ListenerPhase.atHand, TimelineTask.work]
    omega
  · simp [movesAhead, enqueue, phase, ListenerPhase.rank]

/-- A delivery is work for the task that it comes to. -/
theorem Sound.turned_take (sound : Sound n t) (asking : t.listener.phase = .asking)
    (d : Delivery) : Turned n 4 5 t (t.move (.take d), true) := by
  have idle : t.wait = .notWaiting := sound.idle (by simp [asking])
  have step : t.listener.step? (.take d)
      = some { t.listener with phase := .holding d, taken := t.listener.taken ++ [d] } := by
    simp only [Listener.step?, asking]
  rw [move_of_step step]
  refine .goesOn (sound.relisten idle ?_) ?_ ?_
  · simp only [Listener.isAdmitted, asking]
  · simp [workLeft, asking, ListenerPhase.atHand]
  · simp +arith [movesAhead, asking, ListenerPhase.rank]

/-- A listener whose stream has nothing for a while is called when that is over. -/
theorem Sound.turned_pause (sound : Sound n t) (asking : t.listener.phase = .asking)
    (due : Nat) :
    Turned n 2 0 t
      ({ t.addTimer due .listen with pausedUntil := some due }.move .pend, false) := by
  have idle : t.wait = .notWaiting := sound.idle (by simp [asking])
  have timed : (due, .listen) ∈ (t.addTimer due .listen).timers :=
    mem_timers_addTimer.2 (.inl rfl)
  have brings := t.brings_addTimer due .listen
  have work := brings.work
  have step : t.listener.step? .pend = some { t.listener with phase := .looking } := by
    simp only [Listener.step?, asking]
  have moved : { t.addTimer due .listen with pausedUntil := some due }.move .pend
      = { t.addTimer due .listen with
          pausedUntil := some due, listener := { t.listener with phase := .looking } } :=
    move_of_step step
  have kept : Sound n
      { t.addTimer due .listen with listener := { t.listener with phase := .looking } } := by
    refine (brings.sound n sound).relisten idle ?_
    show false = t.listener.isAdmitted
    simp only [Listener.isAdmitted, asking]
  rw [moved]
  refine .stays (.of_idle idle kept.lent ?_) ?_ (.inr (.inr (.inl ⟨due, timed⟩)))
  · intro resume paused
    cases paused
    exact .inr timed
  · have phase : (t.addTimer due .listen).listener.phase = .asking := asking
    simp only [workLeft, phase, asking] at work ⊢
    exact work

theorem movesAhead_cancelToken (t : Timeline) : t.cancelToken.movesAhead = t.movesAhead := by
  have paused : t.cancelToken.pausedUntil = t.pausedUntil := by
    rcases (t.move .cancel).wake_cases with ⟨same, -⟩ | called
    · rw [cancelToken, same]
      rfl
    · rw [cancelToken, called]
      rfl
  rw [movesAhead, cancelToken_stream, cancelToken_phase, paused]
  rfl

/-- A delivery is taken, with the token cancelled before that or not. -/
theorem meet_delivery (t : Timeline) (d : Delivery) (cancelFirst : Bool) :
    ∃ t' : Timeline, Brings 0 1 t t' ∧ t'.listener.phase = t.listener.phase
      ∧ t'.movesAhead = t.movesAhead
      ∧ t.meet (.delivery d cancelFirst) = (t'.move (.take d), true) := by
  cases cancelFirst with
  | false =>
      refine ⟨_, ?_, ?_, ?_, rfl⟩
      · exact ⟨Brings.sound (brings_recorded (t := t) rfl), Nat.le_add_right .., id⟩
      · rfl
      · rfl
  | true =>
      refine ⟨_, t.brings_cancelToken.trans (brings_recorded (t := t.cancelToken) ?_), ?_, ?_, rfl⟩
      · rfl
      · exact t.cancelToken_phase
      · exact t.movesAhead_cancelToken

/-- A listener that ends has nothing before it. -/
theorem Sound.turned_stop (sound : Sound n t) (idle : t.wait = .notWaiting) {m : ListenerMove}
    {state : ListenerState} (step : t.listener.step? m = some (t.listener.stop state))
    (other : t.listener.isAdmitted = false) (goesOn : 0 < t.listener.phase.rank) :
    Turned n 0 0 t (t.move m, true) :=
  sound.turned_move idle step other.symm (Nat.zero_le _) goesOn

/-- Whatever the stream has next brings the work that was counted for it. -/
theorem Sound.turned_meet (sound : Sound n t) (asking : t.listener.phase = .asking)
    (item : StreamItem) : Turned n item.work 6 t (t.meet item) := by
  have idle : t.wait = .notWaiting := sound.idle (by simp [asking])
  have other : t.listener.isAdmitted = false := by simp only [Listener.isAdmitted, asking]
  have waits : 0 < t.listener.phase.rank := by simp [ListenerPhase.rank, asking]
  cases item with
  | delivery d cancelFirst =>
      obtain ⟨t', brings, phase, ahead, met⟩ := t.meet_delivery d cancelFirst
      have taken := (brings.sound n sound).turned_take (phase.trans asking) d
      have before := brings.work
      have work : (t'.move (.take d)).workLeft ≤ t'.workLeft + 4 := taken.work
      have nearer : (t'.move (.take d)).movesAhead < t'.movesAhead + 5 := taken.nearer rfl
      rw [met]
      refine .goesOn taken.sound ?_ ?_
      · show (t'.move (.take d)).workLeft ≤ t.workLeft + 5
        omega
      · show (t'.move (.take d)).movesAhead < t.movesAhead + 6
        omega
  | pause millis =>
      cases millis with
      | zero =>
          exact .goesOn sound (Nat.le_add_right ..) (Nat.lt_add_of_pos_right (by decide))
      | succ millis =>
          have paused := sound.turned_pause asking (t.now + (millis + 1))
          exact .stays paused.sound paused.work (paused.attended rfl)
  | failure =>
      have logged : Sound n (t.log [Listener.streamFailureLog t.queue]) :=
        (t.brings_log _).sound n sound
      have step : t.listener.step? .fail = some (t.listener.stop .shutDown) := by
        simp only [Listener.step?, asking]
      have stopped := logged.turned_stop (m := .fail) idle step other waits
      exact .goesOn stopped.sound stopped.work (Nat.lt_add_right 6 (stopped.nearer rfl))
  | cancel =>
      have brings := t.brings_cancelToken
      refine .goesOn (brings.sound n sound) brings.work ?_
      rw [t.movesAhead_cancelToken]
      exact Nat.lt_add_of_pos_right (by decide)
  | closeDispatch =>
      exact .goesOn ⟨sound.lent, sound.waits, sound.dry, sound.resumes⟩ (Nat.le_refl _)
        (Nat.lt_add_of_pos_right (by decide))

/-- Asking the stream leads on by an item of it, or to the end. -/
theorem Sound.turned_ask (sound : Sound n t) (asking : t.listener.phase = .asking) :
    Turned n 0 0 t t.ask := by
  have idle : t.wait = .notWaiting := sound.idle (by simp [asking])
  have other : t.listener.isAdmitted = false := by simp only [Listener.isAdmitted, asking]
  unfold Timeline.ask
  split
  next due paused =>
    split
    next early =>
      have step : t.listener.step? .pend = some { t.listener with phase := .looking } := by
        simp only [Listener.step?, asking]
      rw [move_of_step step]
      have timed := (sound.resumes due paused).resolve_left (Nat.not_le.2 early)
      refine .stays (sound.relisten idle other.symm) ?_ (.inr (.inr (.inl ⟨due, timed⟩)))
      simp [workLeft, asking, ListenerPhase.atHand]
    next =>
      refine .goesOn (.of_idle idle sound.lent ?_) (Nat.le_refl _) ?_
      · intro resume paused
        cases paused
      · simp [movesAhead, paused]
  next =>
    split
    next =>
      have step : t.listener.step? .finish = some (t.listener.stop .unregistered) := by
        simp only [Listener.step?, asking]
      exact sound.turned_stop idle step other (by simp [ListenerPhase.rank, asking])
    next item rest stream =>
      have passed : Sound n { t with stream := rest } :=
        ⟨sound.lent, sound.waits, sound.dry, sound.resumes⟩
      have met := passed.turned_meet asking item
      have work := met.work
      refine ⟨met.sound, ?_, fun goesOn => ?_, met.attended⟩
      · simp only [workLeft, stream, List.map_cons, List.sum_cons] at work ⊢
        omega
      · have nearer := met.nearer goesOn
        simp only [movesAhead, stream, List.length_cons] at nearer ⊢
        omega

/-- A permit that the listener gets is no longer free, nor on its way. -/
theorem Sound.turned_grant (sound : Sound n t) {d : Delivery}
    (admitting : t.listener.phase = .admitting d) {permits : Nat}
    (taken : permits + 1 = t.permits + t.wait.held) :
    Turned n 0 0 t ({ t with permits := permits, wait := .notWaiting }.move .grant, true) := by
  have lent := sound.lent
  have step : t.listener.step? .grant = some { t.listener with phase := .admitted d } := by
    simp only [Listener.step?, admitting]
  have moved : { t with permits := permits, wait := .notWaiting }.move .grant
      = { t with
          permits := permits, wait := .notWaiting,
          listener := { t.listener with phase := .admitted d } } := move_of_step step
  rw [moved]
  refine .goesOn (.of_idle rfl ?_ sound.resumes) ?_ ?_
  · have none : PermitWait.notWaiting.held = 0 := rfl
    simp only [Timeline.lent, Listener.isAdmitted, admitting, none, Bool.toNat_false,
      Bool.toNat_true] at lent ⊢
    omega
  · simp [workLeft, admitting, ListenerPhase.atHand]
  · simp [movesAhead, admitting, ListenerPhase.rank]

/-- The listener takes a permit, waits for one that is lent, or ends where none is
given any more. -/
theorem Sound.turned_seekPermit (sound : Sound n t) {d : Delivery}
    (admitting : t.listener.phase = .admitting d) : Turned n 0 0 t t.seekPermit := by
  have lent := sound.lent
  have other : t.listener.isAdmitted = false := by simp only [Listener.isAdmitted, admitting]
  unfold Timeline.seekPermit
  split
  next granted =>
    have taken : t.permits + 1 = t.permits + t.wait.held := by rw [granted]; rfl
    exact sound.turned_grant admitting taken
  next waiting =>
    split
    next seen =>
      -- the wait is given up; no permit was on its way
      have left : Sound n { t with wait := .notWaiting } := by
        refine .of_idle rfl ?_ sound.resumes
        simp only [Timeline.lent, waiting, PermitWait.held] at lent ⊢
        exact lent
      have possible : t.listener.looked.isSome = true := by
        simp [Listener.looked, admitting, seen]
      have looked := left.turned_look rfl possible
      exact ⟨looked.sound, looked.work, looked.nearer, looked.attended⟩
    next =>
      exact .stays sound (Nat.le_refl _) (.inr (.inr (.inr waiting)))
  next idle =>
    split
    next =>
      have step : t.listener.step? .close = some (t.listener.stop .shutDown) := by
        simp only [Listener.step?, admitting]
      exact sound.turned_stop idle step other (by simp [ListenerPhase.rank, admitting])
    next =>
      split
      next free =>
        have taken : t.permits - 1 + 1 = t.permits + t.wait.held := by
          rw [idle]
          exact Nat.sub_add_cancel free
        have granted := sound.turned_grant admitting taken
        rw [← idle] at granted
        exact granted
      next none =>
        have waits : Sound n { t with wait := .waiting } := by
          refine ⟨?_, fun _ => ⟨d, admitting⟩, fun _ => Nat.eq_zero_of_not_pos none,
            sound.resumes⟩
          simp only [Timeline.lent, idle, PermitWait.held] at lent ⊢
          exact lent
        exact .stays waits (Nat.le_refl _) (.inr (.inr (.inr rfl)))

/-- So the next thing that the listener does costs nothing, and brings it nearer to
where it waits or ends. -/
theorem Sound.turned (sound : Sound n t) : Turned n 0 0 t t.turn := by
  unfold Timeline.turn
  split
  next phase =>
    have possible : t.listener.looked.isSome = true := by simp [Listener.looked, phase]
    exact sound.turned_look (sound.idle (by simp [phase])) possible
  next d phase =>
    have possible : t.listener.looked.isSome = true := by simp [Listener.looked, phase]
    exact sound.turned_look (sound.idle (by simp [phase])) possible
  next asking => exact sound.turned_ask asking
  next d admitting => exact sound.turned_seekPermit admitting
  next d admitted => exact sound.turned_spawn admitted
  next state ended => exact .stays sound (Nat.le_refl _) (.inl ⟨state, ended⟩)

theorem phase_of_ended? {l : Listener} {state : ListenerState} (ended : l.ended? = some state) :
    l.phase = .ended state := by
  unfold Listener.ended? at ended
  split at ended
  next phase =>
    cases ended
    exact phase
  next => cases ended

/-- A listener that runs waits or ends in the end. -/
theorem Sound.listened (sound : Sound n t) {fuel : Nat} (enough : t.movesAhead < fuel) :
    Sound n (t.listen fuel) ∧ (t.listen fuel).workLeft ≤ t.workLeft
      ∧ Attended (t.listen fuel) := by
  induction fuel generalizing t with
  | zero => exact absurd enough (Nat.not_lt_zero _)
  | succ fuel ih =>
      have turned := sound.turned
      have work := turned.work
      rw [listen_succ]
      split
      next state ended goesOn =>
        have noted : Brings 0 0 t.turn.1 (t.turn.1.ended state) := brings_recorded rfl
        exact ⟨noted.sound n turned.sound, Nat.le_trans noted.work work,
          .inl ⟨state, phase_of_ended? ended⟩⟩
      next goesOn =>
        have nearer := turned.nearer goesOn
        obtain ⟨kept, less, attended⟩ := ih turned.sound (by omega)
        exact ⟨kept, Nat.le_trans less work, attended⟩
      next waits => exact ⟨turned.sound, work, turned.attended waits⟩

-- ============================================================= the clock

/-- The moves that a listener is granted are more than it has ahead of it. -/
theorem movesAhead_lt (t : Timeline) : t.movesAhead < t.movesLeft := by
  have rank : t.listener.phase.rank ≤ 5 := by
    cases t.listener.phase <;> simp [ListenerPhase.rank]
  have paused := Bool.toNat_le t.pausedUntil.isSome
  unfold movesAhead movesLeft
  omega

/-- A task that can run is taken from the others. -/
theorem Sound.pop (sound : Sound n t) {rest : List TimelineTask} (ready : t.ready = task :: rest) :
    ∃ k, n = k + task.hasPermit.toNat ∧ Sound k { t with ready := rest } := by
  have lent := sound.lent
  refine ⟨_, ?_, ⟨rfl, sound.waits, sound.dry, sound.resumes⟩⟩
  simp only [Timeline.lent, ready, List.countP_cons] at lent ⊢
  cases held : task.hasPermit <;> simp [held] at lent ⊢ <;> omega

theorem workLeft_pop {rest : List TimelineTask} (ready : t.ready = task :: rest) :
    t.workLeft = { t with ready := rest }.workLeft + task.work := by
  simp only [workLeft, ready, List.map_cons, List.sum_cons]
  omega

/-- The listener is forgotten for no other task. -/
theorem Attended.pop (attended : Attended t) {rest : List TimelineTask}
    (ready : t.ready = task :: rest) (other : task ≠ .listen) :
    Attended { t with ready := rest } := by
  rcases attended with ended | called | timed | waits
  · exact .inl ended
  · rw [ready] at called
    exact .inr (.inl ((List.mem_cons.1 called).resolve_left other.symm))
  · exact .inr (.inr (.inl timed))
  · exact .inr (.inr (.inr waits))

/-- A task that runs leaves less work. -/
theorem Sound.run (sound : Sound n t) (attended : Attended t) {rest : List TimelineTask}
    (ready : t.ready = task :: rest) :
    Sound n ({ t with ready := rest }.run task)
      ∧ ({ t with ready := rest }.run task).workLeft < t.workLeft
      ∧ Attended ({ t with ready := rest }.run task) := by
  obtain ⟨k, rfl, popped⟩ := sound.pop ready
  have work := workLeft_pop ready
  cases task with
  | listen =>
      obtain ⟨kept, less, called⟩ := popped.listened (movesAhead_lt _)
      exact ⟨kept, work ▸ Nat.lt_succ_of_le less, called⟩
  | consume task =>
      have brings := brings_consume { t with ready := rest } task
      have less := brings.work
      refine ⟨brings.sound k popped, ?_, brings.attended (attended.pop ready nofun)⟩
      rw [work]
      exact Nat.lt_succ_of_le less
  | conclude index c =>
      have brings := brings_conclude { t with ready := rest } index c
      refine ⟨brings.sound k popped, ?_, brings.attended (attended.pop ready nofun)⟩
      rw [work]
      exact Nat.lt_succ_of_le brings.work
  | cancel =>
      have brings := brings_cancelToken { t with ready := rest }
      refine ⟨brings.sound k popped, ?_, brings.attended (attended.pop ready nofun)⟩
      rw [work]
      exact Nat.lt_succ_of_le brings.work

/-- The clock moves on, and the timers in front that are due by then can run. -/
theorem advance_cases (t : Timeline) {due now : Nat} {rest : List (Nat × TimelineTask)}
    (timers : t.timers = (due, task) :: rest) (come : due ≤ now) :
    ∃ came later, t.timers = came ++ later ∧ came ≠ [] ∧ (∀ timer ∈ came, timer.1 ≤ now)
      ∧ t.advance now
        = { t with now := now, timers := later, ready := t.ready ++ came.map (·.2) } := by
  refine ⟨t.timers.takeWhile (fun timer => timer.1 ≤ now),
    t.timers.dropWhile (fun timer => timer.1 ≤ now),
    List.takeWhile_append_dropWhile.symm, ?_, ?_, ?_⟩
  · rw [timers, List.takeWhile_cons_of_pos (by simpa using come)]
    exact nofun
  · intro timer inside
    exact of_decide_eq_true (List.all_eq_true.1 List.all_takeWhile timer inside)
  · unfold Timeline.advance
    rw [List.span_eq_takeWhile_dropWhile]

theorem sum_timed (timers : List (Nat × TimelineTask)) :
    (timers.map (·.2.work + 1)).sum = ((timers.map (·.2)).map (·.work)).sum + timers.length := by
  induction timers with
  | nil => rfl
  | cons timer rest ih =>
      simp only [List.map_cons, List.sum_cons, List.length_cons, ih]
      omega

/-- When the clock moves on, some timer is due, and that is the work that gets less. -/
theorem Sound.advance (sound : Sound n t) (attended : Attended t) {due now : Nat}
    {rest : List (Nat × TimelineTask)} (timers : t.timers = (due, task) :: rest)
    (onwards : t.now ≤ now) (come : due ≤ now) :
    Sound n (t.advance now) ∧ (t.advance now).workLeft < t.workLeft
      ∧ Attended (t.advance now) := by
  obtain ⟨came, later, parts, some, reached, advanced⟩ := t.advance_cases timers come
  have lent := sound.lent
  have length := List.length_pos_of_ne_nil some
  rw [advanced]
  refine ⟨⟨?_, sound.waits, sound.dry, ?_⟩, ?_, ?_⟩
  · simp only [Timeline.lent, parts, List.countP_append, List.countP_map] at lent ⊢
    have same : came.countP ((·.hasPermit) ∘ (·.2)) = came.countP (·.2.hasPermit) := rfl
    omega
  · intro resume paused
    rcases sound.resumes resume paused with before | timed
    · exact .inl (Nat.le_trans before onwards)
    · rw [parts] at timed
      exact (List.mem_append.1 timed).imp_left (reached _)
  · simp only [workLeft, parts, List.map_append, List.sum_append, sum_timed came]
    omega
  · rcases attended with ended | called | ⟨resume, timed⟩ | waits
    · exact .inl ended
    · exact .inr (.inl (List.mem_append_left _ called))
    · rw [parts] at timed
      rcases List.mem_append.1 timed with now | still
      · exact .inr (.inl (List.mem_append_right _ (List.mem_map_of_mem now)))
      · exact .inr (.inr (.inl ⟨resume, still⟩))
    · exact .inr (.inr (.inr waits))

/-- Where no work is left there is nothing more to do. -/
theorem idle_of_workLeft (none : t.workLeft = 0) : t.ready = [] ∧ t.timers = [] := by
  constructor
  · cases ready : t.ready with
    | nil => rfl
    | cons task rest =>
        have some := task.work_pos
        simp [workLeft, ready] at none
        omega
  · cases timers : t.timers with
    | nil => rfl
    | cons timer rest => simp [workLeft, timers] at none

/-- With fuel for all the work that is left, a run comes to where there is
nothing more to do. -/
theorem Sound.runAll (sound : Sound n t) (attended : Attended t) {fuel : Nat}
    (enough : t.workLeft ≤ fuel) :
    Sound n (t.runAll fuel) ∧ Attended (t.runAll fuel) ∧ (t.runAll fuel).ready = []
      ∧ (t.runAll fuel).timers = [] := by
  induction fuel generalizing t with
  | zero => exact ⟨sound, attended, idle_of_workLeft (Nat.le_zero.1 enough)⟩
  | succ fuel ih =>
      unfold Timeline.runAll
      split
      next task rest ready =>
        obtain ⟨kept, less, called⟩ := sound.run attended ready
        exact ih kept called (by omega)
      next ready =>
        split
        next timers => exact ⟨sound, attended, ready, timers⟩
        next due task rest timers =>
          obtain ⟨kept, less, called⟩ := sound.advance attended timers
            (Nat.le_max_left t.now due) (Nat.le_max_right t.now due)
          exact ih kept called (by omega)

-- ============================================================= the end

/-- Where there is nothing more to do, the listener has ended and all permits are back. -/
theorem Sound.ended (sound : Sound n t) (attended : Attended t) (free : 0 < n)
    (ready : t.ready = []) (timers : t.timers = []) :
    (∃ state, t.listener.phase = .ended state) ∧ t.permits = n := by
  have lent := sound.lent
  simp only [Timeline.lent, ready, timers, List.countP_nil] at lent
  rcases attended with ⟨state, phase⟩ | called | ⟨due, timed⟩ | waits
  · refine ⟨⟨state, phase⟩, ?_⟩
    have idle : t.wait = .notWaiting := sound.idle (by simp [phase])
    simpa [idle, PermitWait.held, Listener.isAdmitted, phase] using lent
  · rw [ready] at called
    cases called
  · rw [timers] at timed
    cases timed
  · obtain ⟨d, phase⟩ := sound.waits (by simp [waits])
    have none := sound.dry waits
    simp [waits, PermitWait.held, Listener.isAdmitted, phase] at lent
    omega

/-- At the beginning all permits are free. -/
theorem Begins.sound (begins : Begins t) : Sound t.permits t := by
  refine .of_idle begins.wait ?_ ?_
  · simp [Timeline.lent, begins.ready, begins.timers, begins.wait, begins.listener,
      TimelineTask.hasPermit, PermitWait.held, Listener.isAdmitted]
  · simp [begins.paused]

/-- An item of the stream comes to five tasks at most. -/
theorem sum_work_le (items : List StreamItem) :
    (items.map (·.work)).sum ≤ 5 * items.length := by
  induction items with
  | nil => exact Nat.le_refl _
  | cons item rest ih =>
      have few : item.work ≤ 5 := by cases item <;> simp [StreamItem.work]
      simp only [List.map_cons, List.sum_cons, List.length_cons]
      omega

/-- The bound on the tasks is one, also with a timer that cancels the token. -/
theorem Begins.workLeft_le (begins : Begins t) : t.workLeft + 3 ≤ tasksOf t.stream := by
  have items := sum_work_le t.stream
  simp only [workLeft, tasksOf, begins.ready, begins.timers, begins.listener, List.map_cons,
    List.map_nil, List.sum_cons, List.sum_nil, TimelineTask.work, ListenerPhase.atHand,
    List.length_nil]
  omega

/-- At the beginning the listener can run. -/
theorem Begins.attended (begins : Begins t) : Attended t := by
  refine .inr (.inl ?_)
  rw [begins.ready]
  exact List.mem_singleton_self _

/-- A listener that has a permit ends, all its tasks come to their end, and all
permits are back. -/
theorem complete_ends (begins : Begins t) (free : 0 < t.permits) (cancelAt : Option Nat) :
    (∃ state, (t.complete cancelAt).listener.phase = .ended state)
      ∧ (t.complete cancelAt).permits = t.permits
      ∧ (t.complete cancelAt).ready = [] ∧ (t.complete cancelAt).timers = [] := by
  have least := begins.workLeft_le
  have logged := t.brings_log [Listener.listeningLog t.queue]
  have run : ∃ t' : Timeline,
      Brings 0 3 t t' ∧ t.complete cancelAt = t'.runAll (tasksOf t.stream) := by
    cases cancelAt with
    | none => exact ⟨_, ⟨logged.sound, Nat.le_add_right_of_le logged.work, logged.attended⟩, rfl⟩
    | some due => exact ⟨_, logged.trans (brings_addTimer _ due .cancel), rfl⟩
  obtain ⟨t', brings, run⟩ := run
  obtain ⟨sound, attended, ready, timers⟩ := (brings.sound _ begins.sound).runAll
    (brings.attended begins.attended) (Nat.le_trans brings.work least)
  rw [run]
  obtain ⟨ended, back⟩ := sound.ended attended free ready timers
  exact ⟨ended, back, ready, timers⟩

/-- What a listener comes back with that has a permit, and is refused none. -/
theorem complete_returns (begins : Begins t) (free : 0 < t.permits)
    (opens : .closeDispatch ∉ t.stream) (cancelAt : Option Nat) :
    ∃ state moves, (t.complete cancelAt).listener.phase = .ended state
      ∧ Listener.Ran moves (t.complete cancelAt).listener
      ∧ Listener.Returned (fun i => (answersOn t.stream)[i]?) moves
          (t.complete cancelAt).listener state := by
  obtain ⟨⟨state, ended⟩, -⟩ := complete_ends begins free cancelAt
  obtain ⟨moves, ran, fed, closed⟩ := complete_ran begins cancelAt
  have kept := ran.kept fun inside => opens (closed inside)
  exact ⟨state, moves, ended, ran, kept.returned fed ended⟩

end Timeline

end Courier
