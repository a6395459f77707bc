/-
A listener on the clock is a listener: whatever the schedule of `Timeline`
makes of it, it was led there by moves of its own, and it took its answers
from the items of its stream, in order (`complete_ran`). So all that holds
of every run of a listener holds of this one.

# The shape of the argument

`Follows` says of a timeline at work which moves its listener made, and that
their answers, with those that the rest of the stream has to give, are the
answers of all items. Tasks, timers, permits and logs do not enter it. So
each function of the schedule has one lemma, and most of these say that it
leaves the listener alone, or makes a move without an answer.
-/
import Courier.Listener.Timeline
import Courier.Proofs.Listener.Returns

namespace Courier

-- ================================================ statement vocabulary

/-- The answer that a stream gives with an item, if that is one. -/
def StreamItem.answer? : StreamItem → Option StreamAnswer
  | delivery d _ => some (.delivery d)
  | failure => some .failure
  | pause _ | cancel | closeDispatch => none

/-- The answers of a stream that ends behind its items. -/
def answersOn (items : List StreamItem) : List StreamAnswer :=
  items.filterMap (·.answer?) ++ [.ending]

namespace Timeline

variable {items : List StreamItem} {moves : List ListenerMove} {t t' : Timeline}

/-- A listener that was just started, with nothing else under way. -/
structure Begins (t : Timeline) : Prop where
  listener : t.listener = {}
  given : t.permitsGiven = true
  wait : t.wait = .notWaiting
  paused : t.pausedUntil = none
  ready : t.ready = [.listen]
  timers : t.timers = []

/-- The listener of a timeline made some moves, with the first answers on some
items, and the rest of its stream has the others. -/
structure Follows (items : List StreamItem) (moves : List ListenerMove) (t : Timeline) : Prop where
  ran : Listener.Ran moves t.listener
  told : answersOf moves <+: answersOn items
  ahead : (∀ state, t.listener.phase ≠ .ended state) →
    answersOf moves ++ answersOn t.stream = answersOn items
  later : ∀ item ∈ t.stream, item ∈ items
  given : t.permitsGiven = false → .closeDispatch ∈ items
  closed : .close ∈ moves → .closeDispatch ∈ items

/-- The listener of a timeline is where moves of its own led it to. -/
def IsLed (items : List StreamItem) (t : Timeline) : Prop := ∃ moves, Follows items moves t

-- ============================================================== a move

/-- What a timeline does beside its listener and the stream does not count. -/
theorem IsLed.beside (led : IsLed items t) (listener : t'.listener = t.listener)
    (stream : t'.stream = t.stream) (given : t'.permitsGiven = t.permitsGiven) :
    IsLed items t' := by
  obtain ⟨moves, follows⟩ := led
  refine ⟨moves, ?_, follows.told, ?_, ?_, ?_, follows.closed⟩
  · rw [listener]
    exact follows.ran
  · rw [listener, stream]
    exact follows.ahead
  · rw [stream]
    exact follows.later
  · rw [given]
    exact follows.given

/-- A timeline without its records. Nothing that it does depends on them. -/
def quiet (t : Timeline) : Timeline :=
  { t with calls := 0, taken := [], events := [], logs := [], stoppedAt := none }

/-- What a timeline records is no concern of the listener. -/
theorem IsLed.recorded (led : IsLed items t) (same : t'.quiet = t.quiet) : IsLed items t' := by
  have listener : t'.quiet.listener = t.quiet.listener := by rw [same]
  have stream : t'.quiet.stream = t.quiet.stream := by rw [same]
  have given : t'.quiet.permitsGiven = t.quiet.permitsGiven := by rw [same]
  exact led.beside listener stream given

/-- A listener that goes on after a move went on before it. -/
theorem goesOn_of_step {l l' : Listener} {m : ListenerMove} (step : l.step? m = some l')
    (goesOn : ∀ state, l'.phase ≠ .ended state) (state : ListenerState) :
    l.phase ≠ .ended state := by
  intro ended
  cases Listener.turn_of_step step with
  | cancels => exact goesOn state ended
  | stops phase | leaves phase => rcases phase with phase | phase <;> simp [phase] at ended
  | asks phase | seeks phase | pends phase | takes phase | fails phase | finishes phase
  | granted phase | spawns phase | closes phase => simp [phase] at ended

/-- A move that is possible is made by the listener and nothing else. -/
theorem move_of_step {m : ListenerMove} {l' : Listener} (step : t.listener.step? m = some l') :
    t.move m = { t with listener := l' } := by
  simp [Timeline.move, Listener.step, step]

/-- A move that takes no answer. -/
theorem IsLed.move (led : IsLed items t) {m : ListenerMove} (silent : m.answer? = none)
    (closes : m = .close → t.permitsGiven = false) : IsLed items (t.move m) := by
  obtain ⟨moves, follows⟩ := led
  cases step : t.listener.step? m with
  | none =>
      have still : t.move m = t := by simp [Timeline.move, Listener.step, step]
      rw [still]
      exact ⟨moves, follows⟩
  | some l' =>
      have same : answersOf (moves ++ [m]) = answersOf moves := by
        rw [answersOf_concat, silent]
        exact List.append_nil _
      rw [move_of_step step]
      refine ⟨moves ++ [m], follows.ran.step m step, same ▸ follows.told, ?_, follows.later,
        follows.given, ?_⟩
      · intro goesOn
        rw [same]
        exact follows.ahead (goesOn_of_step step goesOn)
      · intro inside
        rcases List.mem_append.1 inside with before | now
        · exact follows.closed before
        · exact follows.given (closes (List.mem_singleton.1 now).symm)

/-- A move that takes the next answer on the stream. -/
theorem IsLed.answer (led : IsLed items t) {m : ListenerMove} {a : StreamAnswer}
    {rest : List StreamItem} {after : List StreamAnswer} {l' : Listener}
    (step : t.listener.step? m = some l') (goesOn : ∀ state, t.listener.phase ≠ .ended state)
    (answer : m.answer? = some a) (next : answersOn t.stream = a :: after)
    (left : (∀ state, l'.phase ≠ .ended state) → after = answersOn rest)
    (later : ∀ item ∈ rest, item ∈ t.stream) :
    IsLed items { t with listener := l', stream := rest } := by
  obtain ⟨moves, follows⟩ := led
  have ahead := follows.ahead goesOn
  have taken : answersOf (moves ++ [m]) = answersOf moves ++ [a] := by
    rw [answersOf_concat, answer]
    rfl
  rw [next, List.append_cons, ← taken] at ahead
  refine ⟨moves ++ [m], follows.ran.step m step, ⟨after, ahead⟩, ?_,
    fun item inside => follows.later item (later item inside), follows.given, ?_⟩
  · intro going
    rw [← left going]
    exact ahead
  · intro inside
    rcases List.mem_append.1 inside with before | now
    · exact follows.closed before
    · rw [← List.mem_singleton.1 now] at answer
      cases answer

/-- An item of the stream that is no answer is passed over. -/
theorem IsLed.pass (led : IsLed items t) {item : StreamItem} {rest : List StreamItem}
    (stream : t.stream = item :: rest) (silent : item.answer? = none) :
    IsLed items { t with stream := rest } := by
  obtain ⟨moves, follows⟩ := led
  have same : answersOn t.stream = answersOn rest := by
    rw [stream, answersOn, List.filterMap_cons_none silent]
    rfl
  refine ⟨moves, follows.ran, follows.told, ?_, ?_, follows.given, follows.closed⟩
  · intro goesOn
    rw [← follows.ahead goesOn, same]
  · intro other inside
    exact follows.later other (stream ▸ List.mem_cons_of_mem _ inside)

-- =========================================================== consuming

/-- To wake the listener adds a task for it, and moves nothing. -/
theorem IsLed.wake (led : IsLed items t) : IsLed items t.wake := by
  unfold Timeline.wake
  split <;> exact led.beside rfl rfl rfl

@[simp]
theorem wake_listener (t : Timeline) : t.wake.listener = t.listener := by
  unfold wake
  split <;> rfl

@[simp]
theorem wake_stream (t : Timeline) : t.wake.stream = t.stream := by
  unfold wake
  split <;> rfl

@[simp]
theorem wake_permitsGiven (t : Timeline) : t.wake.permitsGiven = t.permitsGiven := by
  unfold wake
  split <;> rfl

/-- The listener is not where it was for its token being cancelled. -/
theorem cancelToken_phase (t : Timeline) : t.cancelToken.listener.phase = t.listener.phase := by
  rw [Timeline.cancelToken, wake_listener]
  rfl

theorem cancelToken_stream (t : Timeline) : t.cancelToken.stream = t.stream := wake_stream _

/-- Cancelling the token is a move of the listener, without an answer. -/
theorem IsLed.cancelToken (led : IsLed items t) : IsLed items t.cancelToken :=
  (led.move (m := .cancel) rfl nofun).wake

/-- A permit that comes back wakes who waits for it; the listener stays where it is. -/
theorem IsLed.release (led : IsLed items t) : IsLed items t.release := by
  unfold Timeline.release
  split
  · exact (led.beside rfl rfl rfl : IsLed items { t with wait := .granted }).wake
  · exact led.beside rfl rfl rfl

/-- What a consumption comes to, but for the records. -/
theorem consume_cases (t : Timeline) (task : ConsumeTask) :
    ∃ (t' : Timeline) (c : Consumption), t'.quiet = t.quiet
      ∧ (t.consume task = t'.conclude task.index c
        ∨ ∃ due, t.consume task = t'.addTimer due (.conclude task.index c)) := by
  rcases run : t.subscription.consume t.queue t.calls task.delivery t.listener.cancelled with
    ⟨c, calls⟩
  refine ⟨({ t with calls := calls }.log [c.received]).display c.handling.shown, c, rfl, ?_⟩
  unfold Timeline.consume
  rw [run]
  dsimp only
  split
  · exact .inl rfl
  · exact .inl rfl
  · exact .inr ⟨_, rfl⟩

/-- But for its records, the end of a consumption gives a permit back and does nothing
else. -/
theorem conclude_cases (t : Timeline) (index : Nat) (c : Consumption) :
    ∃ t' : Timeline, t'.quiet = t.quiet ∧ t.conclude index c = t'.release := by
  refine ⟨_, ?_, rfl⟩
  rfl

theorem IsLed.conclude (led : IsLed items t) (index : Nat) (c : Consumption) :
    IsLed items (t.conclude index c) := by
  obtain ⟨t', same, concluded⟩ := t.conclude_cases index c
  rw [concluded]
  exact (led.recorded same).release

/-- To consume a delivery is the matter of its task; the listener stays where it is. -/
theorem IsLed.consume (led : IsLed items t) (task : ConsumeTask) :
    IsLed items (t.consume task) := by
  obtain ⟨t', c, same, consumed | ⟨due, consumed⟩⟩ := t.consume_cases task
  · rw [consumed]
    exact (led.recorded same).conclude task.index c
  · rw [consumed]
    exact (led.recorded same).beside rfl rfl rfl

-- =========================================================== listening

/-- The listener takes the answer that the first item of its stream gives. -/
theorem IsLed.takes (led : IsLed items t) (asking : t.listener.phase = .asking)
    {m : ListenerMove} {a : StreamAnswer} {item : StreamItem} {rest : List StreamItem}
    {l' : Listener} (step : t.listener.step? m = some l') (answer : m.answer? = some a)
    (stream : t.stream = item :: rest) (gives : item.answer? = some a) :
    IsLed items { t with listener := l', stream := rest } := by
  have next : answersOn t.stream = a :: answersOn rest := by
    rw [stream, answersOn, List.filterMap_cons_some gives]
    rfl
  refine led.answer step ?_ answer next (fun _ => rfl) ?_
  · intro state
    rw [asking]
    exact nofun
  · intro other inside
    rw [stream]
    exact List.mem_cons_of_mem _ inside

/-- A delivery that the stream brings is taken, and is then off the stream. -/
theorem IsLed.delivered (led : IsLed items t) (asking : t.listener.phase = .asking)
    {d : Delivery} {cancelFirst : Bool} {rest : List StreamItem}
    (stream : t.stream = .delivery d cancelFirst :: rest) :
    IsLed items { t with listener := t.listener.step (.take d), stream := rest } := by
  have step : t.listener.step? (.take d)
      = some { t.listener with phase := .holding d, taken := t.listener.taken ++ [d] } := by
    simp only [Listener.step?, asking]
  rw [Listener.step, step]
  exact led.takes asking step rfl stream rfl

/-- Whatever comes next on the stream, the listener meets it by moves of its own. -/
theorem IsLed.meet (led : IsLed items t) (asking : t.listener.phase = .asking)
    {item : StreamItem} {rest : List StreamItem} (stream : t.stream = item :: rest) :
    IsLed items ({ t with stream := rest }.meet item).1 := by
  cases item with
  | delivery d cancelFirst =>
      cases cancelFirst with
      | false => exact (led.delivered asking stream).beside rfl rfl rfl
      | true =>
          have delivered := led.cancelToken.delivered (t.cancelToken_phase.trans asking)
            (t.cancelToken_stream.trans stream)
          refine delivered.beside ?_ ?_ ?_
          · simp [Timeline.meet, Timeline.move, Timeline.cancelToken]
          · simp [Timeline.meet, Timeline.move, Timeline.cancelToken]
          · simp [Timeline.meet, Timeline.move, Timeline.cancelToken]
  | pause millis =>
      have passed := led.pass stream rfl
      cases millis with
      | zero => exact passed
      | succ millis => exact (passed.move (m := .pend) rfl nofun).beside rfl rfl rfl
  | failure =>
      have step : t.listener.step? .fail = some (t.listener.stop .shutDown) := by
        simp only [Listener.step?, asking]
      refine (led.takes asking step rfl stream rfl).beside ?_ rfl rfl
      show t.listener.step .fail = _
      rw [Listener.step, step]
      rfl
  | cancel => exact (led.pass stream rfl).cancelToken
  | closeDispatch =>
      obtain ⟨moves, follows⟩ := led.pass stream rfl
      obtain ⟨_, whole⟩ := led
      refine ⟨moves, follows.ran, follows.told, follows.ahead, follows.later, fun _ => ?_,
        follows.closed⟩
      exact whole.later _ (stream ▸ List.mem_cons_self)

/-- Asking the stream is to meet what is next on it, or to end with it. -/
theorem IsLed.ask (led : IsLed items t) (asking : t.listener.phase = .asking) :
    IsLed items t.ask.1 := by
  unfold Timeline.ask
  split
  next due _ =>
    split
    · exact led.move (m := .pend) rfl nofun
    · exact led.beside rfl rfl rfl
  next =>
    split
    next stream =>
      have step : t.listener.step? .finish = some (t.listener.stop .unregistered) := by
        simp only [Listener.step?, asking]
      have next : answersOn t.stream = [.ending] := by
        rw [stream]
        rfl
      have finished := led.answer step (by simp [asking]) rfl next
        (fun goesOn => absurd rfl (goesOn .unregistered)) (List.forall_mem_nil _)
      rw [move_of_step step]
      exact finished.beside rfl stream rfl
    next item rest stream => exact led.meet asking stream

/-- With a delivery in hand, the listener takes a permit, waits for one, or gives
the delivery up. -/
theorem IsLed.seekPermit (led : IsLed items t) : IsLed items t.seekPermit.1 := by
  have waiting (wait : PermitWait) : IsLed items { t with wait := wait } := led.beside rfl rfl rfl
  unfold Timeline.seekPermit
  split
  next => exact (waiting .notWaiting).move (m := .grant) rfl nofun
  next =>
    split
    · exact (waiting .notWaiting).move (m := .look) rfl nofun
    · exact led
  next =>
    split
    next refused =>
      exact led.move (m := .close) rfl fun _ => by simpa using refused
    next =>
      split
      · have taken : IsLed items { t with permits := t.permits - 1 } := led.beside rfl rfl rfl
        exact taken.move (m := .grant) rfl nofun
      · exact waiting .waiting

/-- One turn of the listener, whatever it is at. -/
theorem IsLed.turn (led : IsLed items t) : IsLed items t.turn.1 := by
  unfold Timeline.turn
  split
  next => exact led.move (m := .look) rfl nofun
  next => exact led.move (m := .look) rfl nofun
  next asking => exact led.ask asking
  next => exact led.seekPermit
  next d _ => exact (led.move (m := .spawn) rfl nofun).beside rfl rfl rfl
  next => exact led

theorem listen_succ (t : Timeline) (fuel : Nat) :
    t.listen (fuel + 1) = match t.turn.1.listener.ended?, t.turn.2 with
      | some state, true => t.turn.1.ended state
      | none, true => t.turn.1.listen fuel
      | _, false => t.turn.1 := rfl

/-- A listener that goes on turn by turn, at most that many times. -/
theorem IsLed.listen (led : IsLed items t) (fuel : Nat) : IsLed items (t.listen fuel) := by
  induction fuel generalizing t with
  | zero => exact led
  | succ fuel ih =>
      rw [listen_succ]
      split
      next => exact led.turn.recorded rfl
      next => exact ih led.turn
      next => exact led.turn

-- ============================================================= the clock

theorem IsLed.run (led : IsLed items t) (task : TimelineTask) : IsLed items (t.run task) := by
  cases task with
  | listen => exact led.listen _
  | consume task => exact led.consume task
  | conclude index c => exact led.conclude index c
  | cancel => exact led.cancelToken

/-- All tasks that can go on do, one after another. -/
theorem IsLed.runAll (led : IsLed items t) (fuel : Nat) : IsLed items (t.runAll fuel) := by
  induction fuel generalizing t with
  | zero => exact led
  | succ fuel ih =>
      unfold Timeline.runAll
      split
      next task rest _ =>
        have popped : IsLed items { t with ready := rest } := led.beside rfl rfl rfl
        exact ih (popped.run task)
      next =>
        split
        next => exact led
        next due _ _ _ =>
          have later : IsLed items (t.advance (max t.now due)) := led.beside rfl rfl rfl
          exact ih later

/-- The whole timeline: so every run of it is a run of moves of the listener. -/
theorem IsLed.complete (led : IsLed items t) (cancelAt : Option Nat) :
    IsLed items (t.complete cancelAt) := by
  have logged : IsLed items (t.log [Listener.listeningLog t.queue]) := led.recorded rfl
  cases cancelAt with
  | none => exact logged.runAll _
  | some due =>
      have timed : IsLed items ((t.log [Listener.listeningLog t.queue]).addTimer due .cancel) :=
        logged.beside rfl rfl rfl
      exact timed.runAll _

/-- A listener that was just started has all of its stream before it. -/
theorem Begins.isLed (begins : Begins t) : IsLed t.stream t := by
  refine ⟨[], ?_, List.nil_prefix, fun _ => rfl, fun _ => id, ?_, nofun⟩
  · rw [begins.listener]
    exact .start
  · intro refused
    rw [begins.given] at refused
    cases refused

/-- A listener that worked on a stream made moves of its own, and took its
answers from the stream, in order. It was refused a permit only where the
stream has the item for that. -/
theorem complete_ran (begins : Begins t) (cancelAt : Option Nat) :
    ∃ moves, Listener.Ran moves (t.complete cancelAt).listener
      ∧ Feeds (fun i => (answersOn t.stream)[i]?) moves
      ∧ (.close ∈ moves → .closeDispatch ∈ t.stream) := by
  obtain ⟨moves, follows⟩ := begins.isLed.complete cancelAt
  refine ⟨moves, follows.ran, ?_, follows.closed⟩
  intro i a taken
  obtain ⟨later, told⟩ := follows.told
  show (answersOn t.stream)[i]? = some a
  rw [← told, List.getElem?_append_left (List.getElem?_eq_some_iff.1 taken).1]
  exact taken

end Timeline

end Courier
