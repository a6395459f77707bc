/-
What a listener makes of its stream, whatever the permits and the token do.

A run is told by its moves (`Listener.Ran`). The answers that it took from
the stream are among them, in order, and so is every look at the token; a
look finds the token cancelled if it was cancelled by then
(`SawCancelled`).

# The shape of the argument

Between two moves a listener that has not ended was given what it handed on,
and the delivery at hand (`Stage.going`). It gives a delivery up only when a
look finds the token cancelled. Then it has to look once more before it asks
the stream again, and that look ends it, as nobody takes a cancellation
back: `Stage.leaving` is the one stage with a delivery lost, and it is past
the last one taken. Every move leads from one of these stages to another
(`Stage.turn`), as long as permits are given.
-/
import Courier.Proofs.Intake.Sound

namespace Courier

-- ================================================ statement vocabulary

/-- What a stream answers when it is asked. -/
inductive StreamAnswer where
  | delivery (d : Delivery)
  | failure
  | ending

/-- The answer of the stream that a move takes. -/
def ListenerMove.answer? : ListenerMove → Option StreamAnswer
  | take d => some (.delivery d)
  | fail => some .failure
  | finish => some .ending
  | cancel | look | pend | grant | spawn | close => none

/-- The answers that some moves took, in order. -/
def answersOf (moves : List ListenerMove) : List StreamAnswer := moves.filterMap (·.answer?)

/-- The answers that some moves took are the first ones of a stream. Where the
stream has nothing at a number, no answer ever comes there. -/
def Feeds (stream : Nat → Option StreamAnswer) (moves : List ListenerMove) : Prop :=
  ∀ (i : Nat) (a : StreamAnswer), (answersOf moves)[i]? = some a → stream i = some a

/-- A look at the token found it cancelled. -/
def SawCancelled (moves : List ListenerMove) : Prop :=
  ∃ before, before ++ [.look] <+: moves ∧ .cancel ∈ before

/-- The moves that a listener made from its start on. -/
inductive Listener.Ran : List ListenerMove → Listener → Prop where
  | start : Ran [] {}
  | step {moves : List ListenerMove} {l l' : Listener} (m : ListenerMove) :
    Ran moves l → l.step? m = some l' → Ran (moves ++ [m]) l'

/-- What a listener that has ended comes back with. -/
structure Listener.Returned (stream : Nat → Option StreamAnswer) (moves : List ListenerMove)
    (l : Listener) (state : ListenerState) : Prop where
  /-- Without a cancellation nothing in front of the failure or the end is missing. -/
  complete : .cancel ∉ moves →
    stream l.spawned.length = some .failure ∨ stream l.spawned.length = some .ending
  exits : state = .unregistered ∨ state = .shutDown ∨ state = .cancelled
  unregistered : state = .unregistered ↔ .finish ∈ moves
  shutDown : state = .shutDown ↔ .fail ∈ moves
  cancelled : state = .cancelled ↔ SawCancelled moves
  cancelCalls : l.cancelCalls = if state = .cancelled then 1 else 0
  left : ∃ rest, l.taken = l.spawned ++ rest ∧ rest.length ≤ 1
    ∧ (rest ≠ [] → state = .cancelled)

variable {stream : Nat → Option StreamAnswer} {moves : List ListenerMove} {m : ListenerMove}
  {l l' : Listener} {state : ListenerState}

-- ============================================================ the token

theorem sawCancelled_concat :
    SawCancelled (moves ++ [m]) ↔ SawCancelled moves ∨ (m = .look ∧ .cancel ∈ moves) := by
  constructor
  · rintro ⟨before, early, cancelled⟩
    rcases List.prefix_concat_iff.1 early with all | early
    · obtain ⟨rfl, last⟩ := List.append_inj' all rfl
      cases last
      exact .inr ⟨rfl, cancelled⟩
    · exact .inl ⟨before, early, cancelled⟩
  · rintro (⟨before, early, cancelled⟩ | ⟨rfl, cancelled⟩)
    · exact ⟨before, early.trans (List.prefix_append ..), cancelled⟩
    · exact ⟨moves, List.prefix_refl _, cancelled⟩

/-- What a look found was done before. -/
theorem SawCancelled.cancel_mem (saw : SawCancelled moves) : .cancel ∈ moves := by
  obtain ⟨before, early, cancelled⟩ := saw
  exact early.subset (List.mem_append_left _ cancelled)

/-- Only a look finds anything. -/
theorem not_sawCancelled_concat (unseen : ¬ SawCancelled moves)
    (other : m = .look → .cancel ∉ moves) : ¬ SawCancelled (moves ++ [m]) := by
  intro saw
  rcases sawCancelled_concat.1 saw with early | ⟨look, cancelled⟩
  · exact unseen early
  · exact other look cancelled

-- =========================================================== the stages

/-- The answer that ended a listener. -/
def ListenerPhase.lastAnswer : ListenerPhase → List StreamAnswer
  | ended .shutDown => [.failure]
  | ended .unregistered => [.ending]
  | _ => []

/-- How the deliveries that a listener was given stand to those it handed on,
in its phase; `saw` says whether it saw its token cancelled, and `calls`
counts its requests to end the consumer. -/
inductive Stage (saw : Prop) (taken spawned : List Delivery) (calls : Nat) :
    ListenerPhase → Prop where
  | going {phase : ListenerPhase} : (∀ state, phase ≠ .ended state) → ¬ saw →
    taken = spawned ++ phase.atHand → calls = 0 → Stage saw taken spawned calls phase
  | leaving (d : Delivery) : saw → taken = spawned ++ [d] → calls = 0 →
    Stage saw taken spawned calls .looking
  | cancelled (rest : List Delivery) : saw → taken = spawned ++ rest → rest.length ≤ 1 →
    calls = 1 → Stage saw taken spawned calls (.ended .cancelled)
  | stopped {state : ListenerState} : state = .shutDown ∨ state = .unregistered → ¬ saw →
    taken = spawned → calls = 0 → Stage saw taken spawned calls (.ended state)

variable {saw : Prop} {taken spawned : List Delivery} {calls : Nat} {phase : ListenerPhase}

/-- A listener that is past a look and has not ended did not see its token
cancelled. -/
theorem Stage.unseen (stage : Stage saw taken spawned calls phase) (past : phase ≠ .looking)
    (goesOn : ∀ state, phase ≠ .ended state) :
    ¬ saw ∧ taken = spawned ++ phase.atHand ∧ calls = 0 := by
  cases stage with
  | going _ unseen given none => exact ⟨unseen, given, none⟩
  | leaving => exact absurd rfl past
  | cancelled => exact absurd rfl (goesOn _)
  | stopped => exact absurd rfl (goesOn _)

/-- A listener that asks its stream was given what it handed on. -/
theorem Stage.asking (stage : Stage saw taken spawned calls phase) (asking : phase = .asking) :
    ¬ saw ∧ taken = spawned ∧ calls = 0 := by
  subst asking
  obtain ⟨unseen, given, none⟩ := stage.unseen nofun nofun
  exact ⟨unseen, given.trans (List.append_nil _), none⟩

/-- A listener with a delivery at hand was given that one besides. -/
theorem Stage.atHand {d : Delivery} (stage : Stage saw taken spawned calls phase)
    (atHand : phase = .holding d ∨ phase = .admitting d ∨ phase = .admitted d) :
    ¬ saw ∧ taken = spawned ++ [d] ∧ calls = 0 := by
  rcases atHand with rfl | rfl | rfl
  · exact stage.unseen nofun nofun
  · exact stage.unseen nofun nofun
  · exact stage.unseen nofun nofun

/-- A listener at the start of a round has given up one delivery at most, and
only where it saw its token cancelled. -/
theorem Stage.looking (stage : Stage saw taken spawned calls phase)
    (looking : phase = .looking) :
    ∃ rest, taken = spawned ++ rest ∧ rest.length ≤ 1 ∧ (rest ≠ [] → saw) ∧ calls = 0 := by
  subst looking
  cases stage with
  | going _ _ given none => exact ⟨[], given, by simp, by simp, none⟩
  | leaving d saw given none => exact ⟨[d], given, Nat.le_refl _, fun _ => saw, none⟩

-- ====================================================== between two moves

/-- What holds of a listener after its moves. -/
structure Listener.Kept (moves : List ListenerMove) (l : Listener) : Prop where
  cancelled : l.cancelled = true ↔ .cancel ∈ moves
  answers : answersOf moves = l.taken.map .delivery ++ l.phase.lastAnswer
  stage : Stage (SawCancelled moves) l.taken l.spawned l.cancelCalls l.phase

theorem answersOf_concat (moves : List ListenerMove) (m : ListenerMove) :
    answersOf (moves ++ [m]) = answersOf moves ++ m.answer?.toList := by
  unfold answersOf
  rw [List.filterMap_append]
  cases answer : m.answer? <;> simp [answer]

namespace Listener

theorem Kept.cancelled_turn (kept : Kept moves l) (turn : l.Turn m l') :
    l'.cancelled = true ↔ .cancel ∈ moves ++ [m] := by
  rw [List.mem_append, ← kept.cancelled]
  cases turn <;> simp [stop]

/-- A listener that goes on has taken the deliveries it was given, and
nothing else. -/
theorem Kept.answers_going (kept : Kept moves l) (goesOn : ∀ state, l.phase ≠ .ended state) :
    answersOf moves = l.taken.map .delivery := by
  have none : l.phase.lastAnswer = [] := by
    cases phase : l.phase with
    | ended state => exact absurd phase (goesOn state)
    | _ => rfl
  rw [kept.answers, none, List.append_nil]

theorem Kept.answers_turn (kept : Kept moves l) (turn : l.Turn m l') (given : m ≠ .close) :
    answersOf (moves ++ [m]) = l'.taken.map .delivery ++ l'.phase.lastAnswer := by
  rw [answersOf_concat]
  cases turn with
  | cancels =>
      rw [kept.answers]
      exact List.append_nil _
  | closes => exact absurd rfl given
  | stops phase seen =>
      rw [kept.answers_going (by rcases phase with phase | phase <;> simp [phase])]
      rfl
  | leaves phase seen =>
      rw [kept.answers_going (by rcases phase with phase | phase <;> simp [phase])]
      rfl
  | takes phase =>
      rw [kept.answers_going (by simp [phase])]
      simp [ListenerMove.answer?, ListenerPhase.lastAnswer]
  | asks phase | seeks phase | pends phase | fails phase | finishes phase | granted phase
  | spawns phase =>
      rw [kept.answers_going (by simp [phase])]
      rfl

/-- A move that is no look leads from stage to stage. -/
theorem stage_move (stage : Stage saw l.taken l.spawned l.cancelCalls l.phase)
    (turn : l.Turn m l') (noLook : m ≠ .look) (given : m ≠ .close) :
    Stage saw l'.taken l'.spawned l'.cancelCalls l'.phase := by
  cases turn with
  | cancels => exact stage
  | asks | stops | leaves | seeks => exact absurd rfl noLook
  | closes => exact absurd rfl given
  | pends phase =>
      obtain ⟨unseen, all, none⟩ := stage.asking phase
      exact .going nofun unseen (all.trans (List.append_nil _).symm) none
  | takes phase =>
      obtain ⟨unseen, all, none⟩ := stage.asking phase
      exact .going nofun unseen (congrArg (· ++ _) all) none
  | fails phase =>
      obtain ⟨unseen, all, none⟩ := stage.asking phase
      exact .stopped (.inl rfl) unseen all none
  | finishes phase =>
      obtain ⟨unseen, all, none⟩ := stage.asking phase
      exact .stopped (.inr rfl) unseen all none
  | granted phase =>
      obtain ⟨unseen, all, none⟩ := stage.atHand (.inr (.inl phase))
      exact .going nofun unseen all none
  | spawns phase =>
      obtain ⟨unseen, all, none⟩ := stage.atHand (.inr (.inr phase))
      exact .going nofun unseen (all.trans (List.append_nil _).symm) none

/-- A look leads from stage to stage. -/
theorem Kept.stage_look (kept : Kept moves l) (turn : l.Turn .look l') :
    Stage (SawCancelled (moves ++ [.look])) l'.taken l'.spawned l'.cancelCalls l'.phase := by
  have stage := kept.stage
  have now (seen : l.cancelled = true) : SawCancelled (moves ++ [.look]) :=
    sawCancelled_concat.2 (.inr ⟨rfl, kept.cancelled.1 seen⟩)
  have absent (unseen : l.cancelled = false) : .cancel ∉ moves := by
    intro cancelled
    rw [kept.cancelled.2 cancelled] at unseen
    cases unseen
  have notYet (unseen : l.cancelled = false) : ¬ SawCancelled (moves ++ [.look]) :=
    not_sawCancelled_concat (fun saw => absent unseen saw.cancel_mem) fun _ => absent unseen
  cases turn with
  | asks phase unseen =>
      obtain ⟨rest, all, -, lost, none⟩ := stage.looking phase
      have nothing : rest = [] := by
        cases rest with
        | nil => rfl
        | cons d others => exact absurd (lost nofun).cancel_mem (absent unseen)
      rw [nothing] at all
      exact .going nofun (notYet unseen) all none
  | stops phase seen =>
      rcases phase with phase | phase
      · obtain ⟨rest, all, few, -, none⟩ := stage.looking phase
        exact .cancelled rest (now seen) all few (congrArg (· + 1) none)
      · obtain ⟨-, all, none⟩ := stage.asking phase
        exact .cancelled [] (now seen) (all.trans (List.append_nil _).symm) (Nat.zero_le _)
          (congrArg (· + 1) none)
  | @leaves d phase seen =>
      obtain ⟨-, all, none⟩ := stage.atHand (phase.imp_right .inl)
      exact .leaving d (now seen) all none
  | seeks phase unseen =>
      obtain ⟨-, all, none⟩ := stage.atHand (.inl phase)
      exact .going nofun (notYet unseen) all none

theorem Kept.turn (kept : Kept moves l) (turn : l.Turn m l') (given : m ≠ .close) :
    Kept (moves ++ [m]) l' := by
  refine ⟨kept.cancelled_turn turn, kept.answers_turn turn given, ?_⟩
  by_cases look : m = .look
  · subst look
    exact kept.stage_look turn
  · have same : SawCancelled (moves ++ [m]) ↔ SawCancelled moves :=
      sawCancelled_concat.trans (or_iff_left fun saw => look saw.1)
    rw [propext same]
    exact stage_move kept.stage turn look given

theorem Ran.kept (ran : Ran moves l) (given : .close ∉ moves) : Kept moves l := by
  induction ran with
  | start =>
      refine ⟨by simp, rfl, .going nofun ?_ rfl rfl⟩
      intro saw
      exact absurd saw.cancel_mem List.not_mem_nil
  | step m ran moved ih =>
      obtain ⟨before, now⟩ := not_or.1 fun inside => given (List.mem_append.2 inside)
      refine (ih before).turn (turn_of_step moved) ?_
      rintro rfl
      exact now (List.mem_singleton_self _)

-- ============================================================ the return

theorem ending_mem_answersOf : StreamAnswer.ending ∈ answersOf moves ↔ .finish ∈ moves := by
  unfold answersOf
  rw [List.mem_filterMap]
  constructor
  · rintro ⟨m, inside, answer⟩
    cases m with
    | finish => exact inside
    | _ => cases answer
  · exact fun inside => ⟨.finish, inside, rfl⟩

theorem failure_mem_answersOf : StreamAnswer.failure ∈ answersOf moves ↔ .fail ∈ moves := by
  unfold answersOf
  rw [List.mem_filterMap]
  constructor
  · rintro ⟨m, inside, answer⟩
    cases m with
    | fail => exact inside
    | _ => cases answer
  · exact fun inside => ⟨.fail, inside, rfl⟩

/-- What a listener handed on are the first of the answers it took. -/
theorem Kept.answers_spawned (kept : Kept moves l) :
    ∃ later, answersOf moves = l.spawned.map .delivery ++ later := by
  have given : ∃ rest, l.taken = l.spawned ++ rest := by
    have stage := kept.stage
    generalize l.phase = phase at stage
    cases stage with
    | going _ _ all => exact ⟨_, all⟩
    | leaving d _ all => exact ⟨_, all⟩
    | cancelled rest _ all => exact ⟨_, all⟩
    | stopped _ _ all => exact ⟨[], all.trans (List.append_nil _).symm⟩
  obtain ⟨rest, all⟩ := given
  refine ⟨rest.map .delivery ++ l.phase.lastAnswer, ?_⟩
  rw [kept.answers, all, List.map_append, List.append_assoc]

/-- The stage of a listener that has ended. -/
theorem Kept.ended (kept : Kept moves l) (ended : l.phase = .ended state) :
    state = .cancelled ∧ SawCancelled moves ∧ l.cancelCalls = 1
        ∧ (∃ rest, l.taken = l.spawned ++ rest ∧ rest.length ≤ 1)
      ∨ (state = .shutDown ∨ state = .unregistered) ∧ ¬ SawCancelled moves
        ∧ l.cancelCalls = 0 ∧ l.taken = l.spawned := by
  have stage := kept.stage
  rw [ended] at stage
  cases stage with
  | going goesOn => exact absurd rfl (goesOn state)
  | cancelled rest saw all few once => exact .inl ⟨rfl, saw, once, rest, all, few⟩
  | stopped exit unseen all none => exact .inr ⟨exit, unseen, none, all⟩

/-- A listener that has ended took one answer that is no delivery, if any, and
ended by it. -/
theorem Kept.mem_answers (kept : Kept moves l) (ended : l.phase = .ended state)
    (a : StreamAnswer) (other : ∀ d, a ≠ .delivery d) :
    a ∈ answersOf moves ↔ a ∈ (ListenerPhase.ended state).lastAnswer := by
  rw [kept.answers, ended, List.mem_append]
  refine or_iff_right fun inside => ?_
  obtain ⟨d, -, same⟩ := List.mem_map.1 inside
  exact other d same.symm

/-- The answer that ended a listener comes right behind all it handed on. -/
theorem Kept.last_answer (kept : Kept moves l) (fed : Feeds stream moves)
    (ended : l.phase = .ended state) (all : l.taken = l.spawned) {a : StreamAnswer}
    (last : (ListenerPhase.ended state).lastAnswer = [a]) :
    stream l.spawned.length = some a := by
  have length : l.spawned.length = (l.spawned.map StreamAnswer.delivery).length :=
    (List.length_map _).symm
  refine fed _ a ?_
  rw [kept.answers, ended, last, all, length]
  exact List.getElem?_concat_length

theorem Kept.returned (kept : Kept moves l) (fed : Feeds stream moves)
    (ended : l.phase = .ended state) : Returned stream moves l state := by
  have finished : state = .unregistered ↔ .finish ∈ moves := by
    rw [← ending_mem_answersOf, kept.mem_answers ended .ending nofun]
    cases state <;> simp [ListenerPhase.lastAnswer]
  have failed : state = .shutDown ↔ .fail ∈ moves := by
    rw [← failure_mem_answersOf, kept.mem_answers ended .failure nofun]
    cases state <;> simp [ListenerPhase.lastAnswer]
  rcases kept.ended ended with ⟨rfl, saw, once, rest, all, few⟩ | ⟨exit, unseen, none, all⟩
  · exact ⟨fun absent => absurd saw.cancel_mem absent, .inr (.inr rfl), finished, failed,
      iff_of_true rfl saw, once, rest, all, few, fun _ => rfl⟩
  · have other : state ≠ .cancelled := by rcases exit with rfl | rfl <;> exact nofun
    have complete : stream l.spawned.length = some .failure
        ∨ stream l.spawned.length = some .ending := by
      rcases exit with rfl | rfl
      · exact .inl (kept.last_answer fed ended all rfl)
      · exact .inr (kept.last_answer fed ended all rfl)
    refine ⟨fun _ => complete, ?_, finished, failed, iff_of_false other unseen, ?_,
      [], all.trans (List.append_nil _).symm, Nat.zero_le _, fun some => absurd rfl some⟩
    · exact exit.symm.imp_right .inl
    · rw [none, if_neg other]

/-- Whatever the permits and the token do, as long as permits are given, a
listener hands on the first deliveries of its stream, in order and each once.
It comes back with the state that its exit calls for, with one request to end
the consumer if it saw its token cancelled and none otherwise, and with one
delivery left at most, which only a cancelled one has. -/
theorem spawns_prefix_of_stream (ran : Ran moves l) (fed : Feeds stream moves)
    (given : .close ∉ moves) :
    (∀ i d, l.spawned[i]? = some d → stream i = some (.delivery d))
      ∧ ∀ state, l.phase = .ended state → Returned stream moves l state := by
  have kept := ran.kept given
  refine ⟨?_, fun state ended => kept.returned fed ended⟩
  intro i d found
  obtain ⟨later, answers⟩ := kept.answers_spawned
  have handed : (l.spawned.map StreamAnswer.delivery)[i]? = some (.delivery d) := by
    rw [List.getElem?_map, found]
    rfl
  refine fed i _ ?_
  rw [answers, List.getElem?_append_left (List.getElem?_eq_some_iff.1 handed).1]
  exact handed

/-- A run goes on. -/
theorem Ran.foldlM {before : List ListenerMove} (ran : Ran before l)
    (goesOn : moves.foldlM step? l = some l') : Ran (before ++ moves) l' := by
  induction moves generalizing before l with
  | nil =>
      cases goesOn
      rw [List.append_nil]
      exact ran
  | cons m rest ih =>
      rw [List.foldlM_cons] at goesOn
      obtain ⟨l₁, moved, goesOn⟩ := Option.bind_eq_some_iff.1 goesOn
      rw [List.append_cons]
      exact ih (ran.step m moved) goesOn

/-- A stream that gives two deliveries and then nothing any more. -/
def twoDeliveries : Nat → Option StreamAnswer
  | 0 => some (.delivery { tag := 1, payload := [] })
  | 1 => some (.delivery { tag := 2, payload := [] })
  | _ => none

/-- The token is cancelled while the second delivery waits for its permit. -/
def cancelledInWait : List ListenerMove := [
  .look, .take { tag := 1, payload := [] }, .look, .grant, .spawn,
  .look, .take { tag := 2, payload := [] }, .look, .cancel, .look, .look]

theorem spawns_prefix_of_twoDeliveries :
    ∃ l, Ran cancelledInWait l ∧ Feeds twoDeliveries cancelledInWait
      ∧ .close ∉ cancelledInWait ∧ l.spawned.map (·.tag) = [1]
      ∧ (∀ i d, l.spawned[i]? = some d → twoDeliveries i = some (.delivery d))
      ∧ Returned twoDeliveries cancelledInWait l .cancelled := by
  have ran : Ran cancelledInWait _ := Ran.start.foldlM rfl
  have fed : Feeds twoDeliveries cancelledInWait := by
    intro i a found
    match i with
    | 0 | 1 => exact found
    | _ + 2 => cases found
  have given : .close ∉ cancelledInWait := by simp [cancelledInWait]
  obtain ⟨spawned, returned⟩ := spawns_prefix_of_stream ran fed given
  exact ⟨_, ran, fed, given, rfl, spawned, returned _ rfl⟩

end Listener

end Courier
