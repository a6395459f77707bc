/-
What holds of a listener and the tasks of its deliveries between any two
moves (`Reader.Sound`).

- A permit is assigned to it only while it waits for one.
- Its tasks are those of the deliveries it handed on, in order; with the one
  it has at hand, these are some of the deliveries it was given, in the order
  in which they came.
- What a task has come to is the consumption of its delivery.
- For each task the call that settles its delivery was made once if the task
  is past it, and not at all otherwise. Nothing else was settled.

Each field is kept by the turn of a reader on its own account, and a new
reader has nothing yet.
-/
import Courier.Proofs.Intake.Moves

namespace Courier

/-- The delivery that a listener has at hand. -/
def ListenerPhase.atHand : ListenerPhase → List Delivery
  | holding d | admitting d | admitted d => [d]
  | looking | asking | ended _ => []

/-- What a listener handed on, with what it has at hand, it was given. -/
def Listener.IsGiven (l : Listener) : Prop := (l.spawned ++ l.phase.atHand).Sublist l.taken

/-- The consumption that a task is at. -/
def DeliveryPhase.consumption? : DeliveryPhase → Option Consumption
  | waiting => none
  | handling c | settling c | leaving c | ended c => some c

/-- The consumption of a delivery by a reader, whatever it has handled before
and whether it was cancelled. -/
def Reader.Consumes (r : Reader) (d : Delivery) (c : Consumption) : Prop :=
  ∃ calls cancelled, c = (r.subscription.consume r.queue calls d cancelled).1

/-- The calls of a reader for one of its tasks. -/
def Reader.issuedFor (r : Reader) (k : Nat) : List Settlement :=
  (r.issued.filter (·.1 == k)).map (·.2)

/-- What holds of a reader between any two moves. -/
structure Reader.Sound (r : Reader) : Prop where
  waits : r.assigned = true → ∃ d, r.listener.phase = .admitting d
  tasks : r.tasks.map (·.delivery) = r.listener.spawned
  given : r.listener.IsGiven
  consumed : ∀ (k : Nat) (x : DeliveryTask) (c : Consumption), r.tasks[k]? = some x →
    x.phase.consumption? = some c → r.Consumes x.delivery c
  issued : ∀ k, r.issuedFor k = (r.tasks[k]?.bind (·.issued?)).toList

variable {l l' : Listener} {r r' : Reader} {m : ListenerMove} {cancelled : Bool} {p p' k : Nat}

-- ========================================================== the listener

/-- A listener that gives up the delivery at hand was given the others. -/
theorem Listener.IsGiven.spawned (given : l.IsGiven) : l.spawned.Sublist l.taken :=
  (List.sublist_append_left _ _).trans given

/-- A listener that was given its deliveries in order is so after its turn. -/
theorem Listener.IsGiven.turn (given : l.IsGiven) (turn : l.Turn m l') : l'.IsGiven := by
  have spawned := given.spawned
  have dropped : (l.spawned ++ []).Sublist l.taken := by
    rw [List.append_nil]
    exact spawned
  unfold IsGiven at given
  cases turn with
  | cancels => exact given
  | asks phase unseen => exact dropped
  | stops phase seen => exact dropped
  | leaves phase seen => exact dropped
  | seeks phase unseen =>
      rw [phase] at given
      exact given
  | pends phase => exact dropped
  | takes phase => exact spawned.append (List.Sublist.refl _)
  | fails phase => exact dropped
  | finishes phase => exact dropped
  | granted phase =>
      rw [phase] at given
      exact given
  | spawns phase =>
      rw [phase] at given
      show (_ ++ [_] ++ []).Sublist _
      rw [List.append_nil]
      exact given
  | closes phase => exact dropped

/-- A listener without a delivery to get a permit for has none assigned. -/
theorem Reader.Sound.unassigned (sound : r.Sound)
    (elsewhere : ∀ d, r.listener.phase ≠ .admitting d) : r.assigned = false := by
  cases assigned : r.assigned with
  | false => rfl
  | true =>
      obtain ⟨d, phase⟩ := sound.waits assigned
      exact absurd phase (elsewhere d)

/-- A listener that deals with its stream has no permit to wait for. -/
theorem Listener.Turn.asking_of_isAtStream (turn : l.Turn m l') (atStream : m.IsAtStream) :
    l.phase = .asking := by
  cases atStream with
  | pend =>
      cases turn with
      | pends phase => exact phase
  | take d =>
      cases turn with
      | takes phase => exact phase
  | fail =>
      cases turn with
      | fails phase => exact phase
  | finish =>
      cases turn with
      | finishes phase => exact phase

/-- A listener hands nothing on unless it has a permit. -/
theorem Listener.Turn.spawned (turn : l.Turn m l') (other : m ≠ .spawn) :
    l'.spawned = l.spawned := by
  cases turn with
  | spawns phase => exact absurd rfl other
  | _ => rfl

theorem ListenerMove.IsAtStream.ne_spawn (atStream : m.IsAtStream) : m ≠ .spawn := by
  rintro rfl
  cases atStream

-- ============================================================= the tasks

theorem Reader.task_setPhase (r : Reader) (k j : Nat) (φ : DeliveryPhase) :
    (r.setPhase k φ).tasks[j]?
      = (r.tasks[j]?).map fun x => if k = j then { x with phase := φ } else x := by
  unfold setPhase
  rw [List.getElem?_modify]
  rfl

theorem Reader.deliveries_setPhase (r : Reader) (k : Nat) (φ : DeliveryPhase) :
    (r.setPhase k φ).tasks.map (·.delivery) = r.tasks.map (·.delivery) :=
  map_modify_of_eq DeliveryTask.delivery r.tasks k _ fun _ => rfl

/-- The call of a task that comes to a new phase: made if it was made then,
and as it was for every other task. -/
theorem Reader.issued?_setPhase {d : Delivery} {φ : DeliveryPhase}
    (task : r.tasks[k]? = some ⟨d, φ⟩) (φ' : DeliveryPhase) (j : Nat) :
    (r.setPhase k φ').tasks[j]?.bind (·.issued?)
      = if k = j then DeliveryTask.issued? ⟨d, φ'⟩ else r.tasks[j]?.bind (·.issued?) := by
  rw [r.task_setPhase]
  split
  next same =>
    subst same
    rw [task]
    rfl
  next other => rw [Option.map_id']

/-- A task that comes to a new phase with a consumption of its delivery. -/
theorem Reader.Sound.consumed_setPhase {d : Delivery} {φ φ' : DeliveryPhase} (sound : r.Sound)
    (task : r.tasks[k]? = some ⟨d, φ⟩)
    (consumes : ∀ c, φ'.consumption? = some c → r.Consumes d c) (j : Nat) (x : DeliveryTask)
    (c : Consumption) (found : (r.setPhase k φ').tasks[j]? = some x)
    (known : x.phase.consumption? = some c) : r.Consumes x.delivery c := by
  obtain ⟨y, old, rfl⟩ := of_getElem?_modify found
  by_cases same : k = j
  · subst same
    rw [task] at old
    cases old
    rw [if_pos rfl] at known ⊢
    exact consumes c known
  · rw [if_neg same] at known ⊢
    exact sound.consumed j y c old known

/-- A task that comes to a new phase without making its call. -/
theorem Reader.Sound.setPhase {d : Delivery} {φ φ' : DeliveryPhase} (sound : r.Sound)
    (task : r.tasks[k]? = some ⟨d, φ⟩)
    (consumes : ∀ c, φ'.consumption? = some c → r.Consumes d c)
    (same : DeliveryTask.issued? ⟨d, φ'⟩ = DeliveryTask.issued? ⟨d, φ⟩) :
    (r.setPhase k φ').Sound := by
  refine ⟨sound.waits, ?_, sound.given, sound.consumed_setPhase task consumes, ?_⟩
  · rw [r.deliveries_setPhase]
    exact sound.tasks
  · intro j
    rw [Reader.issued?_setPhase task]
    show r.issuedFor j = _
    rw [sound.issued j]
    split
    next own =>
      subst own
      rw [task, same]
      rfl
    next => rfl

/-- A task settles its own delivery, and by one call. -/
theorem Reader.Sound.settle {d : Delivery} {c : Consumption} (sound : r.Sound)
    (task : r.tasks[k]? = some ⟨d, .settling c⟩) :
    ((r.setPhase k (.leaving c)).issue k c.settled.settlement).Sound := by
  have consumes : ∀ c', (DeliveryPhase.leaving c).consumption? = some c' → r.Consumes d c' :=
    fun c' same => sound.consumed k _ c' task same
  refine ⟨sound.waits, ?_, sound.given, sound.consumed_setPhase task consumes, ?_⟩
  · exact (r.deliveries_setPhase k _).trans sound.tasks
  · intro j
    have before := sound.issued j
    show ((r.issued ++ [(k, c.settled.settlement)]).filter (·.1 == j)).map (·.2)
      = ((r.setPhase k (.leaving c)).tasks[j]?.bind (·.issued?)).toList
    rw [Reader.issued?_setPhase task, List.filter_append, List.map_append]
    by_cases own : k = j
    · subst own
      rw [task] at before
      rw [show (r.issued.filter (·.1 == k)).map (·.2) = [] from before]
      simp [DeliveryTask.issued?]
    · rw [if_neg own, show (r.issued.filter (·.1 == j)).map (·.2) = _ from before]
      simp [own]

/-- A delivery that is handed on has a task of its own from then on. -/
theorem Reader.Sound.spawn {d : Delivery} (sound : r.Sound)
    (phase : r.listener.phase = .admitted d) (moved : r.listener.Turn .spawn l) :
    ({ r with listener := l }.addTask d).Sound := by
  have unassigned := sound.unassigned (by simp [phase])
  refine ⟨?_, ?_, sound.given.turn moved, ?_, ?_⟩
  · intro assigned
    rw [show r.assigned = true from assigned] at unassigned
    cases unassigned
  · show (r.tasks ++ [({ delivery := d } : DeliveryTask)]).map (·.delivery) = l.spawned
    rw [List.map_append, sound.tasks]
    cases moved with
    | spawns phase' =>
        rw [phase] at phase'
        cases phase'
        rfl
  · intro j x c found known
    rcases of_getElem?_append found with old | ⟨-, rfl⟩
    · exact sound.consumed j x c old known
    · cases known
  · intro j
    show r.issuedFor j
      = ((r.tasks ++ [({ delivery := d } : DeliveryTask)])[j]?.bind (·.issued?)).toList
    rw [sound.issued j]
    cases found : r.tasks[j]? with
    | some x => rw [getElem?_append_of_some found]
    | none =>
        cases added : (r.tasks ++ [({ delivery := d } : DeliveryTask)])[j]? with
        | none => rfl
        | some x =>
            -- only the new task is found there, and it has not begun
            rcases of_getElem?_append added with old | ⟨-, rfl⟩
            · rw [found] at old
              cases old
            · rfl

-- ============================================================ every move

/-- Every turn of a reader keeps it sound. -/
theorem Reader.Sound.turn (sound : r.Sound) (turn : Reader.Turn cancelled r p r' p') :
    r'.Sound := by
  cases turn with
  | looks moved =>
      refine ⟨nofun, ?_, sound.given.turn moved, sound.consumed, sound.issued⟩
      exact sound.tasks.trans (moved.spawned nofun).symm
  | asks atStream moved =>
      refine ⟨?_, ?_, sound.given.turn moved, sound.consumed, sound.issued⟩
      · intro assigned
        obtain ⟨d, phase⟩ := sound.waits assigned
        rw [moved.asking_of_isAtStream atStream] at phase
        cases phase
      · exact sound.tasks.trans (moved.spawned atStream.ne_spawn).symm
  | assigned phase _ =>
      exact ⟨fun _ => ⟨_, phase⟩, sound.tasks, sound.given, sound.consumed, sound.issued⟩
  | granted _ moved =>
      refine ⟨nofun, ?_, sound.given.turn moved, sound.consumed, sound.issued⟩
      exact sound.tasks.trans (moved.spawned nofun).symm
  | spawns phase moved => exact sound.spawn phase moved
  | @begins _ k d c calls task made =>
      have consumes : ∀ c', (DeliveryPhase.handling c).consumption? = some c' →
          r.Consumes d c' := by
        intro c' same
        cases same
        exact ⟨r.calls, cancelled, by rw [made]⟩
      have same : DeliveryTask.issued? ⟨d, .handling c⟩ = DeliveryTask.issued? ⟨d, .waiting⟩ := rfl
      have begun := sound.setPhase task consumes same
      exact ⟨begun.waits, begun.tasks, begun.given, begun.consumed, begun.issued⟩
  | ends task => exact sound.setPhase task (fun c same => sound.consumed _ _ c task same) rfl
  | settles task => exact sound.settle task
  | leaves task => exact sound.setPhase task (fun c same => sound.consumed _ _ c task same) rfl

/-- A reader with nothing yet. -/
theorem Reader.sound_fresh (s : Subscription) (queue : String) (prefetch : Option UInt16)
    (cancelled : Bool) :
    ({ subscription := s, queue := queue, prefetch := prefetch,
       listener := { cancelled := cancelled } } : Reader).Sound := by
  refine ⟨nofun, rfl, List.Sublist.refl _, ?_, fun _ => rfl⟩
  intro k x c found
  cases found

/-- A reader does not notice the cancellation before its listener looks. -/
theorem Reader.Sound.cancel (sound : r.Sound) :
    { r with listener := r.listener.step .cancel }.Sound :=
  ⟨sound.waits, sound.tasks, sound.given, sound.consumed, sound.issued⟩

namespace Intake

variable {t t' : Intake} {n : Nat} {m : IntakeMove}

/-- All readers of an intake are sound. -/
def AllSound (t : Intake) : Prop := ∀ r ∈ t.readers, r.Sound

theorem AllSound.passed {r r' : Reader} (sound : t.AllSound) (passed : Passed t t' n r r') :
    t'.AllSound := by
  intro q member
  rw [passed.readers] at member
  rcases List.mem_or_eq_of_mem_set member with old | rfl
  · exact sound q old
  · exact (sound r (List.mem_of_getElem? passed.before)).turn passed.turn

/-- Every move of an intake keeps its readers sound. -/
theorem AllSound.step (sound : t.AllSound) (step : t.step? m = some t') : t'.AllSound := by
  rcases step_cases step with ⟨n, r, r', passed⟩ | ⟨p, rfl⟩ | ⟨s, queue, rfl⟩ | rfl
  · exact sound.passed passed
  · exact sound
  · intro q member
    rcases List.mem_append.1 member with old | new
    · exact sound q old
    · obtain rfl := List.mem_singleton.1 new
      exact Reader.sound_fresh ..
  · intro q member
    obtain ⟨r, old, rfl⟩ := List.mem_map.1 member
    exact (sound r old).cancel

/-- In every intake that can come about all readers are sound. -/
theorem allSound_of_reachable {ceiling : Nat} (reachable : Reachable ceiling t) : t.AllSound :=
  reachable.keeps (I := AllSound) (fun _ member => nomatch member)
    fun _ _ _ sound step => sound.step step

end Intake

end Courier
