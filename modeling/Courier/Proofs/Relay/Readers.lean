/-
One reader of a relay over time. It is known by the name of its instance and
its number, and is never taken away: a move lets it be, lets it go on, or
cancels its token, and a job of a startup pass may add one with nothing yet
(`ReaderStep`, `reader_step`).

Two things follow for whole runs.

- What a reader was given and has handed on stays, in order, and so do the
  calls it has made (`Reader.Extends`).
- A reader that is quiet, which has ended or is about to see that it was
  cancelled, and whose tasks have all ended, is given nothing and hands
  nothing on any more (`Reader.IsQuiet`, `Reader.Still`).
-/
import Courier.Proofs.Relay.Passes

namespace Courier

/-- A listener forgets neither what it took nor what it handed on. -/
theorem Listener.Turn.grows {l l' : Listener} {m : ListenerMove} (turn : l.Turn m l') :
    l.taken <+: l'.taken ∧ l.spawned <+: l'.spawned := by
  cases turn with
  | takes phase => exact ⟨List.prefix_append _ _, List.prefix_refl _⟩
  | spawns phase => exact ⟨List.prefix_refl _, List.prefix_append _ _⟩
  | _ => exact ⟨List.prefix_refl _, List.prefix_refl _⟩

/-- Whether a listener is in the middle of a round. -/
def ListenerPhase.isAtWork : ListenerPhase → Bool
  | asking | holding _ | admitting _ | admitted _ => true
  | looking | ended _ => false

/-- What may become of a reader in one move; there may be none before. -/
inductive ReaderStep (cancelled : Bool) : Option Reader → Option Reader → Prop where
  | same (q : Option Reader) : ReaderStep cancelled q q
  | turn {q q' : Reader} {p p' : Nat} : Reader.Turn cancelled q p q' p' →
    ReaderStep cancelled (some q) (some q')
  | cancels (q : Reader) :
    ReaderStep cancelled (some q) (some { q with listener := q.listener.step .cancel })
  | begins (s : Subscription) (queue : String) (prefetch : Option UInt16) :
    ReaderStep cancelled none (some {
      subscription := s
      queue := queue
      prefetch := prefetch
      listener := { cancelled := cancelled } })

namespace Reader

variable {q q' q'' : Reader} {cancelled : Bool} {p p' : Nat}

-- ================================================================ growth

/-- What was given, handed on and settled before still is. -/
structure Extends (q q' : Reader) : Prop where
  taken : q.listener.taken <+: q'.listener.taken
  spawned : q.listener.spawned <+: q'.listener.spawned
  issued : q.issued <+: q'.issued

theorem Extends.refl (q : Reader) : q.Extends q :=
  ⟨List.prefix_refl _, List.prefix_refl _, List.prefix_refl _⟩

theorem Extends.trans (first : q.Extends q') (second : q'.Extends q'') : q.Extends q'' :=
  ⟨first.taken.trans second.taken, first.spawned.trans second.spawned,
    first.issued.trans second.issued⟩

/-- A reader only adds to what it has, whatever its turn. -/
theorem Turn.extends (turn : Turn cancelled q p q' p') : q.Extends q' := by
  cases turn with
  | looks moved => exact ⟨moved.grows.1, moved.grows.2, List.prefix_refl _⟩
  | asks _ moved => exact ⟨moved.grows.1, moved.grows.2, List.prefix_refl _⟩
  | granted _ moved => exact ⟨moved.grows.1, moved.grows.2, List.prefix_refl _⟩
  | spawns _ moved => exact ⟨moved.grows.1, moved.grows.2, List.prefix_refl _⟩
  | settles _ => exact ⟨List.prefix_refl _, List.prefix_refl _, List.prefix_append _ _⟩
  | _ => exact ⟨List.prefix_refl _, List.prefix_refl _, List.prefix_refl _⟩

-- ================================================================= quiet

/-- Nothing goes on at a reader, and nothing will. -/
structure IsQuiet (q : Reader) : Prop where
  tasks : ∀ x ∈ q.tasks, x.isEnded = true
  listener : q.listener.ended?.isSome = true
    ∨ q.listener.phase = .looking ∧ q.listener.cancelled = true

/-- Nothing happened at a reader. -/
structure Still (q q' : Reader) : Prop where
  taken : q'.listener.taken = q.listener.taken
  spawned : q'.listener.spawned = q.listener.spawned
  tasks : q'.tasks = q.tasks
  issued : q'.issued = q.issued

theorem Still.refl (q : Reader) : q.Still q := ⟨rfl, rfl, rfl, rfl⟩

theorem Still.trans (first : q.Still q') (second : q'.Still q'') : q.Still q'' :=
  ⟨second.taken.trans first.taken, second.spawned.trans first.spawned,
    second.tasks.trans first.tasks, second.issued.trans first.issued⟩

/-- An idle reader has nothing left to do, so it is quiet. -/
theorem isQuiet_of_isIdle (idle : q.isIdle = true) : q.IsQuiet := by
  unfold isIdle at idle
  rw [Bool.and_eq_true, List.all_eq_true] at idle
  exact ⟨idle.2, .inl idle.1⟩

/-- A quiet listener has nothing at hand, and does not ask for anything. -/
theorem IsQuiet.notAtWork {φ : ListenerPhase} (quiet : q.IsQuiet) (phase : q.listener.phase = φ) :
    φ.isAtWork = false := by
  subst phase
  rcases quiet.listener with ended | ⟨looking, -⟩
  · unfold Listener.ended? at ended
    split at ended
    next state phase => exact phase ▸ rfl
    next => cases ended
  · exact looking ▸ rfl

/-- All that a quiet listener does is to end. -/
theorem IsQuiet.looks {l : Listener} (quiet : q.IsQuiet) (moved : q.listener.Turn .look l) :
    l = q.listener.stop .cancelled := by
  cases moved with
  | stops _ _ => rfl
  | asks looking unseen =>
      rcases quiet.listener with ended | ⟨-, seen⟩
      · rw [Listener.ended?, looking] at ended
        cases ended
      · rw [unseen] at seen
        cases seen
  | leaves busy _ => rcases busy with busy | busy <;> cases quiet.notAtWork busy
  | seeks busy _ => cases quiet.notAtWork busy

/-- A quiet reader stays as it is, but for the end of its listener. -/
theorem IsQuiet.turn (quiet : q.IsQuiet) (turn : Turn cancelled q p q' p') :
    q'.IsQuiet ∧ q.Still q' := by
  have ended : ∀ {k : Nat} {x : DeliveryTask}, q.tasks[k]? = some x → x.isEnded = true :=
    fun task => quiet.tasks _ (List.mem_of_getElem? task)
  cases turn with
  | looks moved =>
      obtain rfl := quiet.looks moved
      exact ⟨⟨quiet.tasks, .inl rfl⟩, ⟨rfl, rfl, rfl, rfl⟩⟩
  | asks atStream moved => cases quiet.notAtWork (moved.asking_of_isAtStream atStream)
  | assigned busy _ => cases quiet.notAtWork busy
  | granted _ moved =>
      cases moved with
      | granted busy => cases quiet.notAtWork busy
  | spawns busy _ => cases quiet.notAtWork busy
  | begins task _ => cases ended task
  | ends task => cases ended task
  | settles task => cases ended task
  | leaves task => cases ended task

/-- Cancelling disturbs nobody who is quiet. -/
theorem IsQuiet.cancel (quiet : q.IsQuiet) :
    { q with listener := q.listener.step .cancel }.IsQuiet :=
  ⟨quiet.tasks, quiet.listener.imp id fun ⟨looking, _⟩ => ⟨looking, rfl⟩⟩

end Reader

/-- Nothing happened at a reader since it began. -/
structure Reader.IsUntouched (q : Reader) : Prop where
  taken : q.listener.taken = []
  spawned : q.listener.spawned = []
  tasks : q.tasks = []
  issued : q.issued = []

/-- Nothing happened at a reader that may have begun in the meantime. -/
def Reader.StillFrom (q? : Option Reader) (q' : Reader) : Prop :=
  match q? with
  | some q => q.Still q'
  | none => q'.IsUntouched

theorem Reader.StillFrom.trans {q? : Option Reader} {q' q'' : Reader} (first : StillFrom q? q')
    (second : q'.Still q'') : StillFrom q? q'' := by
  cases q? with
  | some q => exact Still.trans first second
  | none =>
      exact ⟨second.taken.trans first.taken, second.spawned.trans first.spawned,
        second.tasks.trans first.tasks, second.issued.trans first.issued⟩

-- ============================================================= one move

namespace ReaderStep

variable {q? q'? : Option Reader} {q q' : Reader} {cancelled : Bool}

/-- A reader stays, and keeps what it has. -/
theorem kept (step : ReaderStep cancelled (some q) q'?) : ∃ q', q'? = some q' ∧ q.Extends q' := by
  cases step with
  | same => exact ⟨q, rfl, .refl q⟩
  | turn turn => exact ⟨_, rfl, turn.extends⟩
  | cancels => exact ⟨_, rfl, List.prefix_refl _, List.prefix_refl _, List.prefix_refl _⟩

/-- With the token cancelled, all is quiet where it was, and where a reader
begins. -/
theorem quiet (step : ReaderStep true q? (some q')) (quiet : ∀ q, q? = some q → q.IsQuiet) :
    q'.IsQuiet ∧ Reader.StillFrom q? q' := by
  cases step with
  | same => exact ⟨quiet q' rfl, .refl q'⟩
  | turn turn => exact (quiet _ rfl).turn turn
  | cancels q => exact ⟨(quiet q rfl).cancel, rfl, rfl, rfl, rfl⟩
  | begins s queue prefetch =>
      exact ⟨⟨(fun _ member => nomatch member), .inr ⟨rfl, rfl⟩⟩, rfl, rfl, rfl, rfl⟩

end ReaderStep

namespace Relay

variable {b : Blueprint} {r r' : Relay} {m : RelayMove} {name : String} {n : Nat}

/-- Reader `n` of an instance. -/
def reader? (r : Relay) (name : String) (n : Nat) : Option Reader :=
  (KeyedList.get? name r.intakes).bind (·.readers[n]?)

/-- What an intake that was put in the place of another one means for a reader. -/
theorem reader?_put {t : Intake} {other : String}
    (intakes : r'.intakes = KeyedList.put other t r.intakes) :
    r'.reader? name n = if name = other then t.readers[n]? else r.reader? name n := by
  unfold reader?
  rw [intakes, KeyedList.get?_put]
  split <;> rfl

/-- An instance that is about to be connected has no reader. -/
theorem Apart.not_begun {k j : Nat} {i : Instance} {rest : List Job} (apart : Apart r)
    (served : Served r) (did : Did r r' k ⟨i, .connect⟩ rest j) :
    KeyedList.get? i.name r.intakes = none := by
  cases found : KeyedList.get? i.name r.intakes with
  | none => rfl
  | some t =>
      have entry := KeyedList.entry_of_get? found
      obtain ⟨-, i', owner, named, c, consumer, -⟩ := served _ _ entry
      obtain ⟨fresh, -⟩ :=
        apart _ _ entry i' owner named c consumer _ (.inr ⟨_, _, did.before⟩)
      exact absurd List.mem_cons_self fresh

/-- A new reader is the last one, and has the token of its intake. -/
theorem readerStep_consume (t : Intake) (s : Subscription) (queue : String) (n : Nat) :
    ReaderStep t.cancelled t.readers[n]? (t.consume s queue).readers[n]? := by
  show ReaderStep t.cancelled t.readers[n]? (t.readers ++ [_])[n]?
  rcases Nat.lt_trichotomy n t.readers.length with old | rfl | beyond
  · rw [List.getElem?_append_left old]
    exact .same _
  · rw [List.getElem?_concat_length, List.getElem?_eq_none (Nat.le_refl _)]
    exact .begins s queue _
  · rw [List.getElem?_eq_none (Nat.le_of_lt beyond), List.getElem?_eq_none]
    · exact .same _
    · rw [List.length_append]
      exact beyond

/-- What a move does to a reader. -/
theorem reader_step (step : r.step? m = some r') (served : Served r) (apart : Apart r)
    (name : String) (n : Nat) :
    ReaderStep r.cancelled (r.reader? name n) (r'.reader? name n) := by
  have token : ∀ {name : String} {t : Intake}, KeyedList.get? name r.intakes = some t →
      t.cancelled = r.cancelled := fun found => (served _ _ (KeyedList.entry_of_get? found)).1
  cases intakes_step step with
  | same intakes _ =>
      unfold reader?
      rw [intakes]
      exact .same _
  | @passed other t t' _ k q q' found _ passed intakes _ =>
      rw [reader?_put intakes]
      split
      next same =>
        subst same
        unfold reader?
        rw [found, passed.readers, Option.bind_some]
        by_cases own : n = k
        · rw [own, getElem?_set_self_of_some passed.before, passed.before, ← token found]
          exact .turn passed.turn
        · rw [List.getElem?_set_ne (Ne.symm own)]
          exact .same _
      next => exact .same _
  | cancels intakes _ =>
      unfold reader?
      rw [intakes, KeyedList.get?_map]
      cases KeyedList.get? name r.intakes with
      | none => exact .same _
      | some t =>
          show ReaderStep r.cancelled t.readers[n]? (t.readers.map _)[n]?
          rw [List.getElem?_map]
          cases t.readers[n]? with
          | none => exact .same _
          | some q => exact .cancels q
  | connects did intakes _ =>
      rw [reader?_put intakes]
      split
      next same =>
        subst same
        unfold reader?
        rw [apart.not_begun served did]
        exact .same _
      next => exact .same _
  | begins did found intakes _ =>
      rw [reader?_put intakes]
      split
      next same =>
        subst same
        unfold reader?
        rw [found, ← token found]
        exact readerStep_consume _ _ _ n
      next => exact .same _

-- ============================================================ whole runs

variable {drafts : List InstanceDraft}

/-- In every relay that can come about all readers are sound. -/
theorem sound_of_reader? {q : Reader} (built : Blueprint.build drafts = .ok b)
    (reachable : Reachable b r) (found : r.reader? name n = some q) : q.Sound := by
  obtain ⟨t, intake, member⟩ := Option.bind_eq_some_iff.1 found
  obtain ⟨-, i, -, -, c, -, serves⟩ := served_of_reachable reachable (Blueprint.names_nodup built)
    name t (KeyedList.entry_of_get? intake)
  exact Intake.allSound_of_reachable serves.reachable q (List.mem_of_getElem? member)

/-- No reader is lost, nor anything of it. -/
theorem Leads.kept {q : Reader} (built : Blueprint.build drafts = .ok b)
    (reachable : Reachable b r) (leads : Leads r r') (found : r.reader? name n = some q) :
    ∃ q', r'.reader? name n = some q' ∧ q.Extends q' := by
  have names := Blueprint.names_nodup built
  refine leads.keeps (I := fun r' => ∃ q', r'.reader? name n = some q' ∧ q.Extends q') reachable
    ⟨q, found, .refl q⟩ ?_
  rintro p p' m reachable ⟨q', found, grown⟩ step
  have moved := reader_step step (served_of_reachable reachable names)
    (apart_of_reachable reachable names) name n
  rw [found] at moved
  obtain ⟨q'', found, more⟩ := moved.kept
  exact ⟨q'', found, grown.trans more⟩

/-- The token is cancelled, and nothing goes on at any reader. -/
structure Quiet (r : Relay) : Prop where
  cancelled : r.cancelled = true
  readers : ∀ name n q, r.reader? name n = some q → q.IsQuiet

/-- Once the token is cancelled, a relay that is idle stays so. -/
theorem quiet_of_isIdle (cancelled : r.cancelled = true) (idle : r.isIdle = true) : Quiet r := by
  refine ⟨cancelled, ?_⟩
  intro name n q found
  obtain ⟨t, intake, member⟩ := Option.bind_eq_some_iff.1 found
  have idle := List.all_eq_true.1 idle _ (KeyedList.entry_of_get? intake)
  exact Reader.isQuiet_of_isIdle (List.all_eq_true.1 idle _ (List.mem_of_getElem? member))

/-- A cancelled token stays cancelled. -/
theorem cancelled_step (step : r.step? m = some r') (cancelled : r.cancelled = true) :
    r'.cancelled = true := by
  cases intakes_step step with
  | same _ same => exact same.trans cancelled
  | passed _ _ _ _ same => exact same.trans cancelled
  | cancels _ now => exact now
  | connects _ _ same => exact same.trans cancelled
  | begins _ _ _ same => exact same.trans cancelled

/-- Where all is quiet it stays so, whatever begins. -/
theorem Quiet.leads (quiet : Quiet r) (built : Blueprint.build drafts = .ok b)
    (reachable : Reachable b r) (leads : Leads r r') :
    Quiet r' ∧ ∀ name n q', r'.reader? name n = some q' →
      Reader.StillFrom (r.reader? name n) q' := by
  have names := Blueprint.names_nodup built
  let I := fun p => Leads r p ∧ Quiet p ∧ ∀ name n q', p.reader? name n = some q' →
    Reader.StillFrom (r.reader? name n) q'
  suffices all : I r' from all.2
  refine leads.keeps reachable ⟨.refl, quiet, ?_⟩ ?_
  · intro name n q found
    rw [found]
    exact .refl q
  · rintro p p' m between ⟨leads, ⟨cancelled, quiet⟩, still⟩ step
    have one : ∀ name n q', p'.reader? name n = some q' →
        q'.IsQuiet ∧ Reader.StillFrom (r.reader? name n) q' := by
      intro name n q' found
      have moved := reader_step step (served_of_reachable between names)
        (apart_of_reachable between names) name n
      rw [cancelled, found] at moved
      obtain ⟨quiet', last⟩ := moved.quiet (quiet name n)
      refine ⟨quiet', ?_⟩
      cases before : p.reader? name n with
      | some q =>
          rw [before] at last
          exact (still name n q before).trans last
      | none =>
          rw [before] at last
          cases first : r.reader? name n with
          | none => exact last
          | some q =>
              -- no reader is lost, so this one did not begin just now
              obtain ⟨q', there, -⟩ := leads.kept built reachable first
              rw [before] at there
              cases there
    exact ⟨leads.tail ⟨m, step⟩, ⟨cancelled_step step cancelled,
      fun name n q' found => (one name n q' found).1⟩,
      fun name n q' found => (one name n q' found).2⟩

end Relay

end Courier
