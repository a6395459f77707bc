/-
What a listener still hands on once its token was cancelled.

It looks at the token at the start of a round, and once more with a delivery
at hand. Behind that look the delivery waits for a permit, and where the
permit and the cancellation are both there, either may be taken; with the
permit nobody looks any more. So what passed the second look in time may be
handed on after the cancellation, and settled; nothing else is.

# The shape of the argument

Handed on since the cancellation and waiting now is only what waited then
(`Trails`). Every move keeps that, as only the second look lets a delivery
wait, and after the cancellation it does not.

For the other direction, a delivery that waits needs a permit. All permits are
accounted for (`permits_add_load`), and wherever one is, it can be brought
back: out of a task by the end of that task, out of another listener by its
look at the token, or by handing its own delivery on (`exists_hand_over`).
-/
import Courier.Proofs.Intake.Permits

namespace Courier

-- ===================================================== statement vocabulary

/-- The delivery of a listener that is past the second look at the token: it
waits for a permit, or has one. -/
def ListenerPhase.waits : ListenerPhase → List Delivery
  | admitting d | admitted d => [d]
  | looking | asking | holding _ | ended _ => []

/-- The listener with a number. One that is not there yet is as it will come. -/
def Intake.listenerAt (t : Intake) (n : Nat) : Listener :=
  match t.readers[n]? with
  | some r => r.listener
  | none => { cancelled := t.cancelled }

-- ============================================================ one listener

/-- A listener that was cancelled, compared with what it was at that moment:
`late` was handed on since then. -/
structure Listener.Trails (l₀ l : Listener) (late : List Delivery) : Prop where
  cancelled : l.cancelled = true
  spawned : l.spawned = l₀.spawned ++ late
  waited : (late ++ l.phase.waits).Sublist l₀.phase.waits

namespace Listener

variable {l₀ l l' : Listener} {m : ListenerMove} {late : List Delivery}

/-- Only the second look lets a delivery wait, and a cancelled listener drops
it there. -/
theorem Turn.waits (turn : l.Turn m l') (cancelled : l.cancelled = true) (other : m ≠ .spawn) :
    l'.phase.waits.Sublist l.phase.waits := by
  cases turn with
  | cancels => exact List.Sublist.refl _
  | asks _ unseen | seeks _ unseen =>
      rw [cancelled] at unseen
      cases unseen
  | granted phase =>
      rw [phase]
      exact List.Sublist.refl _
  | spawns => exact absurd rfl other
  | _ => exact List.nil_sublist _

theorem Turn.cancelled (turn : l.Turn m l') (cancelled : l.cancelled = true) :
    l'.cancelled = true := by
  cases turn with
  | cancels => rfl
  | _ => exact cancelled

/-- What is handed on by a move is what waited. -/
theorem Trails.turn (trails : Trails l₀ l late) (turn : l.Turn m l') :
    ∃ new, Trails l₀ l' (late ++ new) ∧ (new ≠ [] ↔ m = .spawn) := by
  have cancelled := turn.cancelled trails.cancelled
  by_cases spawn : m = .spawn
  · subst spawn
    cases turn with
    | @spawns d phase =>
        refine ⟨[d], ⟨cancelled, ?_, ?_⟩, iff_of_true nofun rfl⟩
        · show l.spawned ++ [d] = _
          rw [trails.spawned, List.append_assoc]
        · have waited := trails.waited
          rw [phase] at waited
          rw [List.append_assoc]
          exact waited
  · refine ⟨[], ⟨cancelled, ?_, ?_⟩, iff_of_false (fun some => some rfl) spawn⟩
    · rw [List.append_nil, turn.spawned spawn]
      exact trails.spawned
    · rw [List.append_nil]
      have fewer := turn.waits trails.cancelled spawn
      exact ((List.Sublist.refl late).append fewer).trans trails.waited

/-- A listener has a permit for what it hands on. -/
theorem Turn.admitted_of_spawn (turn : l.Turn .spawn l') : ∃ d, l.phase = .admitted d := by
  cases turn with
  | spawns phase => exact ⟨_, phase⟩

/-- A permit is taken by one move only. -/
theorem Turn.admitted {d : Delivery} (turn : l.Turn m l') (now : l'.phase = .admitted d)
    (other : m ≠ .grant) : l.phase = .admitted d := by
  cases turn with
  | cancels => exact now
  | granted => exact absurd rfl other
  | _ => cases now

end Listener

/-- What a listener settles is a delivery that it handed on. -/
theorem Reader.Sound.task_of_issued {r : Reader} {k : Nat} {call : Settlement} (sound : r.Sound)
    (issued : (k, call) ∈ r.issued) : k < r.listener.spawned.length := by
  have made : call ∈ r.issuedFor k :=
    List.mem_map.2 ⟨_, List.mem_filter.2 ⟨issued, beq_self_eq_true k⟩, rfl⟩
  rw [sound.issued k] at made
  rw [← sound.tasks, List.length_map]
  refine Nat.lt_of_not_le fun past => ?_
  rw [List.getElem?_eq_none past] at made
  cases made

-- ========================================================== all listeners

namespace Intake

variable {t t' : Intake} {m : IntakeMove} {moves : List IntakeMove} {n k : Nat} {r r' : Reader}

theorem listenerAt_of_some (reader : t.readers[n]? = some r) : t.listenerAt n = r.listener := by
  unfold listenerAt
  rw [reader]

/-- A change of one reader is seen at its number only. -/
theorem listenerAt_set (before : t.readers[k]? = some r)
    (readers : t'.readers = t.readers.set k r') (cancelled : t'.cancelled = t.cancelled)
    (n : Nat) : t'.listenerAt n = if n = k then r'.listener else t.listenerAt n := by
  split
  next same =>
    subst same
    exact listenerAt_of_some (readers ▸ getElem?_set_self_of_some before)
  next other =>
    unfold listenerAt
    rw [readers, List.getElem?_set_ne (Ne.symm other), cancelled]

theorem listenerAt_register (t : Intake) (s : Subscription) (queue : String) (n : Nat) :
    (t.register s queue).listenerAt n = t.listenerAt n := by
  unfold listenerAt register
  rcases Nat.lt_trichotomy n t.readers.length with before | rfl | after
  · rw [List.getElem?_append_left before]
  · rw [List.getElem?_concat_length, List.getElem?_eq_none (Nat.le_refl _)]
  · rw [List.getElem?_eq_none (Nat.le_of_lt after), List.getElem?_eq_none]
    rw [List.length_append]
    exact after

/-- All listeners are cancelled at once. -/
theorem listenerAt_cancel (t : Intake) (n : Nat) :
    t.cancel.listenerAt n = { t.listenerAt n with cancelled := true } := by
  unfold listenerAt cancel
  rw [List.getElem?_map]
  cases t.readers[n]? with
  | none => rfl
  | some r => rfl

theorem run_cons_iff : (m :: moves).foldlM step? t = some t'
    ↔ ∃ t₁, t.step? m = some t₁ ∧ moves.foldlM step? t₁ = some t' := by
  rw [List.foldlM_cons]
  exact Option.bind_eq_some_iff

/-- A listener that goes on makes the move it was asked for. -/
theorem listen_moves {lm : ListenerMove} (step : t.listen n lm = some t') :
    ∃ r r', t.readers[n]? = some r ∧ t'.readers = t.readers.set n r'
      ∧ t'.cancelled = t.cancelled ∧ r.listener.step? lm = some r'.listener := by
  unfold listen at step
  obtain ⟨r, before, step⟩ := Option.bind_eq_some_iff.1 step
  obtain ⟨l, moved, step⟩ := Option.bind_eq_some_iff.1 step
  refine ⟨r, ?_⟩
  cases lm with
  | cancel => cases step
  | close => cases step
  | grant =>
      simp only at step
      split at step
      next =>
        cases step
        exact ⟨_, before, rfl, rfl, moved⟩
      next => cases step
  | spawn =>
      cases Listener.turn_of_step moved with
      | spawns phase =>
          simp only [phase] at step
          cases step
          exact ⟨_, before, rfl, rfl, moved⟩
  | _ =>
      cases step
      exact ⟨_, before, rfl, rfl, moved⟩

theorem assign_moves (step : t.assign k = some t') :
    ∃ r, t.readers[k]? = some r ∧ t'.readers = t.readers.set k { r with assigned := true }
      ∧ t'.cancelled = t.cancelled := by
  unfold assign at step
  obtain ⟨r, before, step⟩ := Option.bind_eq_some_iff.1 step
  refine ⟨r, before, ?_⟩
  split at step
  · split at step
    · cases step
      exact ⟨rfl, rfl⟩
    · cases step
  · cases step

/-- A task goes on without its listener. -/
theorem work_moves {i : Nat} (step : t.work k i = some t') :
    ∃ r r', t.readers[k]? = some r ∧ t'.readers = t.readers.set k r'
      ∧ t'.cancelled = t.cancelled ∧ r'.listener = r.listener ∧ r'.assigned = r.assigned := by
  unfold work at step
  obtain ⟨r, before, step⟩ := Option.bind_eq_some_iff.1 step
  obtain ⟨⟨d, φ⟩, task, step⟩ := Option.bind_eq_some_iff.1 step
  cases φ with
  | ended c => cases step
  | _ =>
      cases step
      exact ⟨r, _, before, rfl, rfl, rfl, rfl⟩

/-- A move is one of the listener with a number, or it leaves that one alone,
but for the cancellation. -/
theorem turn_at (step : t.step? m = some t') (n : Nat) :
    (∃ lm, m = .listen n lm ∧ (t.listenerAt n).Turn lm (t'.listenerAt n))
      ∨ (∀ lm, m ≠ .listen n lm)
        ∧ ∃ cancelled, t'.listenerAt n = { t.listenerAt n with cancelled := cancelled }
          ∧ ((t.listenerAt n).cancelled = true → cancelled = true) := by
  have same (kept : t'.listenerAt n = t.listenerAt n) : ∃ cancelled,
      t'.listenerAt n = { t.listenerAt n with cancelled := cancelled }
        ∧ ((t.listenerAt n).cancelled = true → cancelled = true) := ⟨_, kept, id⟩
  cases m with
  | limit p =>
      cases step
      exact .inr ⟨nofun, same rfl⟩
  | register s queue =>
      cases step
      exact .inr ⟨nofun, same (listenerAt_register t s queue n)⟩
  | cancel =>
      cases step
      exact .inr ⟨nofun, true, listenerAt_cancel t n, fun _ => rfl⟩
  | assign k =>
      obtain ⟨r, before, readers, cancelled⟩ := assign_moves step
      refine .inr ⟨nofun, same ?_⟩
      rw [listenerAt_set before readers cancelled]
      split
      next own => rw [own, listenerAt_of_some before]
      next => rfl
  | work k i =>
      obtain ⟨r, r', before, readers, cancelled, listener, -⟩ := work_moves step
      refine .inr ⟨nofun, same ?_⟩
      rw [listenerAt_set before readers cancelled]
      split
      next own => rw [own, listenerAt_of_some before, listener]
      next => rfl
  | listen k lm =>
      obtain ⟨r, r', before, readers, cancelled, moved⟩ := listen_moves step
      have seen := listenerAt_set before readers cancelled n
      by_cases own : n = k
      · subst own
        rw [if_pos rfl] at seen
        refine .inl ⟨lm, rfl, ?_⟩
        rw [seen, listenerAt_of_some before]
        exact Listener.turn_of_step moved
      · rw [if_neg own] at seen
        refine .inr ⟨fun lm' asked => own ?_, same seen⟩
        cases asked
        rfl

open Listener (Trails)

/-- A run after the cancellation, told of one listener: what it hands on, and
by which moves. -/
theorem trails_run {l₀ : Listener} {late : List Delivery} (trails : Trails l₀ (t.listenerAt n) late)
    (run : moves.foldlM step? t = some t') :
    ∃ new, Trails l₀ (t'.listenerAt n) (late ++ new) ∧ (new ≠ [] ↔ .listen n .spawn ∈ moves)
      ∧ (new ≠ [] → (∃ d, (t.listenerAt n).phase = .admitted d) ∨ .listen n .grant ∈ moves) := by
  induction moves generalizing t late with
  | nil =>
      cases run
      refine ⟨[], ?_, iff_of_false (fun some => some rfl) List.not_mem_nil, fun some => ?_⟩
      · rw [List.append_nil]
        exact trails
      · exact absurd rfl some
  | cons m rest ih =>
      obtain ⟨t₁, step, goesOn⟩ := run_cons_iff.1 run
      rcases turn_at step n with ⟨lm, rfl, turn⟩ | ⟨other, cancelled, kept, stays⟩
      · obtain ⟨first, trails₁, firstly⟩ := trails.turn turn
        obtain ⟨later, trails', lately, permitted⟩ := ih trails₁ goesOn
        refine ⟨first ++ later, ?_, ?_, ?_⟩
        · rw [← List.append_assoc]
          exact trails'
        · rw [ne_eq, List.append_eq_nil_iff, not_and_or, ← ne_eq, ← ne_eq, firstly, lately,
            List.mem_cons, IntakeMove.listen.injEq]
          simp only [true_and, eq_comm]
        · intro some
          by_cases spawn : lm = .spawn
          · subst spawn
            exact .inl turn.admitted_of_spawn
          · have nothing : first = [] := Classical.not_not.1 fun now => spawn (firstly.1 now)
            rw [nothing] at some
            rcases permitted some with ⟨d, admitted⟩ | granted
            · by_cases grant : lm = .grant
              · exact .inr (grant ▸ List.mem_cons_self)
              · exact .inl ⟨d, turn.admitted admitted grant⟩
            · exact .inr (List.mem_cons_of_mem _ granted)
      · have trails₁ : Trails l₀ (t₁.listenerAt n) late := by
          rw [kept]
          exact ⟨stays trails.cancelled, trails.spawned, trails.waited⟩
        obtain ⟨new, trails', lately, permitted⟩ := ih trails₁ goesOn
        refine ⟨new, trails', ?_, ?_⟩
        · rw [lately, List.mem_cons]
          exact (or_iff_right fun same => other _ same.symm).symm
        · intro some
          rw [kept] at permitted
          exact (permitted some).imp_right (List.mem_cons_of_mem _)

/-- What is reached by moves can come about. -/
theorem Reachable.run {ceiling : Nat} (reachable : Reachable ceiling t)
    (run : moves.foldlM step? t = some t') : Reachable ceiling t' := by
  induction moves generalizing t with
  | nil =>
      cases run
      exact reachable
  | cons m rest ih =>
      obtain ⟨t₁, step, goesOn⟩ := run_cons_iff.1 run
      exact ih (reachable.step m step) goesOn

-- ====================================================== a permit comes back

/-- A listener that waits for a permit, and none is assigned to it. -/
def Awaits (t : Intake) (n : Nat) (l : Listener) : Prop :=
  ∃ r, t.readers[n]? = some r ∧ r.listener = l ∧ r.assigned = false

/-- A run leads to where it still waits, and a permit is in the pool. -/
def Frees (t : Intake) (n : Nat) (l : Listener) : Prop :=
  ∃ (moves : List IntakeMove) (t' : Intake),
    moves.foldlM step? t = some t' ∧ t'.Awaits n l ∧ 0 < t'.permits

variable {l : Listener} {ceiling : Nat} {d : Delivery}

/-- It goes on waiting while another reader goes on. -/
theorem Awaits.set (awaits : t.Awaits n l) (readers : t'.readers = t.readers.set k r')
    (other : n ≠ k) : t'.Awaits n l := by
  obtain ⟨r, reader, waiting⟩ := awaits
  exact ⟨r, readers ▸ getElem?_set_of_ne other reader, waiting⟩

/-- Tasks do not touch it, its own ones included. -/
theorem Awaits.works {i : Nat} (awaits : t.Awaits n l) {count : Nat}
    (run : (List.replicate count (.work k i)).foldlM step? t = some t') : t'.Awaits n l := by
  induction count generalizing t with
  | zero =>
      cases run
      exact awaits
  | succ count ih =>
      obtain ⟨t₁, step, goesOn⟩ := run_cons_iff.1 run
      obtain ⟨q, q', before, readers, -, listener, assigned⟩ := work_moves step
      refine ih ?_ goesOn
      by_cases own : n = k
      · subst own
        obtain ⟨r, reader, waits, unassigned⟩ := awaits
        rw [before] at reader
        cases reader
        exact ⟨q', readers ▸ getElem?_set_self_of_some before, listener.trans waits,
          assigned.trans unassigned⟩
      · exact awaits.set readers own

/-- The end of a task leaves a permit in the pool. -/
theorem Awaits.freed_by_task {q : Reader} {x : DeliveryTask} {i : Nat} (awaits : t.Awaits n l)
    (reader : t.readers[k]? = some q) (task : q.tasks[i]? = some x)
    (running : x.isRunning = true) :
    t.Frees n l := by
  obtain ⟨t', run, back⟩ := permit_back reader task running
  exact ⟨_, t', run, awaits.works run, by omega⟩

/-- A listener that was cancelled gives an assigned permit back at its next
look at the token. -/
theorem Awaits.freed_by_look {q : Reader} (awaits : t.Awaits n l) (other : n ≠ k)
    (reader : t.readers[k]? = some q) (phase : q.listener.phase = .admitting d)
    (cancelled : q.listener.cancelled = true) (assigned : q.assigned = true) :
    t.Frees n l := by
  have looks : q.listener.step? .look = some { q.listener with phase := .looking } := by
    simp only [Listener.step?, Listener.looked, phase, cancelled, if_true]
  have step : t.step? (.listen k .look)
      = some (t.withdraw k { q with listener := { q.listener with phase := .looking } }) := by
    simp only [step?, listen, reader, looks, Option.bind_eq_bind, Option.bind_some]
  refine ⟨[.listen k .look], _, run_cons_iff.2 ⟨_, step, rfl⟩, awaits.set rfl other, ?_⟩
  show 0 < t.permits + q.assigned.toNat
  rw [assigned]
  exact Nat.succ_pos _

/-- A listener hands on what it has a permit for, and a task runs for it. -/
theorem step_spawn (reader : t.readers[k]? = some r) (phase : r.listener.phase = .admitted d) :
    ∃ t' r', t.step? (.listen k .spawn) = some t' ∧ t'.readers = t.readers.set k r'
      ∧ r'.tasks = r.tasks ++ [{ delivery := d }] := by
  simp only [step?, listen, reader, Listener.step?, phase, Option.bind_eq_bind, Option.bind_some]
  exact ⟨_, _, rfl, rfl, rfl⟩

/-- The delivery of another listener comes first, and its task ends. -/
theorem Awaits.freed_by_spawn {q : Reader} (awaits : t.Awaits n l) (other : n ≠ k)
    (reader : t.readers[k]? = some q) (phase : q.listener.phase = .admitted d) :
    t.Frees n l := by
  obtain ⟨t₁, q', step, readers, tasks⟩ := step_spawn reader phase
  have there : t₁.readers[k]? = some q' := readers ▸ getElem?_set_self_of_some reader
  have task : q'.tasks[q.tasks.length]? = some { delivery := d } :=
    tasks ▸ List.getElem?_concat_length
  obtain ⟨moves, t', run, freed⟩ := (awaits.set readers other).freed_by_task there task rfl
  exact ⟨_, t', run_cons_iff.2 ⟨t₁, step, run⟩, freed⟩

/-- Another listener with a permit gives it up, one way or the other. -/
theorem Awaits.freed_by_listener {q : Reader} (awaits : t.Awaits n l)
    (unadmitted : l.isAdmitted = false) (sound : q.Sound)
    (cancelled : q.listener.cancelled = true) (reader : t.readers[k]? = some q)
    (has : q.hasPermit = true) :
    t.Frees n l := by
  have other : n ≠ k := by
    rintro rfl
    obtain ⟨r, same, rfl, unassigned⟩ := awaits
    rw [reader] at same
    cases same
    unfold Reader.hasPermit at has
    rw [unassigned, unadmitted] at has
    cases has
  cases assigned : q.assigned with
  | true =>
      obtain ⟨d, phase⟩ := sound.waits assigned
      exact awaits.freed_by_look other reader phase cancelled assigned
  | false =>
      unfold Reader.hasPermit Listener.isAdmitted at has
      rw [assigned, Bool.false_or] at has
      split at has
      next d phase => exact awaits.freed_by_spawn other reader phase
      next => cases has

/-- Wherever the permits are, one of them can come back into the pool. -/
theorem Awaits.freed (awaits : t.Awaits n l) (unadmitted : l.isAdmitted = false)
    (reachable : Reachable ceiling t) (capacity : 0 < ceiling)
    (cancelled : ∀ q ∈ t.readers, q.listener.cancelled = true) :
    t.Frees n l := by
  rcases Nat.eq_zero_or_pos t.permits with empty | free
  · have account := permits_add_load reachable
    have loaded : ¬ ∀ load ∈ t.readers.map (·.load), load = 0 := by
      intro none
      have sum : t.load = 0 := List.sum_eq_zero none
      omega
    simp only [List.forall_mem_map, not_forall] at loaded
    obtain ⟨q, member, load⟩ := loaded
    obtain ⟨k, reader⟩ := List.mem_iff_getElem?.1 member
    cases has : q.hasPermit with
    | true =>
        exact awaits.freed_by_listener unadmitted (allSound_of_reachable reachable q member)
          (cancelled q member) reader has
    | false =>
        have running : q.running ≠ 0 := by
          unfold Reader.load at load
          rw [has] at load
          simpa using load
        obtain ⟨x, task, isRunning⟩ := List.countP_pos_iff.1 (Nat.pos_of_ne_zero running)
        obtain ⟨i, task⟩ := List.mem_iff_getElem?.1 task
        exact awaits.freed_by_task reader task isRunning
  · exact ⟨[], t, rfl, awaits, free⟩

/-- A listener takes the permit that is assigned to it. -/
theorem step_grant (reader : t.readers[n]? = some r) (phase : r.listener.phase = .admitting d)
    (assigned : r.assigned = true) :
    ∃ t' r', t.step? (.listen n .grant) = some t' ∧ t'.readers[n]? = some r'
      ∧ r'.listener.phase = .admitted d := by
  simp only [step?, listen, reader, Listener.step?, phase, assigned, if_true,
    Option.bind_eq_bind, Option.bind_some]
  exact ⟨_, _, rfl, getElem?_set_self_of_some reader, rfl⟩

/-- A permit in the pool is assigned to a listener that waits for one. -/
theorem step_assign (reader : t.readers[n]? = some r) (phase : r.listener.phase = .admitting d)
    (unassigned : r.assigned = false) (free : 0 < t.permits) :
    ∃ t' r', t.step? (.assign n) = some t' ∧ t'.readers[n]? = some r'
      ∧ r'.listener.phase = .admitting d ∧ r'.assigned = true := by
  simp only [step?, assign, reader, phase, unassigned, free, decide_true, Bool.not_false,
    Bool.and_self, if_true, Option.bind_eq_bind, Option.bind_some]
  exact ⟨_, _, rfl, getElem?_set_self_of_some reader, phase, rfl⟩

/-- With a permit assigned, a listener can hand its delivery on. -/
theorem hands_on_of_assigned (reader : t.readers[n]? = some r)
    (phase : r.listener.phase = .admitting d) (assigned : r.assigned = true) :
    ∃ t', [.listen n .grant, .listen n .spawn].foldlM step? t = some t' := by
  obtain ⟨t₁, r₁, granted, reader, phase⟩ := step_grant reader phase assigned
  obtain ⟨t', -, handed, -⟩ := step_spawn reader phase
  exact ⟨t', run_cons_iff.2 ⟨t₁, granted, run_cons_iff.2 ⟨t', handed, rfl⟩⟩⟩

/-- A delivery that waits when the token is cancelled may still be handed on. -/
theorem exists_hand_over (reachable : Reachable ceiling t) (capacity : 0 < ceiling)
    (cancelled : ∀ q ∈ t.readers, q.listener.cancelled = true)
    (waiting : (t.listenerAt n).phase.waits ≠ []) :
    ∃ (moves : List IntakeMove) (t' : Intake),
      moves.foldlM step? t = some t' ∧ .listen n .spawn ∈ moves := by
  cases reader : t.readers[n]? with
  | none =>
      unfold listenerAt at waiting
      rw [reader] at waiting
      exact absurd rfl waiting
  | some r =>
      rw [listenerAt_of_some reader] at waiting
      cases phase : r.listener.phase with
      | admitted d =>
          obtain ⟨t', -, handed, -⟩ := step_spawn reader phase
          exact ⟨[.listen n .spawn], t', run_cons_iff.2 ⟨t', handed, rfl⟩,
            List.mem_singleton_self _⟩
      | admitting d =>
          cases assigned : r.assigned with
          | true =>
              obtain ⟨t', run⟩ := hands_on_of_assigned reader phase assigned
              exact ⟨_, t', run, by simp⟩
          | false =>
              have awaits : t.Awaits n r.listener := ⟨r, reader, rfl, assigned⟩
              have unadmitted : r.listener.isAdmitted = false := by
                unfold Listener.isAdmitted
                rw [phase]
              obtain ⟨moves, t₁, run, ⟨r₁, reader, same, unassigned⟩, free⟩ :=
                awaits.freed unadmitted reachable capacity cancelled
              rw [← same] at phase
              obtain ⟨t₂, r₂, given, reader, phase, assigned⟩ :=
                step_assign reader phase unassigned free
              obtain ⟨t', last⟩ := hands_on_of_assigned reader phase assigned
              refine ⟨moves ++ .assign n :: [.listen n .grant, .listen n .spawn], t', ?_, by simp⟩
              rw [List.foldlM_append, run]
              exact run_cons_iff.2 ⟨t₂, given, last⟩
      | _ =>
          rw [phase] at waiting
          exact absurd rfl waiting

-- ============================================================ the main result

/-- What a listener hands on after its token was cancelled is at most the one
delivery that waited for a permit, or had one, at that moment. Such a delivery
may be handed on, whoever has the permits then; it is if the listener takes
the permit. Any other delivery that it was given and had not handed on is
left: the calls that settle deliveries are for those handed on. -/
theorem handed_on_late_iff (reachable : Reachable ceiling t) (capacity : 0 < ceiling) (n : Nat) :
    (∀ (moves : List IntakeMove) (t' : Intake), moves.foldlM step? t.cancel = some t' →
      ∃ late, (t'.listenerAt n).spawned = (t.listenerAt n).spawned ++ late
        ∧ late.Sublist (t.listenerAt n).phase.waits
        ∧ (late ≠ [] ↔ .listen n .spawn ∈ moves)
        ∧ (late ≠ [] → (∃ d, (t.listenerAt n).phase = .admitted d) ∨ .listen n .grant ∈ moves)
        ∧ ∀ r', t'.readers[n]? = some r' →
          r'.tasks.map (·.delivery) = (t.listenerAt n).spawned ++ late
            ∧ ∀ k call, (k, call) ∈ r'.issued →
              k < ((t.listenerAt n).spawned ++ late).length)
      ∧ ((∃ (moves : List IntakeMove) (t' : Intake), moves.foldlM step? t.cancel = some t'
          ∧ .listen n .spawn ∈ moves) ↔ (t.listenerAt n).phase.waits ≠ []) := by
  have now : Reachable ceiling t.cancel := reachable.step .cancel rfl
  have cancelled : ∀ q ∈ t.cancel.readers, q.listener.cancelled = true := by
    intro q member
    obtain ⟨r, -, rfl⟩ := List.mem_map.1 member
    rfl
  have same : t.cancel.listenerAt n = { t.listenerAt n with cancelled := true } :=
    listenerAt_cancel t n
  have trails : Trails (t.listenerAt n) (t.cancel.listenerAt n) [] := by
    rw [same]
    exact ⟨rfl, (List.append_nil _).symm, List.Sublist.refl _⟩
  have late : ∀ (moves : List IntakeMove) (t' : Intake), moves.foldlM step? t.cancel = some t' →
      ∃ late, Trails (t.listenerAt n) (t'.listenerAt n) late
        ∧ (late ≠ [] ↔ .listen n .spawn ∈ moves)
        ∧ (late ≠ [] → (∃ d, (t.listenerAt n).phase = .admitted d) ∨ .listen n .grant ∈ moves) := by
    intro moves t' run
    obtain ⟨late, trails', spawns, permitted⟩ := trails_run trails run
    rw [same] at permitted
    exact ⟨late, trails', spawns, permitted⟩
  refine ⟨?_, ?_, ?_⟩
  · intro moves t' run
    obtain ⟨late, trails', spawns, permitted⟩ := late moves t' run
    have waited := (List.sublist_append_left late _).trans trails'.waited
    refine ⟨late, trails'.spawned, waited, spawns, permitted, ?_⟩
    intro r' reader
    have sound := allSound_of_reachable (now.run run) r' (List.mem_of_getElem? reader)
    have spawned := trails'.spawned
    rw [listenerAt_of_some reader] at spawned
    rw [← spawned]
    exact ⟨sound.tasks, fun k call issued => sound.task_of_issued issued⟩
  · rintro ⟨moves, t', run, spawn⟩ none
    obtain ⟨late, trails', spawns, -⟩ := late moves t' run
    have waited := (List.sublist_append_left late _).trans trails'.waited
    rw [none] at waited
    exact spawns.2 spawn (List.sublist_nil.1 waited)
  · intro waiting
    refine exists_hand_over now capacity cancelled ?_
    rw [same]
    exact waiting

/-- A subscription to a queue. -/
def kiosk : Subscription where
  name := "kiosk"
  maxParallelism := 2
  source := .queue
  handler := .scripted ⟨"Cup", fun _ => .ok .null⟩ [.succeed]

def cup (tag : UInt64) : Delivery := { tag := tag, payload := [] }

/-- With one permit, the first cup is at its handler and the second one waits. -/
def rush : List IntakeMove := [
  .register kiosk "kiosk", .listen 0 .look, .listen 0 (.take (cup 1)), .listen 0 .look, .assign 0,
  .listen 0 .grant, .listen 0 .spawn, .work 0 0,
  .listen 0 .look, .listen 0 (.take (cup 2)), .listen 0 .look]

/-- The first cup is done, and the second one gets its permit. -/
def closing : List IntakeMove := [
  .work 0 0, .work 0 0, .work 0 0, .assign 0, .listen 0 .grant, .listen 0 .spawn,
  .work 0 1, .work 0 1, .work 0 1, .work 0 1]

/-- The kiosk at the moment of the cancellation. -/
def atClosing : Intake := (rush.foldlM step? { permits := 1 }).getD { permits := 1 }

theorem reachable_atClosing : Reachable 1 atClosing := by
  have ran : rush.foldlM step? { permits := 1 } = some atClosing := rfl
  exact Reachable.start.run ran

theorem handed_on_late_of_kiosk : Reachable 1 atClosing ∧ 0 < 1
    ∧ (atClosing.listenerAt 0).phase.waits = [cup 2]
    ∧ (∃ (moves : List IntakeMove) (t' : Intake), moves.foldlM step? atClosing.cancel = some t'
      ∧ .listen 0 .spawn ∈ moves)
    ∧ ∃ t', closing.foldlM step? atClosing.cancel = some t'
      ∧ ∃ late, (t'.listenerAt 0).spawned = [cup 1] ++ late ∧ late.Sublist [cup 2] := by
  obtain ⟨late, may⟩ := handed_on_late_iff reachable_atClosing Nat.one_pos 0
  obtain ⟨more, spawned, waited, -⟩ := late closing _ rfl
  exact ⟨reachable_atClosing, Nat.one_pos, rfl, may.2 nofun, _, rfl, more, spawned, waited⟩

/-- The cancellation comes while the second cup waits. It is handed on all the
same, and acknowledged. -/
theorem kiosk_serves_after_closing : ∃ t t', Reachable 1 t
    ∧ closing.foldlM step? t.cancel = some t'
    ∧ (t.listenerAt 0).taken = [cup 1, cup 2] ∧ (t.listenerAt 0).spawned = [cup 1]
    ∧ t.readers.map (·.issued) = [[]]
    ∧ (t'.listenerAt 0).spawned = [cup 1, cup 2]
    ∧ t'.readers.map (·.issued) = [[(0, .ack), (1, .ack)]] :=
  ⟨atClosing, _, reachable_atClosing, rfl, rfl, rfl, rfl, rfl, rfl⟩

end Intake

end Courier
