/-
What a shutdown leaves behind. The one that raised the flag waits until
nothing is consumed any more. When it then begins to close channels and
connections, nothing goes on at any reader, and nothing will: a startup pass
may still begin to consume a queue, but its listener has its token cancelled
from the start and ends before it asks for anything.

So every delivery that was handed on by then was settled, by one call of its
own task, and no other delivery is settled at all.
-/
import Courier.Proofs.Relay.Parallelism
import Courier.Proofs.Relay.Readers
import Courier.Proofs.Relay.Shutdowns

namespace Courier

/-- Everything that a reader has handed on was settled, each delivery by one
call, for what its consumption came to. No other call was made. -/
structure Reader.IsSettled (q : Reader) : Prop where
  tasks : q.tasks.map (·.delivery) = q.listener.spawned
  settled : ∀ (j : Nat) (x : DeliveryTask), q.tasks[j]? = some x →
    ∃ c, x.phase = .ended c ∧ q.Consumes x.delivery c ∧ q.issuedFor j = [c.settled.settlement]
  others : ∀ (j : Nat) (call : Settlement), (j, call) ∈ q.issued → j < q.tasks.length

theorem Reader.Sound.isSettled {q : Reader} (sound : q.Sound)
    (ended : ∀ x ∈ q.tasks, x.isEnded = true) : q.IsSettled := by
  refine ⟨sound.tasks, ?_, ?_⟩
  · intro j x task
    have done := ended x (List.mem_of_getElem? task)
    unfold DeliveryTask.isEnded at done
    split at done
    next c phase =>
      refine ⟨c, phase, sound.consumed j x c task (by rw [phase]; rfl), ?_⟩
      rw [sound.issued j, task]
      show (x.issued?).toList = _
      rw [DeliveryTask.issued?, phase]
      rfl
    next => cases done
  · intro j call member
    refine Nat.lt_of_not_le fun beyond => ?_
    have none := sound.issued j
    rw [List.getElem?_eq_none beyond] at none
    have made : call ∈ q.issuedFor j :=
      List.mem_map.2 ⟨(j, call), List.mem_filter.2 ⟨member, by simp⟩, rfl⟩
    rw [none] at made
    cases made

namespace Relay

variable {drafts : List InstanceDraft} {b : Blueprint} {r r' : Relay} {j k : Nat}

-- ========================================================== the one call

/-- Shutdown `k` raised the flag, and was not given up. -/
def IsFirst (r : Relay) (k : Nat) : Prop :=
  ∃ φ, r.shutdowns[k]? = some φ ∧ φ.isFirst = true

/-- Shutdown `k` has begun to close channels and connections, and was not given
up. -/
def IsClosing (r : Relay) (k : Nat) : Prop :=
  ∃ φ, r.shutdowns[k]? = some φ ∧ φ.isClosing = true

theorem IsClosing.isFirst (closing : r.IsClosing k) : r.IsFirst k := by
  obtain ⟨φ, call, closing⟩ := closing
  refine ⟨φ, call, ?_⟩
  cases φ with
  | finished result => cases result with
    | ok value => rfl
    | error f => cases closing
  | entering => cases closing
  | dropped => cases closing
  | _ => rfl

/-- A call that finds the flag raised is told so at once. -/
theorem told_of_disposed (disposed : r.disposed = true)
    (call : r.shutdowns[j]? = some .entering) :
    ∃ r', r.step? (.advanceShutdown j) = some r'
      ∧ r'.stopped? j = some (.error .alreadyDisposed) := by
  refine ⟨r.setShutdown j (.finished (.error .alreadyDisposed)), ?_, ?_⟩
  · simp [step?, advanceShutdown, call, disposed]
  · have set := getElem?_set_self_of_some (y := .finished (.error .alreadyDisposed)) call
    simp only [stopped?, setShutdown, set]

/-- A call that finds it down raises it. -/
theorem first_of_fresh (fresh : r.disposed = false) (call : r.shutdowns[j]? = some .entering) :
    ∃ r', r.step? (.advanceShutdown j) = some r' ∧ r'.IsFirst j := by
  refine ⟨{ r with disposed := true }.setShutdown j .cancelling, ?_, .cancelling, ?_, rfl⟩
  · simp [step?, advanceShutdown, call, fresh]
  · exact getElem?_set_self_of_some call

/-- The call that raised the flag goes through without a failure, unless it is
given up. -/
theorem IsFirst.step {m : RelayMove} (first : r.IsFirst k) (reachable : Reachable b r)
    (step : r.step? m = some r') : r'.IsFirst k ∨ r'.shutdowns[k]? = some .dropped := by
  obtain ⟨φ, call, first⟩ := first
  rcases shutdown_cases step with ⟨k', ψ, ψ', passed⟩ | aside
  · by_cases own : k = k'
    · subst own
      have set := getElem?_set_self_of_some (y := ψ') passed.before
      rw [← passed.shutdowns] at set
      obtain rfl := Option.some.inj (call.symm.trans passed.before)
      cases passed.turn with
      | claims _ => cases first
      | late _ => cases first
      | drops _ => exact .inr set
      | ends ended =>
          obtain ⟨single, rfl⟩ := (shutdowns_of_reachable reachable).disposal k _ call
          obtain rfl :=
            Connections.result_of_single (connections_of_reachable reachable) single ended
          exact .inl ⟨_, set, rfl⟩
      | _ => exact .inl ⟨_, set, rfl⟩
    · left
      refine ⟨φ, ?_, first⟩
      rw [passed.shutdowns]
      exact getElem?_set_of_ne own call
  · left
    exact ⟨φ, aside.kept call, first⟩

/-- A call that was given up stays so. -/
theorem dropped_step {m : RelayMove} (call : r.shutdowns[k]? = some .dropped)
    (step : r.step? m = some r') : r'.shutdowns[k]? = some .dropped := by
  rcases shutdown_cases step with ⟨k', ψ, ψ', passed⟩ | aside
  · by_cases own : k = k'
    · subst own
      obtain rfl := Option.some.inj (call.symm.trans passed.before)
      cases passed.turn with
      | drops ended => cases ended
    · rw [passed.shutdowns]
      exact getElem?_set_of_ne own call
  · exact aside.kept call

theorem IsFirst.leads (first : r.IsFirst k) (reachable : Reachable b r) (leads : Leads r r') :
    r'.IsFirst k ∨ r'.shutdowns[k]? = some .dropped :=
  leads.keeps (I := fun q => q.IsFirst k ∨ q.shutdowns[k]? = some .dropped) reachable (.inl first)
    fun _ _ _ reachable kept step => kept.elim (fun first => first.step reachable step)
      fun dropped => .inr (dropped_step dropped step)

/-- The flag is raised, and not by shutdown `j`. -/
def IsLate (r : Relay) (j : Nat) : Prop := r.disposed = true ∧ ¬ r.IsFirst j

theorem IsLate.step {m : RelayMove} (late : r.IsLate j) (step : r.step? m = some r') :
    r'.IsLate j := by
  obtain ⟨disposed, other⟩ := late
  rcases shutdown_cases step with ⟨k, ψ, ψ', passed⟩ | aside
  · refine ⟨by simp [passed.disposed, disposed], ?_⟩
    rintro ⟨φ, call, first⟩
    rw [passed.shutdowns] at call
    rcases of_getElem?_set call with ⟨rfl, rfl⟩ | ⟨-, old⟩
    · rcases passed.turn.first first with before | fresh
      · exact other ⟨_, passed.before, before⟩
      · rw [disposed] at fresh
        cases fresh
    · exact other ⟨φ, old, first⟩
  · refine ⟨aside.disposed.trans disposed, ?_⟩
    rintro ⟨φ, call, first⟩
    rcases aside.old call with old | rfl
    · exact other ⟨φ, old, first⟩
    · cases first

/-- Who comes late is told so, and nothing else. -/
theorem IsLate.result {result : Except Failure Unit} (late : r.IsLate j)
    (reachable : Reachable b r) (ended : r.stopped? j = some result) :
    result = .error .alreadyDisposed := by
  unfold stopped? at ended
  split at ended
  next result' call =>
    cases ended
    cases result with
    | ok value => exact absurd ⟨_, call, rfl⟩ late.2
    | error f => rw [(shutdowns_of_reachable reachable).refused j f call]
  next => cases ended

-- ============================================================== the end

/-- Nothing goes on at any reader when channels and connections begin to be
closed. -/
theorem quiet_of_isClosing (built : Blueprint.build drafts = .ok b) (reachable : Reachable b r)
    (closing : r.IsClosing k) : Quiet r := by
  induction reachable generalizing k with
  | start created =>
      obtain ⟨p, -, rfl⟩ := create_cases created
      obtain ⟨φ, call, -⟩ := closing
      cases call
  | @step r r' m reachable step ih =>
      obtain ⟨φ, call, closing⟩ := closing
      suffices quiet : Quiet r from (quiet.leads built reachable (.single ⟨m, step⟩)).1
      rcases shutdown_cases step with ⟨k', ψ, ψ', passed⟩ | aside
      · rw [passed.shutdowns] at call
        rcases of_getElem?_set call with ⟨-, rfl⟩ | ⟨-, old⟩
        · have before := passed.before
          cases passed.turn with
          | idles idle =>
              rcases (shutdowns_of_reachable reachable).cancelled _ _ before rfl with no | seen
              · cases no
              · exact quiet_of_isIdle seen idle
          | closes => exact ih ⟨_, before, rfl⟩
          | disposes => exact ih ⟨_, before, rfl⟩
          | ends _ => exact ih ⟨_, before, rfl⟩
          | _ => cases closing
        · exact ih ⟨φ, old, closing⟩
      · rcases aside.old call with old | rfl
        · exact ih ⟨φ, old, closing⟩
        · cases closing

/-- Nor does anything when the connections are being closed, even if the call
that began it was given up since. -/
theorem quiet_of_disposal (built : Blueprint.build drafts = .ok b) (reachable : Reachable b r)
    (begun : r.connections.disposals ≠ []) : Quiet r := by
  induction reachable with
  | start created =>
      obtain ⟨p, -, rfl⟩ := create_cases created
      exact absurd rfl begun
  | @step r r' m reachable step ih =>
      suffices quiet : Quiet r from (quiet.leads built reachable (.single ⟨m, step⟩)).1
      rcases shutdown_cases step with ⟨k, φ, φ', passed⟩ | aside
      · have connections := passed.connections
        split at connections
        next =>
          have before := passed.before
          cases passed.turn with
          | disposes => exact quiet_of_isClosing built reachable ⟨_, before, rfl⟩
        next =>
          have same : r'.connections = r.connections := connections
          exact ih (same ▸ begun)
      · refine ih fun none => begun ?_
        rcases aside.connections with same | ⟨m, other, step⟩
        · rw [same, none]
        · have length := Connections.disposals_step step other
          rw [none] at length
          exact List.length_eq_zero_iff.1 length

/-- A disposal in a relay goes on as it does by itself. -/
theorem leads_proceed {d : Nat} {cs : Connections} (moves : Nat)
    (run : (List.replicate moves (.proceed d)).foldlM Connections.step? r.connections = some cs) :
    Leads r { r with connections := cs } := by
  induction moves generalizing r with
  | zero =>
      cases run
      exact .refl
  | succ moves ih =>
      rw [List.replicate_succ, List.foldlM_cons] at run
      obtain ⟨next, moved, run⟩ := Option.bind_eq_some_iff.1 run
      have step : r.step? (.connect (.proceed d)) = some { r with connections := next } :=
        Option.bind_eq_some_iff.2 ⟨next, moved, rfl⟩
      exact .head ⟨_, step⟩ (ih (r := { r with connections := next }) run)

/-- Once it closes things, the call can always be brought to its end, and
reports no failure. -/
theorem ends_of_disposing {d : Nat} (reachable : Reachable b r)
    (call : r.shutdowns[k]? = some (.disposing d)) :
    ∃ r', Leads r r' ∧ r'.stopped? k = some (.ok ()) := by
  obtain ⟨single, rfl⟩ := (shutdowns_of_reachable reachable).disposal k _ call
  obtain ⟨n, cs, run, done⟩ :=
    Connections.finishes_of_single (connections_of_reachable reachable) single
  have step : { r with connections := cs }.step? (.advanceShutdown k)
      = some ({ r with connections := cs }.setShutdown k (.finished (.ok ()))) := by
    simp [step?, advanceShutdown, call, done]
  refine ⟨_, (leads_proceed n run).tail ⟨_, step⟩, ?_⟩
  simp only [stopped?, setShutdown, getElem?_set_self_of_some call]

theorem ends_of_closing {names : List String} (reachable : Reachable b r)
    (call : r.shutdowns[k]? = some (.closing names)) :
    ∃ r', Leads r r' ∧ r'.stopped? k = some (.ok ()) := by
  induction names generalizing r with
  | nil =>
      obtain ⟨next, step, disposing⟩ : ∃ next, r.step? (.advanceShutdown k) = some next
          ∧ next.shutdowns[k]? = some (.disposing r.connections.disposals.length) := by
        refine ⟨{ r with connections := r.connections.step .dispose }.setShutdown k _, ?_,
          getElem?_set_self_of_some call⟩
        simp [step?, advanceShutdown, call]
      obtain ⟨r', leads, ended⟩ := ends_of_disposing (.step _ reachable step) disposing
      exact ⟨r', .head ⟨_, step⟩ leads, ended⟩
  | cons name rest ih =>
      obtain ⟨next, step, closing⟩ : ∃ next, r.step? (.advanceShutdown k) = some next
          ∧ next.shutdowns[k]? = some (.closing rest) := by
        refine ⟨{ r with publisher := r.publisher.step (.close name) }.setShutdown k _, ?_,
          getElem?_set_self_of_some call⟩
        simp [step?, advanceShutdown, call]
      obtain ⟨r', leads, ended⟩ := ih (.step _ reachable step) closing
      exact ⟨r', .head ⟨_, step⟩ leads, ended⟩

theorem IsClosing.ends (closing : r.IsClosing k) (reachable : Reachable b r) :
    ∃ r', Leads r r' ∧ r'.stopped? k = some (.ok ()) := by
  obtain ⟨φ, call, closing⟩ := closing
  cases φ with
  | closing names => exact ends_of_closing reachable call
  | disposing d => exact ends_of_disposing reachable call
  | finished result =>
      cases result with
      | ok value => exact ⟨r, .refl, by simp only [stopped?, call]⟩
      | error f => cases closing
  | _ => cases closing

/-- What the calls of a shutdown come to. The one that finds the flag down
raises it and reports no failure; once it closes things it can be brought to
its end. Every other one is told that it came late. -/
structure StopsOnce (r : Relay) : Prop where
  raises : ∀ k, r.disposed = false → r.shutdowns[k]? = some .entering →
    ∃ r', r.step? (.advanceShutdown k) = some r' ∧ r'.IsFirst k
  raised : ∀ k, r.IsFirst k → r.disposed = true
  once : ∀ j k, r.IsFirst j → r.IsFirst k → j = k
  good : ∀ k r' f, r.IsFirst k → Leads r r' → r'.stopped? k ≠ some (.error f)
  ends : ∀ k, r.IsClosing k → ∃ r', Leads r r' ∧ r'.stopped? k = some (.ok ())
  told : ∀ j, r.disposed = true → r.shutdowns[j]? = some .entering →
    ∃ r', r.step? (.advanceShutdown j) = some r'
      ∧ r'.stopped? j = some (.error .alreadyDisposed)
  late : ∀ j r' result, r.IsLate j → Leads r r' → r'.stopped? j = some result →
    result = .error .alreadyDisposed

/-- All that was ever handed on is settled, and nothing more happens at any
reader, nor at those that begin later. -/
structure AllSettled (b : Blueprint) (r : Relay) : Prop where
  kept : ∀ r₀, Reachable b r₀ → Leads r₀ r → ∀ name n q₀, r₀.reader? name n = some q₀ →
    ∃ q, r.reader? name n = some q ∧ q₀.Extends q
  stays : ∀ r', Leads r r' → ∀ name n q, r.reader? name n = some q →
    ∃ q', r'.reader? name n = some q'
  settled : ∀ r', Leads r r' → ∀ name n q', r'.reader? name n = some q' →
    q'.running = 0 ∧ q'.IsSettled ∧ Reader.StillFrom (r.reader? name n) q'

theorem stopsOnce_of_reachable (reachable : Reachable b r) : StopsOnce r := by
  have shutdowns := shutdowns_of_reachable reachable
  refine ⟨fun _ => first_of_fresh, ?_, ?_, ?_, fun _ closing => closing.ends reachable,
    fun _ => told_of_disposed, ?_⟩
  · rintro k ⟨φ, call, first⟩
    exact shutdowns.disposed call first
  · rintro j k ⟨φ, call, first⟩ ⟨φ', call', first'⟩
    exact shutdowns.once j k φ φ' call call' first first'
  · intro k r' f first leads failed
    unfold stopped? at failed
    split at failed
    next result call =>
      cases failed
      rcases first.leads reachable leads with ⟨φ, call', first⟩ | dropped
      · rw [call] at call'
        cases call'
        cases first
      · rw [call] at dropped
        cases dropped
    next => cases failed
  · intro j r' result late leads ended
    have still : r'.IsLate j := leads.keeps (I := fun q => q.IsLate j) reachable late
      fun _ _ _ _ late step => late.step step
    exact still.result (leads.reachable reachable) ended

theorem Quiet.allSettled (quiet : Quiet r) (built : Blueprint.build drafts = .ok b)
    (reachable : Reachable b r) : AllSettled b r := by
  refine ⟨fun r₀ reachable₀ leads name n q₀ found => leads.kept built reachable₀ found, ?_, ?_⟩
  · intro r' leads name n q found
    obtain ⟨q', found', -⟩ := leads.kept built reachable found
    exact ⟨q', found'⟩
  · intro r' leads name n q' found
    obtain ⟨quiet', still⟩ := quiet.leads built reachable leads
    have sound := sound_of_reader? built (leads.reachable reachable) found
    have ended := (quiet'.readers name n q' found).tasks
    refine ⟨?_, sound.isSettled ended, still name n q' found⟩
    exact List.countP_eq_zero.2 fun x member => by simp [DeliveryTask.isRunning, ended x member]

/-- How a relay stops, whatever starts, shutdowns, deliveries and handlers come
between: by one call, and with all settled when it begins to close things, and
before a connection is closed. -/
theorem stops_cleanly (built : Blueprint.build drafts = .ok b) (reachable : Reachable b r) :
    StopsOnce r ∧ (∀ k, r.IsClosing k → AllSettled b r)
      ∧ (r.connections.disposals ≠ [] → AllSettled b r) := by
  refine ⟨stopsOnce_of_reachable reachable, ?_, ?_⟩
  · intro k closing
    exact (quiet_of_isClosing built reachable closing).allSettled built reachable
  · intro begun
    exact (quiet_of_disposal built reachable begun).allSettled built reachable

/-- A delivery of the first queue is at its handler when the relay is shut
down, twice; its task comes to its end, and so does the listener. The second
queue is not consumed yet. -/
def stopping : List RelayMove :=
  [.start, .advanceStart 0, .advanceStart 0] ++ List.replicate 4 (.jobDone 0)
    ++ [.consume "dairy" (.listen 0 .look),
      .consume "dairy" (.listen 0 (.take ⟨1, [], none, true⟩)),
      .consume "dairy" (.listen 0 .look), .consume "dairy" (.assign 0),
      .consume "dairy" (.listen 0 .grant), .consume "dairy" (.listen 0 .spawn),
      .consume "dairy" (.work 0 0)]
    ++ [.shutdown, .shutdown, .advanceShutdown 0, .advanceShutdown 1, .advanceShutdown 0]
    ++ List.replicate 3 (.consume "dairy" (.work 0 0))
    ++ [.consume "dairy" (.listen 0 .look), .advanceShutdown 0]

/-- The start goes on while the shutdown closes everything. -/
def stopped : List RelayMove :=
  [.jobDone 0, .advanceShutdown 0, .consume "dairy" (.listen 1 .look)]
    ++ List.replicate 3 (.connect (.proceed 0)) ++ [.advanceShutdown 0]

/-- The delivery is settled before anything is closed, and the second queue is
never read. -/
theorem stops_cleanly_of_dairy : ∃ r r', Reachable ⟨[dairy]⟩ r ∧ r.IsClosing 0 ∧ Leads r r'
    ∧ r'.stopped? 0 = some (.ok ()) ∧ r'.stopped? 1 = some (.error .alreadyDisposed)
    ∧ (∃ q, r.reader? "dairy" 0 = some q ∧ q.listener.spawned.length = 1 ∧ q.IsSettled)
    ∧ ∃ q, r'.reader? "dairy" 1 = some q ∧ q.listener.spawned = [] := by
  have built : Blueprint.build [dairyDraft] = .ok ⟨[dairy]⟩ := rfl
  have new : Reachable ⟨[dairy]⟩ _ := .start rfl
  have reachable := new.run stopping rfl
  obtain ⟨-, closing, -⟩ := stops_cleanly built reachable
  have settled := (closing 0 ⟨_, rfl, rfl⟩).settled _ .refl "dairy" 0 _ rfl
  exact ⟨_, _, reachable, ⟨_, rfl, rfl⟩, leads_of_run stopped rfl, rfl, rfl,
    ⟨_, rfl, rfl, settled.2.1⟩, _, rfl, rfl⟩

end Relay

end Courier
