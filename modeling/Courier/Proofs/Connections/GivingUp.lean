/-
Calls for one instance whose broker cannot be reached. They wait for one
cell, and one of them makes the connection at a time, but a call that gives up
leaves the cell empty, and the next one makes a new start. So they share a
connection that was opened, and nothing else: `k` calls make `k` times the
attempts of one, and each is told the reason of its own last refusal
(`unreached_calls_try_alone`).

# They all end

A call has a bounded number of moves ahead of it, whatever the broker answers
(`Turn.movesLeft_lt`). A call that waits for its turn waits for one that is at
work (`Manned`), and as long as no connection of the instance was opened, that
one can go on, by itself or by being refused (`exists_move`). So the calls for
an instance can always be brought to their end without an answer of its
broker (`leads_to_end`).
-/
import Courier.Proofs.Connections.Attempts

namespace Courier

/-- How many moves a call for an instance has ahead of it, at most. -/
def CallPhase.movesLeft (i : Instance) : CallPhase → Nat
  | entering => 3 * i.reconnects + i.initOperations.length + 9
  | enrolling => 3 * i.reconnects + i.initOperations.length + 8
  | waiting _ => 3 * i.reconnects + i.initOperations.length + 7
  | pausing _ left => 3 * left + i.initOperations.length + 7
  | attempting _ left => 3 * left + i.initOperations.length + 6
  | connecting _ left => 3 * left + i.initOperations.length + 5
  | opening _ _ => i.initOperations.length + 4
  | installing _ _ left => left.length + 3
  | rechecking _ => 2
  | discarding _ _ _ | closing _ => 1
  | finished _ => 0

namespace Connections

variable {cs cs' start : Connections} {t : Attempts} {m : ConnectionMove} {k : Nat}
  {c : ConnectionCall} {before next : CallPhase} {i : Instance} {name : String}

-- ============================================================ moves ahead

/-- Every move of a call takes it nearer to its end. -/
theorem Turn.movesLeft_lt (turn : cs.Turn k i m before next) :
    next.movesLeft i < before.movesLeft i := by
  cases turn <;> simp only [CallPhase.movesLeft, List.length_cons, List.length_nil] <;> omega

/-- The moves that all calls have ahead of them together. -/
def movesLeft (cs : Connections) : Nat := (cs.calls.map fun c => c.phase.movesLeft c.caller).sum

theorem Moved.movesLeft_lt (moved : Moved cs m cs' k c next) : cs'.movesLeft < cs.movesLeft := by
  have less : next.movesLeft c.caller < c.phase.movesLeft c.caller := moved.turn.movesLeft_lt
  have all := sum_map_set_add (fun c : ConnectionCall => c.phase.movesLeft c.caller) moved.found
    { c with phase := next }
  have calls : cs'.calls = cs.calls.set k { c with phase := next } := by
    rw [moved.calls]
    exact modify_eq_set _ moved.found
  unfold Connections.movesLeft
  rw [calls]
  simp only at all
  omega

-- ========================================================== who is at work

/-- Whoever a cell names as its maker makes its connection. -/
def Manned (cs : Connections) : Prop :=
  ∀ (cell : Nat) (x : Cell) (k : Nat), cs.cells[cell]? = some x → x.maker = some k →
    ∃ c, cs.calls[k]? = some c ∧ c.phase.making? = some cell

theorem Manned.moved (manned : Manned cs) (moved : Moved cs m cs' k c next) : Manned cs' := by
  intro cell x' j hx' named
  rw [moved.calls]
  rcases moved.makers cell x' j hx' named with ⟨rfl, making⟩ | ⟨x, hx, named, stays⟩
  · exact ⟨_, call_setPhase moved.found, making⟩
  · obtain ⟨d, hd, making⟩ := manned cell x j hx named
    by_cases same : j = k
    · subst same
      rw [moved.found] at hd
      cases hd
      exact ⟨_, call_setPhase moved.found, stays making⟩
    · exact ⟨d, call_setPhase_of_ne same hd, making⟩

theorem Manned.step (manned : Manned cs) (step : cs.step? m = some cs') : Manned cs' := by
  rcases step_cases step with ⟨k, c, next, moved⟩ | ⟨i, rfl, rfl⟩ | ⟨-, beside⟩
  · exact manned.moved moved
  · intro cell x j hx named
    obtain ⟨d, hd, making⟩ := manned cell x j hx named
    exact ⟨d, getElem?_append_of_some hd, making⟩
  · intro cell x j hx named
    rw [beside.cells] at hx
    rw [beside.calls]
    exact manned cell x j hx named

theorem manned_of_reachable (reachable : Reachable cs) : Manned cs := by
  induction reachable with
  | start =>
      intro cell x k hx
      cases hx
  | step m _ step ih => exact ih.step step

/-- With the flag down one call at a time makes the connection of an instance. -/
theorem Sound.making_unique (s : Sound cs) (down : cs.disposed = false) {k' : Nat}
    {c' : ConnectionCall} (found : cs.calls[k]? = some c) (found' : cs.calls[k']? = some c')
    (names : c.caller.name = c'.caller.name) {cell cell' : Nat}
    (making : c.phase.making? = some cell) (making' : c'.phase.making? = some cell') :
    k = k' := by
  have makes := (s.standing k c found).makes making
  have makes' := (s.standing k' c' found').makes making'
  have place := s.complete down cell _ makes
  have place' := s.complete down cell' _ makes'
  simp only [names, place'] at place
  cases place
  have same := Option.some.inj (makes.symm.trans makes')
  exact Option.some.inj (congrArg Cell.maker same)

-- ============================================== while nothing was opened

/-- A cell of an instance without connections is empty. -/
theorem Sound.empty_of_unreached (s : Sound cs) {cell : Nat} {x : Cell}
    (hx : cs.cells[cell]? = some x) (unreached : x.owner ∉ cs.owners) : x.link = none := by
  cases filled : x.link with
  | none => rfl
  | some link =>
      obtain ⟨-, -, -, -, l, hl, owner, -⟩ := s.filled cell x link hx filled
      refine absurd ?_ unreached
      rw [← owner]
      exact List.mem_map_of_mem (List.mem_of_getElem? hl)

/-- A call that is past its attempts and has not ended has or had a connection. -/
theorem Sound.reached_of_isPast (s : Sound cs) (found : cs.calls[k]? = some c)
    (past : c.phase.isPast = true) (goesOn : ∀ result, c.phase ≠ .finished result) :
    c.caller.name ∈ cs.owners := by
  have standing := s.standing k c found
  have carried {link : Nat} (own : c.phase.private? = some link) : c.caller.name ∈ cs.owners := by
    obtain ⟨-, -, -, -, l, hl, owner, -⟩ := standing.carries own
    rw [← owner]
    exact List.mem_map_of_mem (List.mem_of_getElem? hl)
  have taken {link : Nat} (there : cs.Found c.caller.name link) : c.caller.name ∈ cs.owners := by
    obtain ⟨cell, x, hx, owner, filled⟩ := there
    refine Classical.byContradiction fun unreached => ?_
    rw [← owner] at unreached
    rw [s.empty_of_unreached hx unreached] at filled
    cases filled
  cases phase : c.phase with
  | opening cell link => exact carried (by rw [phase]; rfl)
  | installing cell link left => exact carried (by rw [phase]; rfl)
  | discarding cell link f => exact carried (by rw [phase]; rfl)
  | rechecking link =>
      rw [phase] at standing
      exact taken standing
  | closing link =>
      rw [phase] at standing
      exact taken standing
  | finished result => exact absurd phase (goesOn result)
  | _ => simp [phase, CallPhase.isPast] at past

/-- What a call does without an answer of the broker: it goes on by itself, or
it is refused. -/
def IsUnanswered (reason : String) (m : ConnectionMove) : Prop :=
  ∃ k, m = .advance k ∨ m = .refused k reason

/-- A call that does not wait and was given nothing can go on. -/
theorem exists_own_move (found : cs.calls[k]? = some c) (early : c.phase.isPast = false)
    (atWork : ∀ cell, c.phase ≠ .waiting cell) (reason : String) :
    ∃ m cs', IsUnanswered reason m ∧ cs.step? m = some cs' := by
  have advances (can : (cs.advance k).isSome = true) :
      ∃ m cs', IsUnanswered reason m ∧ cs.step? m = some cs' :=
    ⟨.advance k, _, ⟨k, .inl rfl⟩, (Option.some_get can).symm⟩
  have denied (can : (cs.refused k reason).isSome = true) :
      ∃ m cs', IsUnanswered reason m ∧ cs.step? m = some cs' :=
    ⟨.refused k reason, _, ⟨k, .inr rfl⟩, (Option.some_get can).symm⟩
  cases phase : c.phase with
  | waiting cell => exact absurd phase (atWork cell)
  | entering => exact advances (by simp [advance, found, phase])
  | enrolling => exact advances (by simp [advance, found, phase])
  | attempting cell left => exact advances (by simp [advance, found, phase])
  | pausing cell left => exact advances (by simp [advance, found, phase])
  | connecting cell left =>
      refine denied ?_
      cases left <;> simp [refused, found, phase]
  | _ => simp [phase, CallPhase.isPast] at early

/-- As long as no connection of an instance was opened, one of its calls can go
on, if any has not ended: that call itself, or the one it waits for. -/
theorem exists_move (s : Sound cs) (manned : Manned cs) (found : cs.calls[k]? = some c)
    (unreached : c.caller.name ∉ cs.owners) (goesOn : ∀ result, c.phase ≠ .finished result)
    (reason : String) : ∃ m cs', IsUnanswered reason m ∧ cs.step? m = some cs' := by
  have early {j : Nat} {d : ConnectionCall} (hd : cs.calls[j]? = some d)
      (named : d.caller.name = c.caller.name) (going : ∀ result, d.phase ≠ .finished result) :
      d.phase.isPast = false := by
    cases past : d.phase.isPast with
    | false => rfl
    | true =>
        rw [← named] at unreached
        exact absurd (s.reached_of_isPast hd past going) unreached
  by_cases waits : ∃ cell, c.phase = .waiting cell
  · obtain ⟨cell, phase⟩ := waits
    have standing := s.standing k c found
    rw [phase] at standing
    obtain ⟨x, hx, owner⟩ := standing
    have empty : x.link = none := s.empty_of_unreached hx (owner ▸ unreached)
    cases named : x.maker with
    | none =>
        -- its turn has come
        have can : (cs.advance k).isSome = true := by
          simp [advance, found, phase, enter, hx, empty, named]
        exact ⟨.advance k, _, ⟨k, .inl rfl⟩, (Option.some_get can).symm⟩
    | some j =>
        obtain ⟨d, hd, making⟩ := manned cell x j hx named
        have makes : cs.cells[cell]? = some _ := (s.standing j d hd).makes making
        rw [hx] at makes
        have same : d.caller.name = c.caller.name := by
          rw [← owner, Option.some.inj makes]
        have going : ∀ result, d.phase ≠ .finished result := by
          intro result ended
          rw [ended] at making
          cases making
        refine exists_own_move hd (early hd same going) ?_ reason
        intro cell' waiting
        rw [waiting] at making
        cases making
  · exact exists_own_move found (early found rfl goesOn) (fun cell phase => waits ⟨cell, phase⟩)
      reason

-- ============================================================= the end

/-- A move of a call that the broker does not answer opens nothing. -/
theorem Moved.owners_eq (moved : Moved cs m cs' k c next) {reason : String}
    (unanswered : IsUnanswered reason m) : cs'.owners = cs.owners := by
  obtain ⟨j, rfl | rfl⟩ := unanswered
  · rw [moved.owners]
    exact List.append_nil _
  · rw [moved.owners]
    exact List.append_nil _

/-- The calls keep their instances. -/
theorem Moved.callers_eq (moved : Moved cs m cs' k c next) :
    cs'.calls.map (·.caller) = cs.calls.map (·.caller) := by
  rw [moved.calls]
  exact map_modify_of_eq ConnectionCall.caller cs.calls k _ fun _ => rfl

/-- An unanswered move is one of a call. -/
theorem moved_of_isUnanswered {reason : String} (unanswered : IsUnanswered reason m)
    (step : cs.step? m = some cs') : ∃ k c next, Moved cs m cs' k c next := by
  obtain ⟨k, rfl | rfl⟩ := unanswered
  · exact ⟨k, moved_advance step⟩
  · exact ⟨k, moved_refused step⟩

/-- What a run that the broker of an instance does not answer comes to: all
calls for the instance have ended, and nothing was opened. -/
structure EndsUnanswered (reason name : String) (cs cs' : Connections) : Prop where
  run : ∃ moves : List ConnectionMove, moves.foldlM step? cs = some cs'
    ∧ ∀ m ∈ moves, IsUnanswered reason m
  owners : cs'.owners = cs.owners
  flag : cs'.disposed = cs.disposed
  callers : cs'.calls.map (·.caller) = cs.calls.map (·.caller)
  ended : ∀ (k : Nat) (c : ConnectionCall), cs'.calls[k]? = some c → c.caller.name = name →
    ∃ result, c.phase = .finished result

/-- One move earlier. -/
theorem EndsUnanswered.head {reason : String} {first : Connections}
    (ends : EndsUnanswered reason name cs cs') (unanswered : IsUnanswered reason m)
    (step : first.step? m = some cs) : EndsUnanswered reason name first cs' := by
  obtain ⟨k, c, next, moved⟩ := moved_of_isUnanswered unanswered step
  obtain ⟨moves, run, all⟩ := ends.run
  refine ⟨⟨m :: moves, ?_, ?_⟩, ends.owners.trans (moved.owners_eq unanswered),
    ends.flag.trans moved.flag, ends.callers.trans moved.callers_eq, ends.ended⟩
  · rw [List.foldlM_cons, step]
    exact run
  · exact List.forall_mem_cons.2 ⟨unanswered, all⟩

/-- The calls for an instance can be brought to their end without an answer of
its broker, as long as no connection of it was opened. -/
theorem leads_to_end (reachable : Reachable cs) (unreached : name ∉ cs.owners)
    (reason : String) : ∃ cs', EndsUnanswered reason name cs cs' := by
  induction left : cs.movesLeft using Nat.strongRecOn generalizing cs with
  | _ n ih =>
      by_cases pending : ∃ (k : Nat) (c : ConnectionCall), cs.calls[k]? = some c
          ∧ c.caller.name = name ∧ ∀ result, c.phase ≠ .finished result
      · obtain ⟨k, c, found, rfl, goesOn⟩ := pending
        obtain ⟨m, next, unanswered, step⟩ := exists_move (sound_of_reachable reachable).1
          (manned_of_reachable reachable) found unreached goesOn reason
        obtain ⟨j, d, phase, moved⟩ := moved_of_isUnanswered unanswered step
        have less : next.movesLeft < n := left ▸ moved.movesLeft_lt
        have still : c.caller.name ∉ next.owners := by
          rw [moved.owners_eq unanswered]
          exact unreached
        obtain ⟨cs', ends⟩ := ih _ less (reachable.step m step) still rfl
        exact ⟨cs', ends.head unanswered step⟩
      · refine ⟨cs, ⟨[], rfl, nofun⟩, rfl, rfl, rfl, ?_⟩
        intro k c found named
        refine Classical.byContradiction fun going => pending ⟨k, c, found, named, ?_⟩
        exact fun result phase => going ⟨result, phase⟩

-- ========================================================== nothing shared

/-- Nobody excuses the calls of an instance while nothing was disposed and its
broker was not reached. -/
theorem not_excused (down : cs.disposed = false) (unreached : name ∉ cs.owners) :
    ¬ cs.Excused name := by
  rintro (up | reached)
  · rw [down] at up
    cases up
  · exact unreached reached

/-- Calls that made as many attempts each. -/
theorem total_eq {n : Nat} (ks : List Nat) (each : ∀ k ∈ ks, t.begunBy k = n) :
    t.total ks = ks.length * n := by
  unfold Attempts.total
  rw [List.map_congr_left each, List.map_const', List.sum_replicate_nat]

/-- While nothing was disposed and the broker of an instance was not reached,
every call for it that has ended made all the attempts of the instance by
itself, and returned the reason of its own last refusal; so some such calls
together made as many times the attempts of one. One call at a time makes
them. And the calls that have not ended can be brought to their end in the
same way. -/
theorem unreached_calls_try_alone (tries : Tries {} t cs) (down : cs.disposed = false)
    (unreached : i.name ∉ cs.owners) :
    (∀ k c result, cs.calls[k]? = some c → c.caller = i → c.phase = .finished result →
        t.GaveUp k i result)
    ∧ (∀ ks : List Nat,
        (∀ k ∈ ks, ∃ c result, cs.calls[k]? = some c ∧ c.caller = i
          ∧ c.phase = .finished result) →
        t.total ks = ks.length * (i.reconnects + 1))
    ∧ (∀ (k k' : Nat) (c c' : ConnectionCall) (cell cell' : Nat), cs.calls[k]? = some c →
        cs.calls[k']? = some c' → c.caller.name = c'.caller.name → c.phase.making? = some cell →
        c'.phase.making? = some cell' → k = k')
    ∧ ∀ reason, ∃ t' cs', Tries {} t' cs' ∧ EndsUnanswered reason i.name cs cs' := by
  have reachable := tries.reachable .start
  have sound := (sound_of_reachable reachable).1
  have unexcused := not_excused down unreached
  have gaveUp : ∀ k c result, cs.calls[k]? = some c → c.caller = i → c.phase = .finished result →
      t.GaveUp k i result := by
    rintro k c result found rfl ended
    exact tries.tallied.gaveUp found unexcused ended
  refine ⟨gaveUp, ?_, ?_, ?_⟩
  · intro ks ended
    refine total_eq ks fun k inside => ?_
    obtain ⟨c, result, found, caller, phase⟩ := ended k inside
    exact (gaveUp k c result found caller phase).begun
  · intro k k' c c' cell cell' found found' names making making'
    exact sound.making_unique down found found' names making making'
  · intro reason
    obtain ⟨cs', ends⟩ := leads_to_end reachable unreached reason
    obtain ⟨moves, run, -⟩ := ends.run
    obtain ⟨t', tries'⟩ := tries.foldlM run
    exact ⟨t', cs', tries', ends⟩

/-- Two calls for an instance, at the same time. -/
def bothCalled : Connections where
  calls := [⟨shop, .entering⟩, ⟨shop, .entering⟩]

/-- The first one is refused, and the second one after it. -/
def bothRefused : List ConnectionMove := [
  .advance 0, .advance 1, .advance 0, .advance 1,
  .advance 0, .advance 0, .refused 0 "refused", .advance 1, .advance 1, .refused 1 "timed out"]

/-- What has come of them. -/
def bothGaveUp : Connections where
  index := [("shop", 0)]
  cells := [{ owner := "shop" }]
  calls := [⟨shop, .finished (.error (.brokerUnreachable "refused"))⟩,
    ⟨shop, .finished (.error (.brokerUnreachable "timed out"))⟩]

/-- The attempts they made. -/
def bothAttempts : Attempts where
  begun := [0, 1]
  refused := [(0, "refused"), (1, "timed out")]

/-- With one attempt granted they made two. -/
theorem bothGaveUp_try_alone :
    ∃ t, Tries {} t bothGaveUp ∧ bothGaveUp.disposed = false ∧ shop.name ∉ bothGaveUp.owners
      ∧ t.total [0, 1] = 2 * (shop.reconnects + 1) := by
  have tries : Tries {} bothAttempts bothGaveUp :=
    Tries.refl.run
      (show (.call shop :: .call shop :: bothRefused).foldlM tryStep ({}, {}) = some _ from rfl)
  have unreached : shop.name ∉ bothGaveUp.owners := List.not_mem_nil
  refine ⟨bothAttempts, tries, rfl, unreached, ?_⟩
  refine (unreached_calls_try_alone tries rfl unreached).2.1 [0, 1] ?_
  refine List.forall_mem_cons.2 ⟨?_, List.forall_mem_singleton.2 ?_⟩
  · exact ⟨_, _, rfl, rfl, rfl⟩
  · exact ⟨_, _, rfl, rfl, rfl⟩

/-- Calls that are pending at the same time do not share the attempts of one,
nor its reason. -/
theorem attempts_not_shared :
    ¬ ∀ (i : Instance) (cs₀ cs : Connections) (t : Attempts) (ks : List Nat),
      Reachable cs₀ → Tries cs₀ t cs → ks.Nodup → ks ≠ [] →
      (∀ k ∈ ks, ∃ c, cs₀.calls[k]? = some c ∧ c.caller = i
        ∧ ∀ result, c.phase ≠ .finished result) →
      (∀ k ∈ ks, ∃ result, cs.result? k = some result) →
      cs.disposed = false → i.name ∉ cs.owners →
      t.total ks ≤ i.reconnects + 1
        ∧ ∃ reason, ∀ k ∈ ks, cs.result? k = some (.error (.brokerUnreachable reason)) := by
  intro shared
  have reachable : Reachable bothCalled :=
    Reachable.start.run (show [.call shop, .call shop].foldlM step? {} = _ from rfl)
  have tries : Tries bothCalled bothAttempts bothGaveUp :=
    Tries.refl.run (show bothRefused.foldlM tryStep ({}, bothCalled) = some _ from rfl)
  have pending : ∀ k ∈ [0, 1], ∃ c, bothCalled.calls[k]? = some c ∧ c.caller = shop
      ∧ ∀ result, c.phase ≠ .finished result := by
    refine List.forall_mem_cons.2 ⟨?_, List.forall_mem_singleton.2 ?_⟩
    · exact ⟨_, rfl, rfl, nofun⟩
    · exact ⟨_, rfl, rfl, nofun⟩
  have ended : ∀ k ∈ [0, 1], ∃ result, bothGaveUp.result? k = some result := by
    refine List.forall_mem_cons.2 ⟨?_, List.forall_mem_singleton.2 ?_⟩
    · exact ⟨_, rfl⟩
    · exact ⟨_, rfl⟩
  have few := (shared shop bothCalled bothGaveUp bothAttempts [0, 1] reachable tries (by decide)
    nofun pending ended rfl List.not_mem_nil).1
  exact absurd few (by decide)

end Connections

end Courier
