/-
The calls that shut a relay down. One of them raises the flag, before it does
anything else; it goes through all the rest alone. Every other call finds the
flag raised and is told so.

# What is read off

A move is the turn of one shutdown (`ShutdownPassed`) or it lets all of them
be where they are (`ShutdownAside`): `shutdown_cases`. From this follows what
holds of them between any two moves (`Shutdowns`).

# The one disposal

The disposal of the connections is the only step of a shutdown that can fail,
and it does so only if another disposal came first. There is none: a disposal
is only made by the call that raised the flag of the relay, once
(`Shutdowns.disposal`). So its result is good (`result_of_single`).
-/
import Courier.Proofs.Connections.Safety
import Courier.Proofs.Relay.Moves

namespace Courier

-- ========================================================= the disposals

namespace Connections

variable {cs cs' : Connections}

/-- Who is told that the flag was raised was told so rightly. -/
theorem raised_of_refused (reachable : Reachable cs) {d : Nat} {f : Failure}
    (refused : cs.disposals[d]? = some (.finished (.error f))) : cs.disposed = true := by
  induction reachable generalizing d f with
  | start => cases refused
  | @step cs cs' m _ step ih =>
      have aside : Aside cs cs' → cs'.disposed = true := by
        intro aside
        rw [aside.disposals] at refused
        exact aside.flag.trans (ih refused)
      have other : ∀ {e : Nat} {phase : DisposalPhase},
          (cs.disposals.set e phase)[d]? = some (.finished (.error f)) →
          phase ≠ .finished (.error f) → cs.disposed = true := by
        intro e phase refused unlike
        rcases of_getElem?_set refused with ⟨-, same⟩ | ⟨-, old⟩
        · exact absurd same.symm unlike
        · exact ih old
      cases m with
      | call i =>
          cases step
          exact ih refused
      | advance k => exact aside (aside_advance step)
      | accepted k => exact aside (aside_accepted step)
      | refused k reason => exact aside (aside_refused step)
      | dispose =>
          cases step
          rcases of_getElem?_append refused with old | ⟨-, new⟩
          · exact ih old
          · cases new
      | proceed e =>
          rcases proceed_cases step with ⟨-, up, rfl⟩ | ⟨-, -, rfl⟩ | ⟨-, rfl⟩
            | ⟨_, _, _, _, -, -, -, rfl⟩ | ⟨_, _, -, -, rfl⟩ | ⟨-, rfl⟩
          · exact up
          · rfl
          · exact other refused nofun
          · exact other refused nofun
          · exact other refused nofun
          · exact other refused nofun

/-- A disposal without another one is not refused. -/
theorem result_of_single (reachable : Reachable cs) (single : cs.disposals.length = 1)
    {d : Nat} {result : Except Failure Unit} (ended : cs.disposed? d = some result) :
    result = .ok () := by
  have raised := (sound_of_reachable reachable).2
  rcases raised.result ended with ⟨-, good⟩ | ⟨not, bad⟩
  · exact good
  · -- somebody raised the flag, and there is nobody else
    exfalso
    subst bad
    unfold disposed? at ended
    split at ended
    next result hd =>
      cases ended
      obtain ⟨e, phase, he, up⟩ := raised.flag.1 (raised_of_refused reachable hd)
      have same : e = d := by
        have first := (List.getElem?_eq_some_iff.1 he).1
        have second := (List.getElem?_eq_some_iff.1 hd).1
        omega
      exact not ⟨phase, same ▸ he, up⟩
    next => cases ended

/-- A disposal without another one can always be brought to its end. -/
theorem finishes_of_single (reachable : Reachable cs) (single : cs.disposals.length = 1) :
    ∃ n cs', (List.replicate n (.proceed 0)).foldlM step? cs = some cs'
      ∧ cs'.disposed? 0 = some (.ok ()) := by
  obtain ⟨phase, only⟩ := List.length_eq_one_iff.1 single
  have first : cs.disposals[0]? = some phase := by rw [only]; rfl
  have alone : cs.disposed = true → phase.raised = true := by
    intro flag
    obtain ⟨d, other, hd, up⟩ := (sound_of_reachable reachable).2.flag.1 flag
    rw [only] at hd
    obtain rfl := List.mem_singleton.1 (List.mem_of_getElem? hd)
    exact up
  cases up : phase.raised with
  | true => exact HasRaised.finishes ⟨phase, first, up⟩
  | false =>
      cases phase with
      | raising =>
          have down : cs.disposed = false := by
            cases flag : cs.disposed with
            | false => rfl
            | true => cases alone flag
          have step : cs.step? (.proceed 0)
              = some ({ cs with disposed := true }.setDisposal 0 .draining) := by
            simp [step?, proceed, first, down]
          have raises : ({ cs with disposed := true }.setDisposal 0 .draining).HasRaised 0 :=
            ⟨.draining, getElem?_set_self_of_some first, rfl⟩
          obtain ⟨n, cs', run, done⟩ := raises.finishes
          refine ⟨n + 1, cs', ?_, done⟩
          rw [List.replicate_succ, List.foldlM_cons, step]
          exact run
      | finished result =>
          cases result with
          | ok value => cases up
          | error f => cases alone (raised_of_refused reachable first)
      | _ => cases up

/-- No move but a new one adds a disposal. -/
theorem disposals_step {m : ConnectionMove} (step : cs.step? m = some cs') (other : m ≠ .dispose) :
    cs'.disposals.length = cs.disposals.length := by
  cases m with
  | call i =>
      cases step
      rfl
  | advance k => rw [(aside_advance step).disposals]
  | accepted k => rw [(aside_accepted step).disposals]
  | refused k reason => rw [(aside_refused step).disposals]
  | dispose => exact absurd rfl other
  | proceed e =>
      rcases proceed_cases step with ⟨-, -, rfl⟩ | ⟨-, -, rfl⟩ | ⟨-, rfl⟩
        | ⟨_, _, _, _, -, -, -, rfl⟩ | ⟨_, _, -, -, rfl⟩ | ⟨-, rfl⟩ <;> exact List.length_set

end Connections

-- =========================================================== one shutdown

namespace ShutdownPhase

/-- Whether this call raised the flag, and was not given up. -/
def isFirst : ShutdownPhase → Bool
  | cancelling | waiting | closing _ | disposing _ | finished (.ok _) => true
  | entering | finished (.error _) | dropped => false

/-- Whether this call has begun to close things, and was not given up. -/
def isClosing : ShutdownPhase → Bool
  | closing _ | disposing _ | finished (.ok _) => true
  | _ => false

/-- Whether a call has ended, in whatever way. -/
def isOver : ShutdownPhase → Bool
  | finished _ | dropped => true
  | _ => false

/-- With so many disposals made, a call may have come so far. -/
def Fits (disposals : Nat) : ShutdownPhase → Prop
  | cancelling | waiting | closing _ => disposals = 0
  | disposing d => disposals = d + 1 ∧ d = 0
  | entering | finished _ | dropped => True

/-- Only the first call says anything about the disposals. -/
theorem fits_of_not_first {φ : ShutdownPhase} (other : φ.isFirst = false) (n : Nat) : φ.Fits n := by
  cases φ with
  | entering => trivial
  | finished result => trivial
  | dropped => trivial
  | _ => cases other

end ShutdownPhase

/-- A shutdown goes on. -/
inductive ShutdownTurn (r : Relay) : ShutdownPhase → ShutdownPhase → Prop where
  | late : r.disposed = true → ShutdownTurn r .entering (.finished (.error .alreadyDisposed))
  | claims : r.disposed = false → ShutdownTurn r .entering .cancelling
  | cancels : ShutdownTurn r .cancelling .waiting
  | idles : r.isIdle = true →
    ShutdownTurn r .waiting (.closing (r.publisher.outlets.map Prod.fst))
  | closes {name : String} {rest : List String} :
    ShutdownTurn r (.closing (name :: rest)) (.closing rest)
  | disposes : ShutdownTurn r (.closing []) (.disposing r.connections.disposals.length)
  | ends {d : Nat} {result : Except Failure Unit} : r.connections.disposed? d = some result →
    ShutdownTurn r (.disposing d) (.finished result)
  | drops {φ : ShutdownPhase} : φ.isOver = false → ShutdownTurn r φ .dropped

/-- Only a call that finds the flag down raises it. -/
theorem ShutdownTurn.first {r : Relay} {φ φ' : ShutdownPhase} (turn : ShutdownTurn r φ φ')
    (first : φ'.isFirst = true) : φ.isFirst = true ∨ r.disposed = false := by
  cases turn with
  | claims fresh => exact .inr fresh
  | late _ => cases first
  | drops _ => cases first
  | _ => exact .inl rfl

namespace Relay

variable {b : Blueprint} {r r' : Relay} {k : Nat} {m : RelayMove}

/-- What a move of shutdown `k` leaves of the relay. -/
structure ShutdownPassed (r r' : Relay) (k : Nat) (φ φ' : ShutdownPhase) : Prop where
  before : r.shutdowns[k]? = some φ
  turn : ShutdownTurn r φ φ'
  shutdowns : r'.shutdowns = r.shutdowns.set k φ'
  disposed : r'.disposed = (r.disposed || φ' matches .cancelling)
  cancelled : r'.cancelled = (r.cancelled || φ' matches .waiting)
  connections : r'.connections = if φ' matches .disposing _
    then r.connections.step .dispose else r.connections

/-- A shutdown that goes on makes its turn, one case for each of its phases. -/
theorem passed_advanceShutdown (step : r.advanceShutdown k = some r') :
    ∃ φ φ', ShutdownPassed r r' k φ φ' := by
  unfold advanceShutdown at step
  obtain ⟨φ, before, step⟩ := Option.bind_eq_some_iff.1 step
  split at step
  · split at step
    next shut =>
      cases step
      exact ⟨_, _, before, .late shut, rfl, by simp [setShutdown], by simp [setShutdown], rfl⟩
    next fresh =>
      cases step
      exact ⟨_, _, before, .claims (by simpa using fresh), rfl, by simp [setShutdown],
        by simp [setShutdown], rfl⟩
  · cases step
    exact ⟨_, _, before, .cancels, rfl, by simp [setShutdown, cancelToken],
      by simp [setShutdown, cancelToken], rfl⟩
  · split at step
    next idle =>
      cases step
      exact ⟨_, _, before, .idles idle, rfl, by simp [setShutdown], by simp [setShutdown], rfl⟩
    next => cases step
  · cases step
    exact ⟨_, _, before, .closes, rfl, by simp [setShutdown], by simp [setShutdown], rfl⟩
  · cases step
    exact ⟨_, _, before, .disposes, rfl, by simp [setShutdown], by simp [setShutdown], rfl⟩
  · obtain ⟨result, ended, step⟩ := Option.bind_eq_some_iff.1 step
    cases step
    exact ⟨_, _, before, .ends ended, rfl, by simp [setShutdown], by simp [setShutdown], rfl⟩
  · cases step
  · cases step

theorem passed_dropShutdown (step : r.dropShutdown k = some r') :
    ∃ φ φ', ShutdownPassed r r' k φ φ' := by
  unfold dropShutdown at step
  obtain ⟨φ, before, step⟩ := Option.bind_eq_some_iff.1 step
  cases φ with
  | finished result => cases step
  | dropped => cases step
  | _ =>
      cases step
      exact ⟨_, _, before, .drops rfl, rfl, by simp [setShutdown], by simp [setShutdown], rfl⟩

/-- A move that lets all shutdowns be where they are. -/
structure ShutdownAside (r r' : Relay) : Prop where
  shutdowns : r'.shutdowns = r.shutdowns ∨ r'.shutdowns = r.shutdowns ++ [.entering]
  disposed : r'.disposed = r.disposed
  cancelled : r.cancelled = true → r'.cancelled = true
  connections : r'.connections = r.connections
    ∨ ∃ m, m ≠ .dispose ∧ r.connections.step? m = some r'.connections

/-- Every shutdown stays where it is. -/
theorem ShutdownAside.kept {φ : ShutdownPhase} (aside : ShutdownAside r r')
    (call : r.shutdowns[k]? = some φ) : r'.shutdowns[k]? = some φ := by
  rcases aside.shutdowns with same | added
  · exact same ▸ call
  · rw [added]
    exact getElem?_append_of_some call

/-- One that is found was there before, or is new. -/
theorem ShutdownAside.old {φ : ShutdownPhase} (aside : ShutdownAside r r')
    (call : r'.shutdowns[k]? = some φ) : r.shutdowns[k]? = some φ ∨ φ = .entering := by
  rcases aside.shutdowns with same | added
  · exact .inl (same ▸ call)
  · rw [added] at call
    exact (of_getElem?_append call).imp_right (·.2)

/-- The turn of a start is no concern of the shutdowns. -/
theorem Passed.shutdownAside {φ φ' : StartPhase} (passed : Passed r r' k m φ φ') :
    ShutdownAside r r' :=
  ⟨.inl passed.shutdowns, passed.disposed, fun seen => passed.cancelled.trans seen,
    .inl passed.connections⟩

/-- A move is the turn of a shutdown, or no concern of the shutdowns. -/
theorem shutdown_cases (step : r.step? m = some r') :
    (∃ k φ φ', ShutdownPassed r r' k φ φ') ∨ ShutdownAside r r' := by
  cases m with
  | start =>
      cases step
      exact .inr ⟨.inl rfl, rfl, id, .inl rfl⟩
  | advanceStart k =>
      obtain ⟨φ, φ', passed⟩ := passed_advanceStart step
      exact .inr passed.shutdownAside
  | jobDone k =>
      obtain ⟨φ, φ', passed⟩ := passed_jobDone step
      exact .inr passed.shutdownAside
  | jobFailed k f =>
      obtain ⟨φ, φ', passed⟩ := passed_jobFailed (f := f) step
      exact .inr passed.shutdownAside
  | dropStart k =>
      obtain ⟨φ, φ', passed⟩ := passed_dropStart step
      exact .inr passed.shutdownAside
  | shutdown =>
      cases step
      exact .inr ⟨.inr rfl, rfl, id, .inl rfl⟩
  | advanceShutdown k => exact .inl ⟨k, passed_advanceShutdown step⟩
  | dropShutdown k => exact .inl ⟨k, passed_dropShutdown step⟩
  | cancelToken =>
      cases step
      exact .inr ⟨.inl rfl, rfl, fun _ => rfl, .inl rfl⟩
  | publish m =>
      simp only [step?, publish] at step
      split at step
      · cases step
      · cases step
      · obtain ⟨p, -, step⟩ := Option.bind_eq_some_iff.1 step
        cases step
        exact .inr ⟨.inl rfl, rfl, id, .inl rfl⟩
  | connect m =>
      simp only [step?, connect] at step
      split at step
      · cases step
      next other =>
        obtain ⟨cs, moved, step⟩ := Option.bind_eq_some_iff.1 step
        cases step
        exact .inr ⟨.inl rfl, rfl, id, .inr ⟨m, other, moved⟩⟩
  | consume name m =>
      simp only [step?, consume] at step
      split at step
      · cases step
      · cases step
      · cases step
      · obtain ⟨t, -, step⟩ := Option.bind_eq_some_iff.1 step
        obtain ⟨t', -, step⟩ := Option.bind_eq_some_iff.1 step
        cases step
        exact .inr ⟨.inl rfl, rfl, id, .inl rfl⟩

/-- The connections of a relay are some that can come about. -/
theorem connections_of_reachable (reachable : Reachable b r) :
    Connections.Reachable r.connections := by
  induction reachable with
  | start created =>
      obtain ⟨p, -, rfl⟩ := create_cases created
      exact .start
  | @step r r' m _ step reachable =>
      rcases shutdown_cases step with ⟨k, φ, φ', passed⟩ | aside
      · rw [passed.connections]
        split
        · exact .step .dispose reachable rfl
        · exact reachable
      · rcases aside.connections with same | ⟨m, -, step⟩
        · exact same ▸ reachable
        · exact .step m reachable step

-- ======================================================== the invariant

/-- What holds of the shutdowns between any two moves. -/
structure Shutdowns (r : Relay) : Prop where
  fresh : r.disposed = false → r.connections.disposals = []
    ∧ ∀ (k : Nat) (φ : ShutdownPhase), r.shutdowns[k]? = some φ → φ = .entering ∨ φ = .dropped
  once : ∀ (k k' : Nat) (φ φ' : ShutdownPhase), r.shutdowns[k]? = some φ →
    r.shutdowns[k']? = some φ' → φ.isFirst = true → φ'.isFirst = true → k = k'
  cancelled : ∀ (k : Nat) (φ : ShutdownPhase), r.shutdowns[k]? = some φ → φ.isFirst = true →
    φ = .cancelling ∨ r.cancelled = true
  refused : ∀ (k : Nat) (f : Failure), r.shutdowns[k]? = some (.finished (.error f)) →
    f = .alreadyDisposed
  disposal : ∀ (k : Nat) (φ : ShutdownPhase), r.shutdowns[k]? = some φ →
    φ.Fits r.connections.disposals.length

/-- Where the first call has raised the flag, the flag is up. -/
theorem Shutdowns.disposed (shutdowns : Shutdowns r) {φ : ShutdownPhase}
    (call : r.shutdowns[k]? = some φ) (first : φ.isFirst = true) : r.disposed = true := by
  cases flag : r.disposed with
  | true => rfl
  | false => rcases (shutdowns.fresh flag).2 k φ call with rfl | rfl <;> cases first

-- ================================================== a call that goes on

section passed

variable {φ φ' : ShutdownPhase}

/-- While the flag is down, no call has come further than its entry. -/
theorem Shutdowns.fresh_passed (shutdowns : Shutdowns r) (passed : ShutdownPassed r r' k φ φ')
    (down : r'.disposed = false) : r'.connections.disposals = []
      ∧ ∀ (j : Nat) (ψ : ShutdownPhase), r'.shutdowns[j]? = some ψ →
        ψ = .entering ∨ ψ = .dropped := by
  rw [passed.disposed, Bool.or_eq_false_iff] at down
  obtain ⟨down, unclaimed⟩ := down
  obtain ⟨none, all⟩ := shutdowns.fresh down
  -- nobody is further than its entry, so the call can only be given up
  have given : φ' = .dropped ∧ r'.connections = r.connections := by
    have connections := passed.connections
    have before := passed.before
    cases passed.turn with
    | drops _ => exact ⟨rfl, connections⟩
    | claims _ => cases unclaimed
    | late up =>
        rw [down] at up
        cases up
    | _ => rcases all k _ before with no | no <;> cases no
  refine ⟨given.2 ▸ none, fun j ψ call => ?_⟩
  rw [passed.shutdowns] at call
  rcases of_getElem?_set call with ⟨-, rfl⟩ | ⟨-, old⟩
  · exact .inr given.1
  · exact all j ψ old

/-- There is one call at most that raised the flag. -/
theorem Shutdowns.once_passed (shutdowns : Shutdowns r) (passed : ShutdownPassed r r' k φ φ')
    {j j' : Nat} {ψ ψ' : ShutdownPhase} (call : r'.shutdowns[j]? = some ψ)
    (call' : r'.shutdowns[j']? = some ψ') (raised : ψ.isFirst = true)
    (raised' : ψ'.isFirst = true) : j = j' := by
  have up : ∀ (i : Nat) (χ : ShutdownPhase), r.shutdowns[i]? = some χ → χ.isFirst = true →
      φ'.isFirst = true → i = k := by
    intro i χ old theirs mine
    rcases passed.turn.first mine with mine | down
    · exact shutdowns.once i k χ φ old passed.before theirs mine
    · rw [shutdowns.disposed old theirs] at down
      cases down
  rw [passed.shutdowns] at call call'
  rcases of_getElem?_set call with ⟨rfl, rfl⟩ | ⟨-, old⟩
  · rcases of_getElem?_set call' with ⟨rfl, -⟩ | ⟨-, old'⟩
    · rfl
    · exact (up j' ψ' old' raised' raised).symm
  · rcases of_getElem?_set call' with ⟨rfl, rfl⟩ | ⟨-, old'⟩
    · exact up j ψ old raised raised'
    · exact shutdowns.once j j' ψ ψ' old old' raised raised'

/-- That call cancels the token before it goes on. -/
theorem Shutdowns.cancelled_passed (shutdowns : Shutdowns r) (passed : ShutdownPassed r r' k φ φ')
    {j : Nat} {ψ : ShutdownPhase} (call : r'.shutdowns[j]? = some ψ) (raised : ψ.isFirst = true) :
    ψ = .cancelling ∨ r'.cancelled = true := by
  have before := passed.before
  rw [passed.cancelled]
  rw [passed.shutdowns] at call
  rcases of_getElem?_set call with ⟨-, rfl⟩ | ⟨-, old⟩
  · cases passed.turn with
    | claims _ => exact .inl rfl
    | cancels => exact .inr (Bool.or_true _)
    | late _ => cases raised
    | drops _ => cases raised
    | _ =>
        rcases shutdowns.cancelled k _ before rfl with no | seen
        · cases no
        · exact .inr (by simp [seen])
  · rcases shutdowns.cancelled j ψ old raised with at_once | seen
    · exact .inl at_once
    · exact .inr (by simp [seen])

/-- A call that fails says that the relay was disposed already; there is no other
failure. -/
theorem Shutdowns.refused_passed (shutdowns : Shutdowns r)
    (reachable : Connections.Reachable r.connections) (passed : ShutdownPassed r r' k φ φ')
    {j : Nat} {f : Failure} (call : r'.shutdowns[j]? = some (.finished (.error f))) :
    f = .alreadyDisposed := by
  have fits := shutdowns.disposal k φ passed.before
  rw [passed.shutdowns] at call
  rcases of_getElem?_set call with ⟨-, same⟩ | ⟨-, old⟩
  · subst same
    cases passed.turn with
    | late _ => rfl
    | ends ended =>
        obtain ⟨single, rfl⟩ := fits
        cases Connections.result_of_single reachable single ended
  · exact shutdowns.refused j f old

/-- The connections are disposed once, by that call. -/
theorem Shutdowns.disposal_passed (shutdowns : Shutdowns r) (passed : ShutdownPassed r r' k φ φ')
    {j : Nat} {ψ : ShutdownPhase} (call : r'.shutdowns[j]? = some ψ) :
    ψ.Fits r'.connections.disposals.length := by
  have before := passed.before
  have fits := shutdowns.disposal k φ before
  rw [passed.shutdowns] at call
  rw [passed.connections]
  rcases of_getElem?_set call with ⟨-, rfl⟩ | ⟨other, old⟩
  · cases passed.turn with
    | claims fresh => simp [ShutdownPhase.Fits, (shutdowns.fresh fresh).1]
    | disposes => exact ⟨List.length_append, fits⟩
    | cancels => exact fits
    | idles _ => exact fits
    | closes => exact fits
    | _ => trivial
  · -- a disposal that is made is no concern of any other call
    split
    next =>
      refine ShutdownPhase.fits_of_not_first ?_ _
      have mine : φ.isFirst = true := by
        cases passed.turn with
        | disposes => rfl
      cases theirs : ψ.isFirst with
      | false => rfl
      | true => exact absurd (shutdowns.once j k ψ φ old before theirs mine) other
    next => exact shutdowns.disposal j ψ old

theorem Shutdowns.passed (shutdowns : Shutdowns r)
    (reachable : Connections.Reachable r.connections) (passed : ShutdownPassed r r' k φ φ') :
    Shutdowns r' where
  fresh := shutdowns.fresh_passed passed
  once _ _ _ _ := shutdowns.once_passed passed
  cancelled _ _ := shutdowns.cancelled_passed passed
  refused _ _ := shutdowns.refused_passed reachable passed
  disposal _ _ := shutdowns.disposal_passed passed

end passed

/-- Moves that are no concern of the shutdowns keep all of this. -/
theorem Shutdowns.aside (shutdowns : Shutdowns r) (aside : ShutdownAside r r') : Shutdowns r' := by
  have first : ∀ (k : Nat) (φ : ShutdownPhase), r'.shutdowns[k]? = some φ → φ.isFirst = true →
      r.shutdowns[k]? = some φ := by
    intro k φ call first
    rcases aside.old call with call | rfl
    · exact call
    · cases first
  have disposals : r'.connections.disposals.length = r.connections.disposals.length := by
    rcases aside.connections with same | ⟨m, other, step⟩
    · rw [same]
    · exact Connections.disposals_step step other
  refine ⟨?_, ?_, ?_, ?_, ?_⟩
  · intro down
    obtain ⟨none, all⟩ := shutdowns.fresh (aside.disposed ▸ down)
    refine ⟨?_, fun k φ call => ?_⟩
    · rw [none] at disposals
      exact List.length_eq_zero_iff.1 disposals
    · rcases aside.old call with call | entering
      · exact all k φ call
      · exact .inl entering
  · intro k k' φ φ' call call' raised raised'
    exact shutdowns.once k k' φ φ' (first k φ call raised) (first k' φ' call' raised') raised
      raised'
  · intro k φ call raised
    exact (shutdowns.cancelled k φ (first k φ call raised) raised).imp_right aside.cancelled
  · intro k f call
    rcases aside.old call with call | no
    · exact shutdowns.refused k f call
    · cases no
  · intro k φ call
    rcases aside.old call with call | rfl
    · rw [disposals]
      exact shutdowns.disposal k φ call
    · trivial

/-- It holds in every relay that can come about. -/
theorem shutdowns_of_reachable (reachable : Reachable b r) : Shutdowns r := by
  induction reachable with
  | start created =>
      obtain ⟨p, -, rfl⟩ := create_cases created
      exact ⟨fun _ => ⟨rfl, nofun⟩, nofun, nofun, nofun, nofun⟩
  | step m reachable step shutdowns =>
      rcases shutdown_cases step with ⟨k, φ, φ', passed⟩ | aside
      · exact shutdowns.passed (connections_of_reachable reachable) passed
      · exact shutdowns.aside aside

end Relay

end Courier
