/-
Messages at the gate, when a relay is started, shut down, or neither. Such a
message waits for the signal and for nothing else: closing its pool ends the
wait for a channel, but this message has one. And the signal fires at the
end of the one startup pass only.

So what matters is whether that pass can still come to its end (`CanFire`):
it is under way, or nobody has claimed it and somebody still may. A start
may claim it that looked for a shutdown before there was one, or any start
while there is none. Otherwise the signal never fires, and whoever is at the
gate stays there (`gate_opens_iff`): after a shutdown that came before any
start, and after a start that was given up in its pass.

# The two directions

If the pass can come to its end, a run takes it there, with every job done,
and the message then goes on by itself. If it cannot, no move changes that
(`barred_step`): a new start finds the relay shut down or started.
-/
import Courier.Proofs.Publisher.Progress
import Courier.Proofs.Relay.Moves

namespace Courier.Relay

variable {b : Blueprint} {r r' : Relay} {k t : Nat} {s : Send} {m : RelayMove}

-- ==================================================== the startup pass

/-- The signal has fired, or the startup pass can still come to its end. -/
def CanFire (r : Relay) : Prop :=
  r.publisher.ready = true
    ∨ (∃ (k : Nat) (jobs : List Job) (n : Nat), r.starts[k]? = some (.passing jobs n))
    ∨ r.started = false ∧ ((∃ k : Nat, r.starts[k]? = some .claiming) ∨ r.disposed = false)

/-- The signal has not fired, and no startup pass can come to its end. -/
structure Barred (r : Relay) : Prop where
  unready : r.publisher.ready = false
  noPass : ∀ (k : Nat) (jobs : List Job) (n : Nat), r.starts[k]? ≠ some (.passing jobs n)
  noClaim : r.started = false → r.disposed = true ∧ ∀ k : Nat, r.starts[k]? ≠ some .claiming

/-- Where the signal can no longer fire, the pass is barred. -/
theorem barred_of_not_canFire (closed : ¬ CanFire r) : Barred r := by
  unfold CanFire at closed
  simp only [not_or, not_and, not_exists, Bool.not_eq_true, Bool.not_eq_false] at closed
  obtain ⟨unready, noPass, noClaim⟩ := closed
  exact ⟨unready, noPass, fun fresh => ⟨(noClaim fresh).2, (noClaim fresh).1⟩⟩

/-- No start comes into the pass, and one about to claim it finds it claimed. -/
theorem Barred.turn {φ φ' : StartPhase} (barred : Barred r) (before : r.starts[k]? = some φ)
    (turn : StartTurn r k m φ φ') : (∀ jobs n, φ' ≠ .passing jobs n) ∧ (∀ n, φ' ≠ .reporting n)
      ∧ (φ' = .claiming → r.started = true) := by
  cases turn with
  | enters opened =>
      refine ⟨nofun, nofun, fun _ => ?_⟩
      cases fresh : r.started with
      | true => rfl
      | false =>
          rw [(barred.noClaim fresh).1] at opened
          cases opened
  | claims fresh => exact absurd before ((barred.noClaim fresh).2 k)
  | fires => exact absurd before (barred.noPass k _ _)
  | does => exact absurd before (barred.noPass k _ _)
  | fails => exact absurd before (barred.noPass k _ _)
  | _ => exact ⟨nofun, nofun, nofun⟩

/-- No turn of a start lifts the bar. -/
theorem Barred.passed {φ φ' : StartPhase} (barred : Barred r) (passed : Passed r r' k m φ φ') :
    Barred r' := by
  obtain ⟨noPass, noReport, noClaim⟩ := barred.turn passed.before passed.turn
  refine ⟨?_, ?_, ?_⟩
  · rw [passed.publisher]
    cases φ' with
    | reporting n => exact absurd rfl (noReport n)
    | _ => exact barred.unready
  · intro k' jobs n passing
    rw [passed.starts] at passing
    rcases of_getElem?_set passing with ⟨-, same⟩ | ⟨-, old⟩
    · exact noPass jobs n same.symm
    · exact barred.noPass k' jobs n old
  · intro fresh
    have unstarted : r.started = false := by
      have started := passed.started
      rw [fresh] at started
      exact (Bool.or_eq_false_iff.1 started.symm).1
    obtain ⟨disposed, old⟩ := barred.noClaim unstarted
    refine ⟨passed.disposed.trans disposed, ?_⟩
    intro k' claiming
    rw [passed.starts] at claiming
    rcases of_getElem?_set claiming with ⟨-, same⟩ | ⟨-, before⟩
    · rw [noClaim same.symm] at unstarted
      cases unstarted
    · exact old k' before

/-- Nor does any other move: a new start comes too late. -/
theorem Barred.aside (barred : Barred r) (reachable : Reachable b r) (aside : Aside r r')
    (starts : r'.starts = r.starts ∨ m = .start ∧ r'.starts = r.starts ++ [.entering]) :
    Barred r' := by
  refine ⟨(aside.ready reachable).trans barred.unready, ?_, ?_⟩
  · intro k jobs n passing
    exact barred.noPass k jobs n (begun_of_aside starts passing (by simp))
  · intro fresh
    obtain ⟨disposed, noClaim⟩ := barred.noClaim (aside.started ▸ fresh)
    exact ⟨aside.disposed disposed,
      fun k claiming => noClaim k (begun_of_aside starts claiming (by simp))⟩

/-- Where the pass cannot come to its end, no move makes it possible. -/
theorem barred_step (reachable : Reachable b r) (barred : Barred r)
    (step : r.step? m = some r') : Barred r' := by
  rcases step_cases step with ⟨k, φ, φ', passed⟩ | ⟨aside, starts⟩
  · exact barred.passed passed
  · exact barred.aside reachable aside starts

/-- There a message stays at the gate. -/
theorem gated_step (reachable : Reachable b r) (barred : Barred r)
    (step : r.step? m = some r') (sent : r.publisher.sends[k]? = some s)
    (phase : s.phase = .gated t) : r'.publisher.sends[k]? = some s := by
  have unready := (barred_step reachable barred step).unready
  rcases step_cases step with ⟨k', φ, φ', passed⟩ | ⟨aside, -⟩
  · rw [passed.publisher] at unready ⊢
    split
    · exact sent
    · exact sent
  · rcases aside.publisher with same | ⟨m, unfired, step⟩
    · rw [same]
      exact sent
    · have links := Publisher.links_of_reachable (publisher_of_reachable reachable)
      exact Publisher.gated_step links barred.unready unfired step sent phase

/-- So whatever comes, a message at the gate stays there. -/
theorem Barred.leads (barred : Barred r) (reachable : Reachable b r) (leads : Leads r r')
    (sent : r.publisher.sends[k]? = some s) (phase : s.phase = .gated t) :
    Barred r' ∧ r'.publisher.sends[k]? = some s := by
  refine leads.keeps (I := fun q => Barred q ∧ q.publisher.sends[k]? = some s) reachable
    ⟨barred, sent⟩ ?_
  rintro q q' m reachable ⟨barred, sent⟩ step
  exact ⟨barred_step reachable barred step, gated_step reachable barred step sent phase⟩

-- ========================================================= to the signal

/-- A start in its pass comes to its end if every job is done. -/
theorem fires_of_passing {jobs : List Job} {n : Nat}
    (passing : r.starts[k]? = some (.passing jobs n)) :
    ∃ r', Leads r r' ∧ r'.publisher = { r.publisher with ready := true } := by
  induction jobs generalizing r n with
  | nil =>
      have step : r.step? (.advanceStart k) = some
          (({ r with publisher := { r.publisher with ready := true } }).setStart k
            (.reporting n)) := by
        simp only [step?, advanceStart, passing]
        rfl
      exact ⟨_, .single ⟨_, step⟩, rfl⟩
  | cons j rest ih =>
      have step : r.step? (.jobDone k) = some
          ((r.perform j).setStart k (.passing rest (n + listenersOf j))) := by
        simp [step?, jobDone, passing]
      obtain ⟨intakes, same⟩ := perform_eq r j
      rw [same] at step
      have next : (({ r with intakes := intakes }).setStart k
          (.passing rest (n + listenersOf j))).starts[k]?
          = some (.passing rest (n + listenersOf j)) := getElem?_set_self_of_some passing
      obtain ⟨r', leads, fired⟩ := ih next
      exact ⟨r', .head ⟨_, step⟩ leads, fired⟩

/-- A start that is about to claim the pass can take it to its end. -/
theorem fires_of_claiming (fresh : r.started = false) (claiming : r.starts[k]? = some .claiming) :
    ∃ r', Leads r r' ∧ r'.publisher = { r.publisher with ready := true } := by
  have step : r.step? (.advanceStart k) = some
      (({ r with started := true }).setStart k (.passing (Job.all r.instances) 0)) := by
    simp [step?, advanceStart, claiming, fresh]
  have next : (({ r with started := true }).setStart k
      (.passing (Job.all r.instances) 0)).starts[k]? = some (.passing (Job.all r.instances) 0) :=
    getElem?_set_self_of_some claiming
  obtain ⟨r', leads, fired⟩ := fires_of_passing next
  exact ⟨r', .head ⟨_, step⟩ leads, fired⟩

/-- A new start claims the pass if there is no shutdown. -/
theorem fires_of_open (fresh : r.started = false) (opened : r.disposed = false) :
    ∃ r', Leads r r' ∧ r'.publisher = { r.publisher with ready := true } := by
  have called : r.step? .start = some { r with starts := r.starts ++ [.entering] } := rfl
  have entering : (r.starts ++ [StartPhase.entering])[r.starts.length]? = some .entering :=
    List.getElem?_concat_length
  have entered : ({ r with starts := r.starts ++ [.entering] } : Relay).step?
      (.advanceStart r.starts.length) = some (({ r with starts := r.starts ++ [.entering] } :
        Relay).setStart r.starts.length .claiming) := by
    simp [step?, advanceStart, opened]
  have claiming : (({ r with starts := r.starts ++ [.entering] } : Relay).setStart
      r.starts.length .claiming).starts[r.starts.length]? = some .claiming :=
    getElem?_set_self_of_some entering
  obtain ⟨r', leads, fired⟩ := fires_of_claiming (by exact fresh) claiming
  exact ⟨r', .head ⟨_, called⟩ (.head ⟨_, entered⟩ leads), fired⟩

/-- Where the signal can fire, some moves of the relay fire it, and change nothing
else of the publisher. -/
theorem fires_of_canFire (can : CanFire r) :
    ∃ r', Leads r r' ∧ r'.publisher = { r.publisher with ready := true } := by
  rcases can with ready | ⟨k, jobs, n, passing⟩ | ⟨fresh, ⟨k, claiming⟩ | opened⟩
  · refine ⟨r, .refl, ?_⟩
    rw [← ready]
  · exact fires_of_passing passing
  · exact fires_of_claiming fresh claiming
  · exact fires_of_open fresh opened

theorem publish_of_smooth {m : PublisherMove} {p : Publisher} (smooth : m.IsSmooth)
    (step : r.publisher.step? m = some p) :
    r.step? (.publish m) = some { r with publisher := p } := by
  cases m with
  | advance k => exact Option.bind_eq_some_iff.2 ⟨p, step, rfl⟩
  | made k => exact Option.bind_eq_some_iff.2 ⟨p, step, rfl⟩
  | accepted k => exact Option.bind_eq_some_iff.2 ⟨p, step, rfl⟩
  | _ => cases smooth

/-- What messages do by themselves they do in a relay. -/
theorem leads_publish {p : Publisher}
    (leads : Publisher.Leads PublisherMove.IsSmooth r.publisher p) :
    Leads r { r with publisher := p } := by
  induction leads with
  | refl => exact .refl
  | tail _ step leads =>
      obtain ⟨m, smooth, step⟩ := step
      exact .tail leads ⟨.publish m, publish_of_smooth smooth step⟩

-- ======================================================== at the gate

/-- A message at the gate, in any relay that can come about. The signal can
still fire exactly if the startup pass can come to its end, and exactly then
the message can be sent. Otherwise it stays at the gate, whatever happens. -/
theorem gate_opens_iff (reachable : Reachable b r) (sent : r.publisher.sends[k]? = some s)
    (phase : s.phase = .gated t) :
    ((∃ r', Leads r r' ∧ r'.publisher.ready = true) ↔ CanFire r)
      ∧ ((∃ r', Leads r r' ∧ r'.publisher.result? k = some (.ok ())) ↔ CanFire r)
      ∧ (¬ CanFire r → ∀ r', Leads r r' → r'.publisher.sends[k]? = some s) := by
  have stays : ¬ CanFire r → ∀ r', Leads r r' → Barred r' ∧ r'.publisher.sends[k]? = some s :=
    fun closed r' leads => (barred_of_not_canFire closed).leads reachable leads sent phase
  refine ⟨⟨?_, ?_⟩, ⟨?_, ?_⟩, fun closed r' leads => (stays closed r' leads).2⟩
  · rintro ⟨r', leads, ready⟩
    by_contra closed
    rw [(stays closed r' leads).1.unready] at ready
    cases ready
  · intro can
    obtain ⟨r', leads, fired⟩ := fires_of_canFire can
    exact ⟨r', leads, by rw [fired]⟩
  · rintro ⟨r', leads, ended⟩
    by_contra closed
    obtain ⟨s', sent', ended⟩ := Publisher.result?_eq_some.1 ended
    rw [(stays closed r' leads).2] at sent'
    cases sent'
    rw [phase] at ended
    cases ended
  · intro can
    obtain ⟨r', leads, fired⟩ := fires_of_canFire can
    have links := Publisher.links_of_reachable
      (publisher_of_reachable (leads.reachable reachable))
    obtain ⟨p, more, ended⟩ := Publisher.sent_when_ready links (by rw [fired])
      (by rw [fired]; exact sent) (.inr phase)
    exact ⟨_, leads.trans (leads_publish more), ended⟩

/-- An instance that consumes and publishes. -/
def bakery : Instance where
  name := "bakery"
  connection := {}
  consumer := some ⟨{ group := "bakers", maxParallelism := 1 }, []⟩
  producer := some { maxPoolLength := 1 }
  init := none

/-- A message for an exchange of it. -/
def loaf : Posting where
  instanceName := "bakery"
  target := .exchange "loaves" ""
  messageType := "Loaf"
  body := .ok []

/-- A relay of the bakery, with nothing begun. -/
def unopened : Relay where
  instances := [bakery]
  publisher := {
    outlets := [("bakery", ⟨{ maxPoolLength := 1 }, { capacity := 1, permits := 1 }⟩)] }

/-- A loaf is sent and comes to the gate. -/
def baking : List RelayMove := [
  .publish (.post loaf), .publish (.advance 0), .publish (.advance 0), .publish (.made 0),
  .publish (.advance 0)]

/-- The loaf at the gate, its pool open or closed. -/
def waitingLoaf (isOpen : Bool) : Publisher where
  outlets := [("bakery", ⟨{ maxPoolLength := 1 }, {
    capacity := 1, permits := 0, isOpen := isOpen, created := [0], makings := 1,
    takers := [.holding 0] }⟩)]
  sends := [⟨loaf, .gated 0⟩]

def afterBaking : Relay := { unopened with publisher := waitingLoaf true }

theorem reachable_afterBaking : Reachable ⟨[bakery]⟩ afterBaking :=
  (Reachable.start (r := unopened) rfl).run baking rfl

theorem gate_opens_for_loaf : CanFire afterBaking
    ∧ ∃ r', Leads afterBaking r' ∧ r'.publisher.result? 0 = some (.ok ()) :=
  have can : CanFire afterBaking := .inr (.inr ⟨rfl, .inr rfl⟩)
  ⟨can, (gate_opens_iff reachable_afterBaking (k := 0) (t := 0) (s := ⟨loaf, .gated 0⟩) rfl
    rfl).2.1.2 can⟩

/-- A whole shutdown, without a start before it. -/
def closing : List RelayMove := [
  .shutdown, .advanceShutdown 0, .advanceShutdown 0, .advanceShutdown 0, .advanceShutdown 0,
  .advanceShutdown 0, .connect (.proceed 0), .connect (.proceed 0), .connect (.proceed 0),
  .advanceShutdown 0]

def afterClosing : Relay where
  instances := [bakery]
  publisher := waitingLoaf false
  connections := { disposed := true, disposals := [.finished (.ok ())] }
  disposed := true
  cancelled := true
  shutdowns := [.finished (.ok ())]

/-- A start that is given up in its pass. -/
def givingUp : List RelayMove := [.start, .advanceStart 0, .advanceStart 0, .dropStart 0]

def afterGivingUp : Relay := { afterBaking with started := true, starts := [.dropped] }

/-- The loaf stays at the gate for good, once a shutdown has returned, and
once a start was given up. -/
theorem loaf_stranded :
    (Reachable ⟨[bakery]⟩ afterClosing ∧ afterClosing.stopped? 0 = some (.ok ())
      ∧ ∀ r', Leads afterClosing r' → r'.publisher.ready = false
        ∧ r'.publisher.sends[0]? = some ⟨loaf, .gated 0⟩)
    ∧ Reachable ⟨[bakery]⟩ afterGivingUp ∧ afterGivingUp.disposed = false
      ∧ ∀ r', Leads afterGivingUp r' → r'.publisher.ready = false
        ∧ r'.publisher.sends[0]? = some ⟨loaf, .gated 0⟩ := by
  have closed : Reachable ⟨[bakery]⟩ afterClosing := reachable_afterBaking.run closing rfl
  have givenUp : Reachable ⟨[bakery]⟩ afterGivingUp :=
    reachable_afterBaking.run givingUp rfl
  refine ⟨⟨closed, rfl, ?_⟩, givenUp, rfl, ?_⟩
  · intro r' leads
    have barred : Barred afterClosing := ⟨rfl, nofun, fun _ => ⟨rfl, nofun⟩⟩
    obtain ⟨barred, sent⟩ := barred.leads closed leads (k := 0) (t := 0)
      (s := ⟨loaf, .gated 0⟩) rfl rfl
    exact ⟨barred.unready, sent⟩
  · intro r' leads
    have noPass : ∀ (k : Nat) (jobs : List Job) (n : Nat),
        afterGivingUp.starts[k]? ≠ some (.passing jobs n) := by
      intro k jobs n passing
      cases k with
      | zero => cases passing
      | succ k => cases passing
    have barred : Barred afterGivingUp := ⟨rfl, noPass, nofun⟩
    obtain ⟨barred, sent⟩ := barred.leads givenUp leads (k := 0) (t := 0)
      (s := ⟨loaf, .gated 0⟩) rfl rfl
    exact ⟨barred.unready, sent⟩

end Courier.Relay
