/-
Handing a message to the broker, from the channel and the open gate to the
end.

A message with a payload is handed over until the broker takes it, and no more
often than its settings grant; every time it is the same publication, of that
payload to the exchange and with the routing key that the message is for
(`Publication.Carries`). What the session does is the trial of these attempts (`Persistence.Lasts`): it asks the
broker as often, logs the same, and the waits are those of the trial. A message
without a payload is not handed over at all. Either way the sender is told that
the message was sent.

# The way of a message

`Stands` says where a message is and what the session has come to; each move of
the message takes it from one place to the next (`Stands.move`). Along the
attempts the induction is on those that are left.
-/
import Courier.Proofs.Publisher.Progress
import Courier.Proofs.Relay.Moves
import Courier.Proofs.Retry.Trials

namespace Courier

-- ===================================================== statement vocabulary

namespace Network

variable {σ : Type} (net : Network σ) (state : σ) (name : String) (r : Request)

/-- The network after a broker was asked for the same thing so many times. -/
def after : Nat → σ
  | 0 => state
  | n + 1 => (net.ask (after n) name r).2

/-- What the broker answers when it was asked so many times before. -/
def answer (n : Nat) : Bool := (net.ask (net.after state name r n) name r).1

end Network

/-- What an attempt to publish comes to, by the broker's answer. -/
def handedOver : Bool → Except Failure Unit
  | true => .ok ()
  | false => .error .publishRefused

/-- A publication of a payload to where a message is for, within a trace. -/
structure Publication.Carries (q : Publication) (p : Posting) (trace : List (String × String))
    (payload : List UInt8) : Prop where
  exchange : q.exchange = p.target.exchangeName
  routingKey : q.routingKey = p.target.key
  /-- It goes to the exchange with the routing key, or to the queue by its name. -/
  target : p.target = .exchange q.exchange q.routingKey
    ∨ p.target = .queue q.routingKey ∧ q.exchange = ""
  body : q.body = payload
  contentType : q.contentType = "application/json"
  messageType : q.messageType = p.messageType
  headers : q.headers = TraceHeaders.inject trace

/-- What is logged of a message in the end. -/
def Posting.endLog (p : Posting) : Except Failure Unit → LogEvent
  | .ok () => Publisher.sentLog p
  | .error f => Publisher.unsentLog p f

namespace RelaySession

variable {σ : Type} {net : Network σ} {s : RelaySession σ} {k t f : Nat} {posting : Posting}
  {settings : Settings.Producer} {trace : List (String × String)} {phase next : SendPhase}
  {network : σ} {logs : List LogEvent} {m : PublisherMove} {p' : Publisher}

/-- Message `k` has come that far, in a session with that network and those logs. -/
structure Stands (s : RelaySession σ) (k : Nat) (posting : Posting)
    (settings : Settings.Producer) (phase : SendPhase) (trace : List (String × String))
    (network : σ) (logs : List LogEvent) : Prop where
  links : Publisher.Links s.relay.publisher
  sent : s.relay.publisher.sends[k]? = some ⟨posting, phase⟩
  outlet : ∃ o, s.relay.publisher.outlet? posting.instanceName = some o ∧ o.settings = settings
  trace : s.trace = trace
  network : s.network = network
  logs : s.logs = logs

/-- The message makes a move. -/
theorem Stands.move (stands : s.Stands k posting settings phase trace network logs)
    (own : m.send? = some k) (step : s.relay.publisher.step? m = some p')
    (sent : p'.sends[k]? = some ⟨posting, next⟩) :
    (s.move (.publish m)).Stands k posting settings next trace network
      (logs ++ s.relay.publisher.logs m) := by
  have moved : s.relay.step (.publish m) = { s.relay with publisher := p' } := by
    cases m with
    | post _ | fire | close _ => cases own
    | _ => simp [Relay.step, Relay.step?, Relay.publish, step]
  obtain ⟨o, found, same⟩ := stands.outlet
  obtain ⟨o', found', same', -⟩ := (Publisher.lasting_step stands.links step).some _ o found
  refine ⟨?_, ?_, ⟨o', ?_, same'.trans same⟩, stands.trace, stands.network, ?_⟩
  · show Publisher.Links (s.relay.step (.publish m)).publisher
    rw [moved]
    exact Publisher.links_step stands.links step
  · show (s.relay.step (.publish m)).publisher.sends[k]? = _
    rw [moved]
    exact sent
  · show (s.relay.step (.publish m)).publisher.outlet? posting.instanceName = _
    rw [moved]
    exact found'
  · show s.logs ++ s.relay.publisher.logs m = _
    rw [stands.logs]

/-- The message makes a move that changes nothing but where it is. -/
theorem Stands.goOn (stands : s.Stands k posting settings phase trace network logs)
    (own : m.send? = some k)
    (step : s.relay.publisher.step? m = some (s.relay.publisher.setPhase k next)) :
    (s.move (.publish m)).Stands k posting settings next trace network
      (logs ++ s.relay.publisher.logs m) := by
  apply stands.move own step
  rw [Publisher.sends_setPhase stands.sent]
  exact getElem?_set_self_of_some stands.sent

-- ============================================================ one attempt

variable {payload : List UInt8} {request : Request}

/-- The network has another state. -/
theorem Stands.asked (stands : s.Stands k posting settings phase trace network logs)
    (state : σ) : { s with network := state }.Stands k posting settings phase trace state logs :=
  ⟨stands.links, stands.sent, stands.outlet, stands.trace, rfl, stands.logs⟩

/-- The broker is asked, and its answer is a move of the message. -/
theorem Stands.stepSend_eq
    (stands : s.Stands k posting settings (.publishing t f) trace network logs)
    (body : posting.body = .ok payload)
    (same : request = .publish (posting.publication trace payload)) :
    s.stepSend net k
      = { s with network := (net.ask network posting.instanceName request).2 }.move
        (.publish (if (net.ask network posting.instanceName request).1 then .accepted k
          else .refused k)) := by
  subst same
  unfold stepSend
  simp only [stands.sent, body]
  unfold handOver ask
  rw [stands.network, stands.trace]
  cases net.ask network posting.instanceName (.publish (posting.publication trace payload)) with
  | mk ok state => cases ok <;> rfl

/-- A message goes on by the move that the broker's answer is. -/
theorem Stands.answered {ok : Bool} {told : List LogEvent}
    (stands : s.Stands k posting settings (.publishing t f) trace network logs)
    (body : posting.body = .ok payload)
    (same : request = .publish (posting.publication trace payload))
    (answer : (net.ask network posting.instanceName request).1 = ok)
    (step : s.relay.publisher.step? (if ok then .accepted k else .refused k)
      = some (s.relay.publisher.setPhase k next))
    (logged : s.relay.publisher.logs (if ok then .accepted k else .refused k) = told) :
    (s.stepSend net k).Stands k posting settings next trace
      (net.ask network posting.instanceName request).2 (logs ++ told) := by
  have own : (if ok then PublisherMove.accepted k else .refused k).send? = some k := by
    cases ok <;> rfl
  rw [stands.stepSend_eq body same, answer, ← logged]
  exact (stands.asked _).goOn own step

/-- The broker takes the message. -/
theorem Stands.accepted
    (stands : s.Stands k posting settings (.publishing t f) trace network logs)
    (body : posting.body = .ok payload)
    (same : request = .publish (posting.publication trace payload))
    (answered : (net.ask network posting.instanceName request).1 = true) :
    (s.stepSend net k).Stands k posting settings (.returning t) trace
      (net.ask network posting.instanceName request).2 (logs ++ [Publisher.sentLog posting]) := by
  obtain ⟨o, found, -⟩ := stands.outlet
  have step : s.relay.publisher.step? (.accepted k)
      = some (s.relay.publisher.setPhase k (.returning t)) := by
    simp [Publisher.step?, Publisher.answered, stands.sent, found, body]
  have logged : s.relay.publisher.logs (.accepted k) = [Publisher.sentLog posting] := by
    simp [Publisher.logs, Publisher.answeredLogs, stands.sent, found]
  exact stands.answered body same answered step logged

/-- The broker does not take the message, and it is handed over again. -/
theorem Stands.refused
    (stands : s.Stands k posting settings (.publishing t f) trace network logs)
    (body : posting.body = .ok payload)
    (same : request = .publish (posting.publication trace payload))
    (answered : (net.ask network posting.instanceName request).1 = false)
    (more : f < settings.maxRetryCount.toNat) :
    (s.stepSend net k).Stands k posting settings (.publishing t (f + 1)) trace
      (net.ask network posting.instanceName request).2
      (logs ++ [republishLog settings .publishRefused (f + 1)]) := by
  obtain ⟨o, found, rfl⟩ := stands.outlet
  have step : s.relay.publisher.step? (.refused k)
      = some (s.relay.publisher.setPhase k (.publishing t (f + 1))) := by
    simp [Publisher.step?, Publisher.answered, stands.sent, found, body, more]
  have logged : s.relay.publisher.logs (.refused k)
      = [republishLog o.settings .publishRefused (f + 1)] := by
    simp [Publisher.logs, Publisher.answeredLogs, stands.sent, found, more]
  exact stands.answered body same answered step logged

/-- The broker does not take the message, and is not asked any more. -/
theorem Stands.givenUp
    (stands : s.Stands k posting settings (.publishing t f) trace network logs)
    (body : posting.body = .ok payload)
    (same : request = .publish (posting.publication trace payload))
    (answered : (net.ask network posting.instanceName request).1 = false)
    (spent : settings.maxRetryCount.toNat ≤ f) :
    (s.stepSend net k).Stands k posting settings (.returning t) trace
      (net.ask network posting.instanceName request).2
      (logs ++ [Publisher.unsentLog posting .publishRefused]) := by
  obtain ⟨o, found, rfl⟩ := stands.outlet
  have done : ¬ f < o.settings.maxRetryCount.toNat := Nat.not_lt_of_le spent
  have step : s.relay.publisher.step? (.refused k)
      = some (s.relay.publisher.setPhase k (.returning t)) := by
    simp [Publisher.step?, Publisher.answered, stands.sent, found, body, done]
  have logged : s.relay.publisher.logs (.refused k)
      = [Publisher.unsentLog posting .publishRefused] := by
    simp [Publisher.logs, Publisher.answeredLogs, stands.sent, found, done]
  exact stands.answered body same answered step logged

/-- A message without a payload is not handed over. -/
theorem Stands.unwritten {failure : Failure} (net : Network σ)
    (stands : s.Stands k posting settings (.publishing t f) trace network logs)
    (body : posting.body = .error failure) :
    (s.stepSend net k).Stands k posting settings (.returning t) trace network
      (logs ++ [Publisher.unwritableLog, Publisher.unsentLog posting failure]) := by
  have moved : s.stepSend net k = s.move (.publish (.advance k)) := by
    unfold stepSend
    simp only [stands.sent, body]
  have step : s.relay.publisher.step? (.advance k)
      = some (s.relay.publisher.setPhase k (.returning t)) := by
    simp [Publisher.step?, Publisher.advance, stands.sent, body]
  have logged : s.relay.publisher.logs (.advance k)
      = [Publisher.unwritableLog, Publisher.unsentLog posting failure] := by
    simp [Publisher.logs, Publisher.advanceLogs, stands.sent, body]
  rw [moved, ← logged]
  exact stands.goOn rfl step

-- ============================================================ afterwards

/-- A message that leaves its pool for `next`. -/
theorem Stands.left {next : SendPhase} (move : PoolMove)
    (stands : s.Stands k posting settings phase trace network logs)
    (moved : s.stepSend net k = s.move (.publish (.advance k)))
    (advance : s.relay.publisher.advance k = s.relay.publisher.leave k posting move next)
    (silent : s.relay.publisher.logs (.advance k) = [])
    (can : ∀ o, s.relay.publisher.outlet? posting.instanceName = some o →
      ∃ pool, o.pool.step? move = some pool) :
    (s.stepSend net k).Stands k posting settings next trace network logs := by
  obtain ⟨o, found, -⟩ := stands.outlet
  obtain ⟨pool, left⟩ := can o found
  have step : s.relay.publisher.step? (.advance k)
      = some ((s.relay.publisher.setPool posting.instanceName o pool).setPhase k next) := by
    show s.relay.publisher.advance k = _
    rw [advance]
    simp [Publisher.leave, found, left]
  have gone : (s.move (.publish (.advance k))).Stands k posting settings next trace network
      (logs ++ s.relay.publisher.logs (.advance k)) := by
    apply stands.move rfl step
    rw [Publisher.sends_setPhase (p := s.relay.publisher.setPool _ o pool) stands.sent]
    exact getElem?_set_self_of_some stands.sent
  rw [silent, List.append_nil] at gone
  rw [moved]
  exact gone

/-- The channel is given back. -/
theorem Stands.returned
    (stands : s.Stands k posting settings (.returning t) trace network logs) :
    (s.stepSend net k).Stands k posting settings (.restoring t) trace network logs := by
  refine stands.left (.giveBack t) ?_ ?_ ?_ ?_
  · unfold stepSend
    rw [stands.sent]
  · simp [Publisher.advance, stands.sent]
  · simp [Publisher.logs, Publisher.advanceLogs, stands.sent]
  · intro o found
    obtain ⟨φ, hφ, fits⟩ := stands.links.fits_of stands.sent rfl found
    obtain ⟨r, rfl⟩ := φ.holding_of_held fits
    simp [Pool.step?, hφ]

/-- Then its permit, and the message has ended. -/
theorem Stands.restored
    (stands : s.Stands k posting settings (.restoring t) trace network logs) :
    (s.stepSend net k).Stands k posting settings (.finished (.ok ())) trace network logs := by
  refine stands.left (.restore t) ?_ ?_ ?_ ?_
  · unfold stepSend
    rw [stands.sent]
  · simp [Publisher.advance, stands.sent]
  · simp [Publisher.logs, Publisher.advanceLogs, stands.sent]
  · intro o found
    obtain ⟨φ, hφ, fits⟩ := stands.links.fits_of stands.sent rfl found
    cases fits
    simp [Pool.step?, hφ]

/-- A message that has ended stays where it is. -/
theorem Stands.stays {result : Except Failure Unit}
    (stands : s.Stands k posting settings (.finished result) trace network logs) (n : Nat) :
    s.runSend net k n = s := by
  have still : s.relay.step (.publish (.advance k)) = s.relay := by
    simp [Relay.step, Relay.step?, Relay.publish, Publisher.step?, Publisher.advance, stands.sent]
  have silent : s.relay.logs (.publish (.advance k)) = [] := by
    simp [Relay.logs, Publisher.logs, Publisher.advanceLogs, stands.sent]
  have step : s.stepSend net k = s := by
    unfold stepSend
    simp only [stands.sent]
    unfold RelaySession.move
    rw [still, silent, List.append_nil]
  induction n with
  | zero => rfl
  | succ n ih => rw [runSend, step, ih]

theorem runSend_add (net : Network σ) (s : RelaySession σ) (k m n : Nat) :
    s.runSend net k (m + n) = (s.runSend net k m).runSend net k n := by
  induction m generalizing s with
  | zero => rw [Nat.zero_add, runSend]
  | succ m ih => rw [Nat.succ_add, runSend, ih, runSend]

/-- A message whose channel is about to be given back has soon ended. -/
theorem Stands.ends (net : Network σ)
    (stands : s.Stands k posting settings (.returning t) trace network logs) {n : Nat}
    (enough : 2 ≤ n) :
    (s.runSend net k n).Stands k posting settings (.finished (.ok ())) trace network logs := by
  obtain ⟨more, rfl⟩ := Nat.exists_eq_add_of_le enough
  have ended : (s.runSend net k 2).Stands k posting settings (.finished (.ok ())) trace network
      logs := stands.returned.restored
  rw [runSend_add, ended.stays]
  exact ended

-- ============================================================ all attempts

/-- The attempts from number `f` on, up to the last one. The induction is on
those in front of the last. -/
theorem Stands.attempts {start : σ} {last : Nat}
    (stands : s.Stands k posting settings (.publishing t f) trace
      (net.after start posting.instanceName request f) logs)
    (body : posting.body = .ok payload)
    (same : request = .publish (posting.publication trace payload))
    (before : f ≤ last) (within : last ≤ settings.maxRetryCount.toNat)
    (refused : ∀ i, f ≤ i → i < last →
      net.answer start posting.instanceName request i = false)
    (stops : last < settings.maxRetryCount.toNat →
      net.answer start posting.instanceName request last = true) :
    (s.runSend net k (last - f + 1)).Stands k posting settings (.returning t) trace
      (net.after start posting.instanceName request (last + 1))
      (logs ++ (List.range' f (last - f)).map
          (fun i => republishLog settings .publishRefused (i + 1))
        ++ [posting.endLog (handedOver (net.answer start posting.instanceName request last))]) := by
  induction left : last - f generalizing s f logs with
  | zero =>
      have only : f = last := by omega
      subst only
      rw [List.range'_zero, List.map_nil, List.append_nil]
      cases answered : net.answer start posting.instanceName request f with
      | true => exact stands.accepted body same answered
      | false =>
          have spent : settings.maxRetryCount.toNat ≤ f := by
            by_contra more
            rw [stops (by omega)] at answered
            cases answered
          exact stands.givenUp body same answered spent
  | succ n ih =>
      have again := stands.refused body same (refused f (Nat.le_refl f) (by omega)) (by omega)
      have rest := ih again (by omega) (fun i after => refused i (by omega)) (by omega)
      rw [List.range'_succ, List.map_cons, List.append_cons logs]
      exact rest

end RelaySession

-- ========================================================== the main result

/-- What is handed over of a message is its payload, to where the message is for. -/
theorem Posting.carries_publication (p : Posting) (trace : List (String × String))
    (payload : List UInt8) : (p.publication trace payload).Carries p trace payload where
  exchange := rfl
  routingKey := rfl
  target := by
    show p.target = .exchange p.target.exchangeName p.target.key
      ∨ p.target = .queue p.target.key ∧ p.target.exchangeName = ""
    cases p.target with
    | exchange name key => exact .inl rfl
    | queue name => exact .inr ⟨rfl, rfl⟩
  body := rfl
  contentType := rfl
  messageType := rfl
  headers := rfl

theorem republishing_repeats_iff {settings : Settings.Producer} {accepted : Bool} :
    (republishing settings).Repeats (handedOver accepted) ↔ accepted = false := by
  cases accepted with
  | true => exact ⟨fun ⟨_, failed, _⟩ => (nomatch failed), nofun⟩
  | false => exact ⟨fun _ => rfl, fun _ => ⟨_, rfl, rfl⟩⟩

/-- What is logged of the attempts of a trial and at its end. -/
theorem logs_of_lasts {settings : Settings.Producer} {answer : Nat → Bool} {last : Nat}
    {trial : Trial Unit}
    (lasts : (republishing settings).Lasts (fun i => handedOver (answer i)) 0 last trial) :
    trial.logs
      = (List.range last).map fun i => republishLog settings .publishRefused (i + 1) := by
  have ended : (republishing settings).ended (handedOver (answer last)) = [] := rfl
  have within : last ≤ settings.maxRetryCount.toNat := lasts.le_limit
  rw [lasts.logs, ended, List.append_nil, ← List.filterMap_eq_map]
  apply List.filterMap_congr
  intro i member
  have before : i < last := List.mem_range.1 member
  have refused := republishing_repeats_iff.1 (lasts.repeats i (Nat.zero_le i) before)
  have counted : (UInt32.ofNat i + 1).toNat = i + 1 := by
    have room : i ≤ settings.maxRetryCount.toNat := by omega
    have fits := Persistence.toNat_ofNat_of_le room
    have below : UInt32.ofNat i < settings.maxRetryCount := by
      rw [UInt32.lt_iff_toNat_lt, fits]
      omega
    rw [Persistence.toNat_succ_of_lt below, fits]
  show (republishing settings).repeated? (.ofNat i) (handedOver (answer i)) = _
  rw [refused]
  show some (republishLog settings .publishRefused (UInt32.ofNat i + 1).toNat) = _
  rw [counted]
  rfl

/-- A broker that did not take a message has no copy of it. -/
theorem Network.copies_after {σ : Type} {net : Network σ} {name : String} {request : Request}
    {copies : σ → Nat} {start : σ} {n : Nat}
    (counts : ∀ state, copies (net.ask state name request).2
      = copies state + (net.ask state name request).1.toNat)
    (refused : ∀ i < n, net.answer start name request i = false) :
    copies (net.after start name request n) = copies start := by
  induction n with
  | zero => rfl
  | succ n ih =>
      have answered : (net.ask (net.after start name request n) name request).1 = false :=
        refused n (Nat.lt_succ_self n)
      show copies (net.ask (net.after start name request n) name request).2 = _
      rw [counts, answered, ih fun i before => refused i (Nat.lt_succ_of_lt before)]
      rfl

/-- Of the granted attempts one would succeed if the last one made does. -/
theorem exists_accepted_iff {answer : Nat → Bool} {last limit : Nat} (within : last ≤ limit)
    (refused : ∀ i < last, answer i = false) (stops : last < limit → answer last = true) :
    (∃ i ≤ limit, answer i = true) ↔ answer last = true := by
  constructor
  · rintro ⟨i, granted, accepted⟩
    by_contra unaccepted
    have spent : ¬ last < limit := fun more => unaccepted (stops more)
    by_cases before : i < last
    · rw [refused i before] at accepted
      cases accepted
    · have same : i = last := by omega
      rw [same] at accepted
      exact unaccepted accepted
  · exact fun accepted => ⟨last, within, accepted⟩

/-- It has one copy after the last attempt, or none. -/
theorem Network.copies_after_last {σ : Type} {net : Network σ} {name : String}
    {request : Request} {copies : σ → Nat} {start : σ} {last limit : Nat}
    (counts : ∀ state, copies (net.ask state name request).2
      = copies state + (net.ask state name request).1.toNat)
    (within : last ≤ limit) (refused : ∀ i < last, net.answer start name request i = false)
    (stops : last < limit → net.answer start name request last = true) :
    copies (net.after start name request (last + 1))
      = copies start + if ∃ i ≤ limit, net.answer start name request i = true then 1 else 0 := by
  show copies (net.ask (net.after start name request last) name request).2 = _
  rw [counts, copies_after counts refused]
  congr 1
  simp only [exists_accepted_iff within refused stops]
  cases answered : net.answer start name request last with
  | true => exact congrArg Bool.toNat answered
  | false => exact congrArg Bool.toNat answered

/-- A message with its channel and past the gate. Without a payload it is not
handed to the broker. With one, the broker is asked to take the same publication,
of that payload to the exchange and with the routing key of the message, until it
does, and no more often than once and the granted number of times again; between two attempts there is a wait, and none after the last. A broker
that keeps a copy of what it takes, and of nothing else, has one copy more if one
of the granted attempts would succeed, and none more otherwise. The sender is told
in any case that the message was sent. -/
theorem RelaySession.hands_over_once {σ : Type} (net : Network σ) {s : RelaySession σ}
    {b : Blueprint} (reachable : Relay.Reachable b s.relay) {k t : Nat} {posting : Posting}
    {o : Outlet} (sent : s.relay.publisher.sends[k]? = some ⟨posting, .publishing t 0⟩)
    (found : s.relay.publisher.outlet? posting.instanceName = some o) {n : Nat}
    (enough : o.settings.maxRetryCount.toNat + 3 ≤ n) :
    (s.runSend net k n).relay.publisher.result? k = some (.ok ())
      ∧ (∀ f, posting.body = .error f → (s.runSend net k n).network = s.network
        ∧ (s.runSend net k n).logs
          = s.logs ++ [Publisher.unwritableLog, Publisher.unsentLog posting f])
      ∧ ∀ payload, posting.body = .ok payload → ∃ publication request last trial,
          publication.Carries posting s.trace payload ∧ request = .publish publication
          ∧ trial = publishTrial o.settings
            (fun i => handedOver (net.answer s.network posting.instanceName request i))
          ∧ last ≤ o.settings.maxRetryCount.toNat
          ∧ (∀ i < last, net.answer s.network posting.instanceName request i = false)
          ∧ (last < o.settings.maxRetryCount.toNat →
            net.answer s.network posting.instanceName request last = true)
          ∧ trial.doings = (List.range last).flatMap
            (fun i => [.attempt i, .wait o.settings.attemptDelay]) ++ [.attempt last]
          ∧ (s.runSend net k n).network
            = net.after s.network posting.instanceName request trial.attempts
          ∧ (s.runSend net k n).logs = s.logs ++ trial.logs ++ [posting.endLog trial.result]
          ∧ ∀ copies : σ → Nat,
            (∀ state, copies (net.ask state posting.instanceName request).2
              = copies state + (net.ask state posting.instanceName request).1.toNat) →
            copies (s.runSend net k n).network = copies s.network
              + if ∃ i ≤ o.settings.maxRetryCount.toNat,
                net.answer s.network posting.instanceName request i = true then 1 else 0 := by
  have stands : s.Stands k posting o.settings (.publishing t 0) s.trace s.network s.logs :=
    ⟨Publisher.links_of_reachable (Relay.publisher_of_reachable reachable), sent,
      ⟨o, found, rfl⟩, rfl, rfl, rfl⟩
  cases body : posting.body with
  | error f =>
      obtain ⟨more, rfl⟩ : ∃ more, n = more + 1 := ⟨n - 1, by omega⟩
      have ended := (stands.unwritten net body).ends net (n := more) (by omega)
      refine ⟨Publisher.result?_eq_some.2 ⟨_, ended.sent, rfl⟩, ?_, nofun⟩
      rintro f' same
      cases same
      exact ⟨ended.network, ended.logs⟩
  | ok payload =>
      obtain ⟨last, lasts⟩ := (republishing o.settings).exists_lasts fun i =>
        handedOver (net.answer s.network posting.instanceName
          (.publish (posting.publication s.trace payload)) i)
      have within : last ≤ o.settings.maxRetryCount.toNat := lasts.le_limit
      have refused := fun i before =>
        republishing_repeats_iff.1 (lasts.repeats i (Nat.zero_le i) before)
      have stops := fun more =>
        eq_true_of_ne_false (mt republishing_repeats_iff.2 (lasts.stops more))
      have attempted := stands.attempts body rfl (Nat.zero_le last) within
        (fun i _ before => refused i before) stops
      obtain ⟨more, rfl⟩ : ∃ more, n = last - 0 + 1 + more := ⟨n - (last + 1), by omega⟩
      have ended := attempted.ends net (n := more) (by omega)
      rw [← RelaySession.runSend_add] at ended
      refine ⟨Publisher.result?_eq_some.2 ⟨_, ended.sent, rfl⟩, nofun, ?_⟩
      intro payload' same
      cases same
      refine ⟨_, _, last, _, posting.carries_publication s.trace payload, rfl, rfl, within, refused,
        stops, lasts.doings, ?_, ?_, ?_⟩
      · rw [publishTrial, lasts.attempts]
        exact ended.network
      · rw [publishTrial, logs_of_lasts lasts, lasts.result, List.range_eq_range']
        exact ended.logs
      · intro copies counts
        rw [ended.network]
        exact Network.copies_after_last counts within refused stops

namespace RelaySession

/-- An instance that publishes over one channel, and tries three times. -/
def postOffice : Instance where
  name := "post"
  connection := {}
  consumer := none
  producer := some { maxPoolLength := 1, maxRetryCount := 2 }
  init := none

/-- A message for an exchange of it, with a routing key. -/
def postcard : Posting where
  instanceName := "post"
  target := .exchange "cards" "home"
  messageType := "Postcard"
  body := .ok [72, 105]

/-- The postcard has its channel, and went through the gate. -/
def posted : Relay where
  instances := [postOffice]
  publisher := {
    ready := true
    outlets := [("post", ⟨{ maxPoolLength := 1, maxRetryCount := 2 }, {
      capacity := 1, permits := 0, created := [0], makings := 1, takers := [.holding 0] }⟩)]
    sends := [⟨postcard, .publishing 0 0⟩] }

theorem reachable_posted : Relay.Reachable ⟨[postOffice]⟩ posted :=
  (Relay.Reachable.start rfl).run [.publish (.post postcard), .publish (.advance 0),
    .publish (.advance 0), .publish (.made 0), .publish (.advance 0), .publish (.advance 0)] rfl

/-- A broker that takes what it is asked for the second time: how often it was
asked, and the publications that it has. -/
def secondTime : Network (Nat × List Publication) where
  ask state _ request :=
    let taken := match request with
      | .publish q => if state.1 == 1 then [q] else []
      | _ => []
    (state.1 == 1, state.1 + 1, state.2 ++ taken)
  reason := ""

/-- How many copies of the postcard are among publications. -/
def postcards (taken : List Publication) : Nat :=
  taken.countP fun q => q.exchange == "cards" && q.routingKey == "home" && q.body == [72, 105]

/-- The broker has one postcard in the end. -/
theorem hands_over_once_of_postcard : Relay.Reachable ⟨[postOffice]⟩ posted
    ∧ (runSend secondTime ⟨posted, (0, []), [], []⟩ 0 5).relay.publisher.result? 0 = some (.ok ())
    ∧ postcards (runSend secondTime ⟨posted, (0, []), [], []⟩ 0 5).network.2 = 1 := by
  have sent : posted.publisher.sends[0]? = some ⟨postcard, .publishing 0 0⟩ := rfl
  obtain ⟨told, -, handed⟩ := hands_over_once secondTime (s := ⟨posted, (0, []), [], []⟩)
    reachable_posted sent rfl (n := 5) (by decide)
  obtain ⟨q, _, last, trial, carries, rfl, -, -, -, -, -, -, -, copies⟩ := handed [72, 105] rfl
  have counted : (q.exchange == "cards" && q.routingKey == "home" && q.body == [72, 105])
      = true := by
    rw [carries.exchange, carries.routingKey, carries.body]
    rfl
  refine ⟨reachable_posted, told, copies (fun state => postcards state.2) fun state => ?_⟩
  show postcards (state.2 ++ if state.1 == 1 then [q] else [])
    = postcards state.2 + (state.1 == 1).toNat
  unfold postcards
  rw [List.countP_append]
  cases state.1 == 1 with
  | true =>
      show _ + List.countP _ [q] = _ + 1
      rw [List.countP_singleton, counted]
      rfl
  | false => rfl

end RelaySession

end Courier
