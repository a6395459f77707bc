/-
Every delivery is settled by one call, whatever its payload, its headers and
its handler. The outcome of the processing decides which call it is, and the
answer of the broker decides the result; nothing is asked a second time.

# The shape of the argument

`settle_calls` and `settle_result` say once what the settling does for an
outcome; the rest reads them off for the three outcomes
(`Subscription.consume_settles`). For several deliveries, one after another,
delivery number `k` is consumed after as many readable payloads as came
before it (`Subscription.getElem?_consumeAll`), so what holds of one
consumption holds of each of them, and the handlers are built in order.
-/
import Courier.Proofs.Delivery.Retries

namespace Courier

variable {s : Subscription} {queue : String} {calls : Nat}

-- ================================================ statement vocabulary

/-- The tag of the delivery that a call settles. -/
def SettlementCall.tag : SettlementCall → UInt64
  | ack tag _ => tag
  | nack tag _ _ => tag

/-- A consumption settled its delivery by one call, that of its outcome, and
reports exactly that the call was not taken. -/
structure Consumption.Settles (c : Consumption) (d : Delivery) : Prop where
  once : ∃ call, c.settled.calls = [(call, d.unsettled)] ∧ call.tag = d.tag
  acked : c.settled.calls.map (·.1) = [.ack d.tag false] ↔
    c.outcome = .handled ∨ ∃ attempts, c.outcome = .dropped attempts
  nacked : c.settled.calls.map (·.1) = [.nack d.tag false false] ↔ ∃ left, c.outcome = .retry left
  ackRefused : c.settled.result = .error .ackRefused ↔
    c.settled.calls = [(.ack d.tag false, false)]
  nackRefused : c.settled.result = .error .nackRefused ↔
    c.settled.calls = [(.nack d.tag false false, false)]
  accepted : c.settled.result = .ok () ↔ ∃ call, c.settled.calls = [(call, true)]

/-- How many of some deliveries can be read. -/
def Subscription.readable (s : Subscription) (ds : List (Delivery × Bool)) : Nat :=
  ds.countP fun x => s.handler.reads x.1.payload

-- =========================================================== one delivery

/-- Settling is one call on the tag of the delivery: what the outcome asks for. -/
theorem settle_calls (queue : String) (d : Delivery) (outcome : Outcome) :
    (settle queue d outcome).calls = [(outcome.settlement.call d.tag, d.unsettled)] := by
  unfold settle
  cases d.unsettled <;> cases outcome <;> rfl

/-- It fails only where the broker does not take the call, and then names the call. -/
theorem settle_result (queue : String) (d : Delivery) (outcome : Outcome) :
    (settle queue d outcome).result
      = if d.unsettled then .ok () else .error outcome.settlement.refusal := by
  unfold settle
  cases d.unsettled <;> cases outcome <;> rfl

/-- What is settled is the outcome of the processing. -/
theorem Subscription.consume_settled (s : Subscription) (queue : String) (calls : Nat)
    (d : Delivery) (cancelled : Bool) :
    (s.consume queue calls d cancelled).1.settled
      = settle queue d (s.consume queue calls d cancelled).1.outcome := rfl

/-- So every consumption settles its delivery, whatever came of the payload. -/
theorem Subscription.consume_settles (s : Subscription) (queue : String) (calls : Nat)
    (d : Delivery) (cancelled : Bool) :
    (s.consume queue calls d cancelled).1.Settles d := by
  have settled := s.consume_settled queue calls d cancelled
  generalize (s.consume queue calls d cancelled).1 = c at settled
  have made := settle_calls queue d c.outcome
  have result := settle_result queue d c.outcome
  rw [← settled] at made result
  refine ⟨⟨_, made, by cases c.outcome <;> rfl⟩, ?_, ?_, ?_, ?_, ?_⟩
  · rw [made]
    cases c.outcome <;> simp [Outcome.settlement, Settlement.call]
  · rw [made]
    cases c.outcome <;> simp [Outcome.settlement, Settlement.call]
  · rw [made, result]
    cases d.unsettled <;> cases c.outcome <;>
      simp [Outcome.settlement, Settlement.call, Settlement.refusal]
  · rw [made, result]
    cases d.unsettled <;> cases c.outcome <;>
      simp [Outcome.settlement, Settlement.call, Settlement.refusal]
  · rw [made, result]
    cases d.unsettled <;> simp

-- ======================================================== all deliveries

theorem Subscription.consumeAll_cons (s : Subscription) (queue : String) (calls : Nat)
    (d : Delivery) (cancelled : Bool) (rest : List (Delivery × Bool)) :
    s.consumeAll queue calls ((d, cancelled) :: rest)
      = (s.consume queue calls d cancelled).1
        :: s.consumeAll queue (s.consume queue calls d cancelled).2 rest := rfl

/-- A delivery adds one to the readable ones if its payload can be read. -/
theorem Subscription.readable_cons (s : Subscription) (x : Delivery × Bool)
    (ds : List (Delivery × Bool)) :
    s.readable (x :: ds) = (if s.handler.reads x.1.payload then 1 else 0) + s.readable ds :=
  List.countP_cons.trans (Nat.add_comm ..)

/-- What was handled before the rest of some deliveries, when the first one
was consumed. -/
theorem Subscription.calls_cons (s : Subscription) (queue : String) (calls : Nat)
    (d : Delivery) (cancelled : Bool) (rest : List (Delivery × Bool)) :
    (s.consume queue calls d cancelled).2 + s.readable rest
      = calls + s.readable ((d, cancelled) :: rest) := by
  rw [s.consume_calls, s.readable_cons]
  split <;> omega

/-- Delivery number `k` is consumed after all that came before it. -/
theorem Subscription.getElem?_consumeAll (s : Subscription) (queue : String) (calls : Nat)
    (ds : List (Delivery × Bool)) (k : Nat) :
    (s.consumeAll queue calls ds)[k]? = ds[k]?.map fun x =>
      (s.consume queue (calls + s.readable (ds.take k)) x.1 x.2).1 := by
  induction ds generalizing calls k with
  | nil => rfl
  | cons x rest ih =>
      obtain ⟨d, cancelled⟩ := x
      cases k with
      | zero => rfl
      | succ k =>
          rw [s.consumeAll_cons, List.getElem?_cons_succ, ih, s.calls_cons,
            List.getElem?_cons_succ, List.take_succ_cons]

/-- What holds of every consumption holds of those of several deliveries. -/
theorem Subscription.consumed_of_getElem? {ds : List (Delivery × Bool)} {k : Nat}
    {x : Delivery × Bool} {c : Consumption} (hx : ds[k]? = some x)
    (hc : (s.consumeAll queue calls ds)[k]? = some c) :
    c = (s.consume queue (calls + s.readable (ds.take k)) x.1 x.2).1 := by
  rw [s.getElem?_consumeAll, hx] at hc
  cases hc
  rfl

/-- Over any deliveries, their tags are settled one by one and in order. -/
theorem Subscription.tags_consumeAll (s : Subscription) (queue : String) (calls : Nat)
    (ds : List (Delivery × Bool)) :
    (s.consumeAll queue calls ds).flatMap (fun c => c.settled.calls.map (·.1.tag))
      = ds.map (·.1.tag) := by
  induction ds generalizing calls with
  | nil => rfl
  | cons x rest ih =>
      obtain ⟨d, cancelled⟩ := x
      obtain ⟨call, made, tag⟩ := (s.consume_settles queue calls d cancelled).once
      rw [s.consumeAll_cons, List.flatMap_cons, ih, made, List.map_cons, List.map_cons, ← tag]
      rfl

/-- Handlers are made one by one, for the deliveries that can be read and no others. -/
theorem Subscription.built_consumeAll (s : Subscription) (queue : String) (calls : Nat)
    (ds : List (Delivery × Bool)) :
    (s.consumeAll queue calls ds).flatMap (·.built) = List.range' calls (s.readable ds) := by
  induction ds generalizing calls with
  | nil => rfl
  | cons x rest ih =>
      obtain ⟨d, cancelled⟩ := x
      rw [s.consumeAll_cons, List.flatMap_cons, ih, s.consume_built, s.consume_calls,
        s.readable_cons]
      split
      next =>
        rw [Nat.add_comm 1]
        exact (List.range'_succ ..).symm
      next =>
        rw [Nat.zero_add]
        rfl

/-- One delivery is settled by one call, and of several deliveries consumed
one after another each is settled once, in order. A handler is built for each
payload that can be read, in order, and for no other. -/
theorem settles_each_once (s : Subscription) (queue : String) (calls : Nat) :
    (∀ d cancelled, (s.consume queue calls d cancelled).1.Settles d)
    ∧ ∀ ds : List (Delivery × Bool),
        (s.consumeAll queue calls ds).length = ds.length
        ∧ (∀ k x c, ds[k]? = some x → (s.consumeAll queue calls ds)[k]? = some c →
            c.Settles x.1
            ∧ c.built = if s.handler.reads x.1.payload then
                [calls + s.readable (ds.take k)] else [])
        ∧ (s.consumeAll queue calls ds).flatMap (fun c => c.settled.calls.map (·.1.tag))
            = ds.map (·.1.tag)
        ∧ (s.consumeAll queue calls ds).flatMap (·.built)
            = List.range' calls (s.readable ds) := by
  refine ⟨s.consume_settles queue calls, fun ds => ⟨s.length_consumeAll queue calls ds, ?_,
    s.tags_consumeAll queue calls ds, s.built_consumeAll queue calls ds⟩⟩
  intro k x c hx hc
  rw [Subscription.consumed_of_getElem? hx hc]
  exact ⟨s.consume_settles .., s.consume_built ..⟩

/-- The second of two deliveries is to be retried, but was settled before: it is
rejected once, for nothing. -/
theorem settles_each_once_of_failingTwice :
    ∃ (x y : Delivery × Bool) (c : Consumption), y.1.unsettled = false
      ∧ (failingTwice.consumeAll "orders" 0 [x, y])[1]? = some c
      ∧ c.settled.calls = [(.nack y.1.tag false false, false)]
      ∧ c.settled.result = .error .nackRefused ∧ c.built = [1] := by
  let x : Delivery × Bool := ({ tag := 1, payload := [] }, false)
  let y : Delivery × Bool := ({ tag := 2, payload := [], unsettled := false }, false)
  obtain ⟨settles, built⟩ :=
    ((settles_each_once failingTwice "orders" 0).2 [x, y]).2.1 1 y _ rfl rfl
  obtain ⟨call, made, -⟩ := settles.once
  have rejected := settles.nacked.2 ⟨2, rfl⟩
  rw [made] at rejected
  cases rejected
  exact ⟨x, y, _, rfl, rfl, made, settles.nackRefused.2 made, built⟩

end Courier
