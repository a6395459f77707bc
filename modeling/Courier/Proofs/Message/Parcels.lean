/-
From the message that is sent to the message that is handled. A payload
reads back as the message it was written for, so the subscriber's handler
is handed that message, and what becomes of the delivery is decided by the
handler alone: it is handled exactly if the handler is done.

The first part holds of every type whose payloads read back
(`Subscription.consume_read`). A parcel is such a type, whatever text it
carries (`Json.Shape.ofBytes_toValue`).
-/
import Courier.Message.Parcel
import Courier.Publication
import Courier.Proofs.Delivery.Retries
import Courier.Proofs.Json.Records

namespace Courier

-- ================================================ statement vocabulary

/-- How a message is posted: to an exchange, under a routing key, or to a queue. -/
inductive Posts {α : Type} [Message α] (m : α) : Posting → Prop
  | toExchange (instanceName exchange routingKey : String) :
      Posts m (.toExchange instanceName m exchange routingKey)
  | toQueue (instanceName queue : String) : Posts m (.toQueue instanceName m queue)

/-- A delivery has the payload that a posting was published with. -/
def Delivery.Brings (d : Delivery) (posting : Posting) : Prop :=
  ∃ trace body, posting.body = .ok body ∧ d.payload = (posting.publication trace body).body

-- ======================================================= one message type

section Messages

variable {α : Type} [Message α] {m : α}

/-- The payload of a posting is the one of its message. -/
theorem Posts.body {posting : Posting} (posts : Posts m posting) :
    posting.body = Message.encode m := by
  cases posts with
  | toExchange instanceName exchange routingKey => rfl
  | toQueue instanceName queue => rfl

theorem Delivery.Brings.payload {d : Delivery} {posting : Posting} {payload : List UInt8}
    (brings : d.Brings posting) (body : posting.body = .ok payload) : d.payload = payload := by
  obtain ⟨trace, published, same, delivered⟩ := brings
  cases body.symm.trans same
  exact delivered

/-- A performance ends without an error exactly if the handler is done. -/
theorem Performance.result_ok_iff (p : Performance) (call : Nat) (message : Json.Value) :
    (p.handling call message).result = .ok () ↔ ∃ pause, p = .handled pause .done := by
  cases p with
  | unbuilt reason => simp [Performance.handling]
  | handled pause verdict => cases verdict <;> simp [Performance.handling, Verdict.result]

/-- A delivery is handled only by a handling without an error. -/
theorem outcomeOf_handled_iff (cycle : Option Cycle) (attempts : Int64)
    (result : Except HandlingError Unit) :
    outcomeOf cycle attempts result = .handled ↔ result = .ok () := by
  cases result with
  | ok done => simp [outcomeOf]
  | error e =>
      have failed : outcomeOfFailure cycle attempts ≠ .handled := by
        cases cycle with
        | none => simp [outcomeOfFailure]
        | some c =>
            by_cases again : attempts < c.retries
            · simp [outcomeOfFailure, if_pos again]
            · simp [outcomeOfFailure, if_neg again]
      exact ⟨fun handled => absurd handled failed, fun ok => by cases ok⟩

/-- A payload that reads as a message is handled as that message. -/
theorem Subscription.consume_read {s : Subscription} {d : Delivery}
    (format : s.handler.format = .of α) (read : Message.decode d.payload = .ok m)
    (queue : String) (calls : Nat) (cancelled : Bool) :
    (s.consume queue calls d cancelled).1.handling
        = (s.handler.perform calls (Message.view m) cancelled).handling calls (Message.view m)
      ∧ ((s.consume queue calls d cancelled).1.outcome = .handled
          ↔ ∃ pause, s.handler.perform calls (Message.view m) cancelled
              = .handled pause .done) := by
  have shown : s.handler.format.read d.payload = .ok (Message.view m) := by
    rw [format]
    show Message.view <$> Message.decode d.payload = _
    rw [read]
    rfl
  have handling : (s.consume queue calls d cancelled).1.handling
      = (s.handler.perform calls (Message.view m) cancelled).handling calls
          (Message.view m) := by
    rw [s.consume_handling, Handler.handle_readable shown]
  refine ⟨handling, ?_⟩
  show outcomeOf s.deadLetter (earlierAttempts d.headers)
    (s.consume queue calls d cancelled).1.handling.result = .handled ↔ _
  rw [outcomeOf_handled_iff, handling, Performance.result_ok_iff]

end Messages

-- ============================================================== parcels

namespace Parcel

theorem distinct : shape.Distinct := by
  decide

/-- A parcel that was written is read back, whatever its carrier is called. -/
theorem decode_bytes (p : Parcel) : Message.decode (Message.view p).bytes = .ok p := by
  show ofRow <$> shape.ofBytes (shape.toValue p.toRow).bytes = _
  rw [Json.Shape.ofBytes_toValue distinct]
  rfl

/-- Every parcel has a payload that reads back as that parcel. A subscriber to
parcels that is delivered what was posted for it is handed a message that is
this parcel and no other one, and the delivery is handled exactly if the handler
is done. -/
theorem handled_as_posted (p : Parcel) :
    (∃ payload, Message.encode p = .ok payload ∧ Message.decode payload = .ok p)
      ∧ (∀ q : Parcel, Message.view q = Message.view p → q = p)
      ∧ ∀ (posting : Posting) (d : Delivery) (s : Subscription) (queue : String) (calls : Nat)
          (cancelled : Bool),
          Posts p posting → d.Brings posting → s.handler.format = .of Parcel →
          (s.consume queue calls d cancelled).1.handling
              = (s.handler.perform calls (Message.view p) cancelled).handling calls
                  (Message.view p)
            ∧ ((s.consume queue calls d cancelled).1.outcome = .handled
                ↔ ∃ pause, s.handler.perform calls (Message.view p) cancelled
                    = .handled pause .done) := by
  have written : Message.encode p = .ok (Message.view p).bytes := rfl
  refine ⟨⟨_, written, decode_bytes p⟩, ?_, ?_⟩
  · intro q same
    have read := decode_bytes q
    rw [same, decode_bytes p] at read
    exact (Except.ok.inj read).symm
  · intro posting d s queue calls cancelled posts brings format
    have payload := brings.payload (posts.body.trans written)
    apply Subscription.consume_read format
    rw [payload, decode_bytes]

/-- A parcel with a carrier of all kinds of characters. -/
def crated : Parcel where
  id := 4294967295
  carrier := "\"Fragile\" \\ \t\x01\x7f é 字 🚚"

/-- A subscriber to parcels that is done with each of them at once. -/
def unpacking : Subscription where
  name := "parcels"
  maxParallelism := 1
  source := .queue
  handler := .scripted (.of Parcel) [.succeed]

/-- The delivery of that parcel. -/
def carried : Delivery where
  tag := 1
  payload := (Message.view crated).bytes

theorem handled_as_posted_of_crated :
    Posts crated (.toExchange "main" crated "parcels" "")
      ∧ carried.Brings (.toExchange "main" crated "parcels" "")
      ∧ unpacking.handler.format = .of Parcel
      ∧ (unpacking.consume "parcels" 0 carried false).1.outcome = .handled := by
  have posts : Posts crated (.toExchange "main" crated "parcels" "") := .toExchange _ _ _
  have brings : carried.Brings (.toExchange "main" crated "parcels" "") := ⟨[], _, rfl, rfl⟩
  obtain ⟨-, -, delivered⟩ := handled_as_posted crated
  have handled := (delivered _ carried unpacking "parcels" 0 false posts brings rfl).2
  exact ⟨posts, brings, rfl, handled.2 ⟨none, rfl⟩⟩

end Parcel

end Courier
