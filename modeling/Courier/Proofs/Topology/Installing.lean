/-
Installing over a channel that refuses what it pleases. The channel keeps what
it was asked (`recorder`), and which operations it refuses may depend on all of
that; so any call may fail by itself, and none has to fail because another one
did.

What is asked then is told without running it (`Refusals.Asks`): all of the
operations if none of them is refused where it stands, or else the shortest
prefix that ends with one that is. The induction goes over the operations, each
behind those that were asked before.
-/
import Courier.Proofs.Topology.References

namespace Courier.Topology

-- ===================================================== statement vocabulary

/-- Which operations a channel refuses, by those that it was asked before. -/
abbrev Refusals := List Operation → Operation → Bool

/-- None of the operations is refused, asked one after another behind those
before. -/
def Refusals.Spares (refuses : Refusals) (before ops : List Operation) : Prop :=
  ∀ (n : Nat) op, ops[n]? = some op → refuses (before ++ ops.take n) op = false

/-- What a channel is asked for to install operations behind those before, and
what comes of it. -/
inductive Refusals.Asks (refuses : Refusals) (before ops : List Operation) :
    List Operation → Except Failure Unit → Prop where
  | all : refuses.Spares before ops → Refusals.Asks refuses before ops ops (.ok ())
  /-- The first one that is refused is the last one that is asked for, and its
  refusal is what is reported. -/
  | upTo {n : Nat} {op : Operation} {call : Call} :
    ops[n]? = some op → op.call = .ok call → refuses.Spares before (ops.take n) →
    refuses (before ++ ops.take n) op = true →
    Refusals.Asks refuses before ops (ops.take (n + 1)) (.error call.refusal)

variable {refuses : Refusals} {before ops rest calls : List Operation} {op : Operation}
  {result : Except Failure Unit}

-- =============================================================== the names

theorem named_declareExchange {e : Exchange} {name : String} (given : e.name = some name) :
    (Operation.declareExchange e).Named := by
  refine ⟨.declareExchange name, ?_⟩
  simp only [Operation.call, given, givenName]
  rfl

theorem named_declareQueue {q : Queue} {name : String} (given : q.name = some name) :
    (Operation.declareQueue q).Named := by
  refine ⟨.declareQueue name, ?_⟩
  simp only [Operation.call, given, givenName]
  rfl

theorem named_bindQueue (override : Option QueueBinding) (queue exchange : String) :
    (Operation.bindQueue (bindingOr override queue exchange)).Named :=
  ⟨_, rfl⟩

/-- Every object of a plan has a name. -/
theorem Plan.named (s : Subscription) (settings : Settings.Consumer) :
    ∀ op ∈ (Plan.ofSubscription s settings).operations, op.Named := by
  intro op member
  unfold Plan.ofSubscription at member
  cases source : s.source with
  | exchange options =>
    rw [source] at member
    unfold Plan.ofExchange at member
    cases cycle : options.deadLetter with
    | none =>
        simp only [cycle, Option.map_none, Option.getD_none, List.cons_append, List.nil_append,
          List.mem_cons, List.not_mem_nil, or_false] at member
        rcases member with rfl | rfl | rfl
        · exact named_declareExchange (name_exchangeOr ..)
        · exact named_declareQueue (name_queueOr ..)
        · exact named_bindQueue ..
    | some c =>
        simp only [cycle, Option.map_some, Option.getD_some, CycleObjects.before,
          CycleObjects.after, cycleObjects, List.cons_append, List.nil_append, List.mem_cons,
          List.not_mem_nil, or_false] at member
        rcases member with rfl | rfl | rfl | rfl | rfl | rfl | rfl | rfl
        · exact named_declareExchange (name_exchangeOr ..)
        · exact named_declareExchange (name_exchangeOr ..)
        · exact named_declareExchange (name_exchangeOr ..)
        · exact named_declareQueue (name_queueOr ..)
        · exact named_bindQueue ..
        · exact named_declareQueue (name_queueOr ..)
        · exact named_bindQueue ..
        · exact named_bindQueue ..
  | queue =>
    rw [source] at member
    obtain rfl := List.mem_singleton.1 member
    exact ⟨_, rfl⟩

-- ========================================================= what is asked

namespace Refusals

theorem spares_cons : refuses.Spares before (op :: rest)
    ↔ refuses before op = false ∧ refuses.Spares (before ++ [op]) rest :=
  forall_getElem?_cons (P := fun done op => refuses done op = false)

/-- An operation that is not refused comes in front of what is asked behind it. -/
theorem Asks.cons (accepted : refuses before op = false)
    (later : refuses.Asks (before ++ [op]) rest calls result) :
    refuses.Asks before (op :: rest) (op :: calls) result := by
  cases later with
  | all spares => exact .all (spares_cons.2 ⟨accepted, spares⟩)
  | @upTo n last call at_n called spares refused =>
      rw [List.append_assoc] at refused
      exact .upTo (n := n + 1) at_n called (spares_cons.2 ⟨accepted, spares⟩) refused

/-- The first operation, if it is refused, is all that is asked. -/
theorem Asks.refused {call : Call} (called : op.call = .ok call)
    (refused : refuses before op = true) :
    refuses.Asks before (op :: rest) [op] (.error call.refusal) := by
  have none : refuses.Spares before ([] : List Operation) := fun _ _ at_n => nomatch at_n
  refine .upTo (n := 0) rfl called none ?_
  rwa [List.take_zero, List.append_nil]

/-- All is well exactly if nothing is refused. -/
theorem Asks.isOk_iff (asks : refuses.Asks before ops calls result) :
    result.isOk = true ↔ refuses.Spares before ops := by
  cases asks with
  | all spares => exact ⟨fun _ => spares, fun _ => rfl⟩
  | @upTo n op call at_n _ _ refused =>
      refine ⟨nofun, fun spares => ?_⟩
      rw [spares n op at_n] at refused
      cases refused

/-- What is reported is a refusal. -/
theorem Asks.ne_invalid (asks : refuses.Asks before ops calls result) (reason : String) :
    result ≠ .error (.invalidConfiguration reason) := by
  cases asks with
  | all => nofun
  | upTo => exact fun same => Call.refusal_ne _ reason (Except.error.inj same)

end Refusals

/-- Installing comes to what the refusals say. -/
theorem asks_of_install (refuses : Refusals) (before : List Operation)
    (named : ∀ op ∈ ops, op.Named) :
    ∃ calls result, (recorder refuses).install before ops = (result, before ++ calls)
      ∧ refuses.Asks before ops calls result := by
  induction ops generalizing before with
  | nil =>
      refine ⟨[], .ok (), ?_, .all fun _ _ at_n => nomatch at_n⟩
      rw [List.append_nil]
      rfl
  | cons op rest ih =>
      obtain ⟨call, called⟩ := named op List.mem_cons_self
      cases answer : refuses before op with
      | true =>
          refine ⟨[op], .error call.refusal, ?_, .refused called answer⟩
          simp only [Channel.install, Channel.perform, called, recorder, answer, Bool.not_true]
      | false =>
          obtain ⟨calls, result, installed, asks⟩ :=
            ih (before ++ [op]) fun op later => named op (List.mem_cons_of_mem _ later)
          refine ⟨op :: calls, result, ?_, .cons answer asks⟩
          rw [List.append_assoc] at installed
          simp only [Channel.install, Channel.perform, called, recorder, answer, Bool.not_false]
          exact installed

end Courier.Topology
