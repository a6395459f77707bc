/-
The signal that messages for exchanges wait for is one of the one-shot signals
that are known by handles. A publisher keeps of it whether it has fired, and of
its waits which messages are at the gate; seen as signals (`Publisher.gates`)
that is one signal with one handle, and a wait for every message at the gate.

It has fired after moves of a publisher if it was requested to among them, or
had fired before (`fired_run`). A message at the gate can go on exactly if its
wait is let through (`goesOn_iff_passing`). So the answer of the signal to being
fired is what the publisher comes to: the waits that are let through are those
of the messages that then go on, and no wait is left (`handle_fire`).
-/
import Courier.Gate
import Courier.Proofs.Publisher.Links

namespace Courier

-- ===================================================== statement vocabulary

/-- Whether a message waits for the signal. -/
def SendPhase.isAtGate : SendPhase → Bool
  | gated _ => true
  | _ => false

namespace Publisher

/-- The signal of a publisher, with the messages that wait for it by their numbers. -/
def gates (p : Publisher) : Gates where
  fired := [p.ready]
  waits := p.sends.map fun s => if s.phase.isAtGate then some 0 else none

/-- What a move asks of the signal. -/
def gateRequest? : PublisherMove → Option GateRequest
  | .fire => some (.fire 0)
  | _ => none

/-- Messages go on, one after another. -/
def goOn (p : Publisher) (sends : List Nat) : Publisher :=
  sends.foldl (fun p k => p.step (.advance k)) p

end Publisher

-- ============================================================ one-shot signals

/-- Waits that are let through one after another. -/
theorem getElem?_foldl_set (sends : List Nat) (waits : List (Option Nat)) (i : Nat) :
    (sends.foldl (fun waits k => waits.set k none) waits)[i]?
      = if i ∈ sends then waits[i]?.map (fun _ => none) else waits[i]? := by
  induction sends generalizing waits with
  | nil => rfl
  | cons k rest ih =>
      rw [List.foldl_cons, ih, List.getElem?_set']
      by_cases here : k = i
      · subst here
        cases waits[k]? <;> simp
      · simp [here, Ne.symm here]

/-- To let through all that can pass is to let through each of them. -/
theorem Gates.foldl_passing (g : Gates) :
    g.passing.foldl (fun waits k => waits.set k none) g.waits = g.letThrough.waits := by
  refine List.ext_getElem? fun i => ?_
  have passed : i ∈ g.passing ↔ i < g.waits.length ∧ g.passes (g.waits[i]?.getD none) = true := by
    rw [passing, List.mem_filter, List.mem_range]
  rw [getElem?_foldl_set, letThrough, List.getElem?_map, if_congr passed rfl rfl]
  by_cases inside : i < g.waits.length
  · rw [List.getElem?_eq_getElem inside, Option.getD_some]
    simp only [inside, true_and, Option.map_some]
    split <;> rfl
  · rw [List.getElem?_eq_none (Nat.le_of_not_lt inside)]
    split <;> rfl

namespace Publisher

variable {p p' : Publisher} {m : PublisherMove} {k : Nat} {s : Send}

-- =============================================================== the signal

/-- Its handle tells whether the consumers are ready. -/
theorem isReady_gates (p : Publisher) : p.gates.isReady 0 = p.ready := rfl

/-- To fire the signal is to request it of its handle. -/
theorem gates_fire (p : Publisher) : (p.step .fire).gates = p.gates.request (.fire 0) := rfl

/-- The signal after a move is the one after what the move asks of it. -/
theorem fired_step (links : Links p) (step : p.step? m = some p') :
    p'.gates.fired = ((gateRequest? m).elim p.gates p.gates.request).fired := by
  by_cases fires : m = .fire
  · subst fires
    cases step
    rfl
  · have unasked : gateRequest? m = none := by
      cases m with
      | fire => exact absurd rfl fires
      | _ => rfl
    rw [unasked]
    exact congrArg (fun ready => [ready]) (ready_step links fires step)

/-- After any moves it is the one after all that they ask of it. -/
theorem fired_run {moves : List PublisherMove} (links : Links p)
    (run : moves.foldlM step? p = some p') :
    p'.gates.fired = ((moves.filterMap gateRequest?).foldl Gates.request p.gates).fired := by
  -- What is asked of it changes only whether it has fired, and does not look at the waits.
  suffices agree : ∀ g : Gates, g.fired = p.gates.fired → g.handles = p.gates.handles →
      p'.gates.fired = ((moves.filterMap gateRequest?).foldl Gates.request g).fired from
    agree _ rfl rfl
  induction moves generalizing p with
  | nil =>
      cases run
      exact fun g fired _ => fired.symm
  | cons m rest ih =>
      intro g fired handles
      obtain ⟨q, step, run⟩ := Option.bind_eq_some_iff.1 run
      have first := fired_step links step
      have after := ih (links_step links step) run
      cases asked : gateRequest? m with
      | none =>
          rw [asked] at first
          rw [List.filterMap_cons_none asked]
          exact after g (fired.trans first.symm) handles
      | some request =>
          rw [asked] at first
          rw [List.filterMap_cons_some asked, List.foldl_cons]
          obtain rfl : request = .fire 0 := by
            cases m with
            | fire => exact (Option.some.inj asked).symm
            | _ => cases asked
          refine after _ ?_ handles
          rw [first]
          show g.fired.set (g.signal 0) true = p.gates.fired.set (p.gates.signal 0) true
          rw [Gates.signal, Gates.signal, fired, handles]

-- ================================================================ the waits

/-- The wait of a message at the gate passes when the signal has fired. -/
theorem passes_gates (p : Publisher) (k : Nat) :
    p.gates.passes (p.gates.waits[k]?.getD none)
      = (p.ready && (p.sends[k]?).any (·.phase.isAtGate)) := by
  have wait : p.gates.waits[k]?.getD none
      = if (p.sends[k]?).any (·.phase.isAtGate) then some 0 else none := by
    rw [gates, List.getElem?_map]
    cases p.sends[k]? <;> rfl
  rw [wait]
  cases (p.sends[k]?).any (·.phase.isAtGate) with
  | true => exact (Bool.and_true p.ready).symm
  | false => exact (Bool.and_false p.ready).symm

/-- The waits that are let through are those of the messages at the gate. -/
theorem mem_passing_gates : k ∈ p.gates.passing
    ↔ p.ready = true ∧ ∃ s, p.sends[k]? = some s ∧ s.phase.isAtGate = true := by
  rw [Gates.passing, List.mem_filter, passes_gates, Bool.and_eq_true, Option.any_eq_true]
  refine ⟨And.right, fun waits => ⟨?_, waits⟩⟩
  obtain ⟨-, s, sent, -⟩ := waits
  rw [List.mem_range, gates, List.length_map]
  exact (List.getElem?_eq_some_iff.1 sent).1

/-- A message at the gate goes through it when the signal has fired. -/
theorem step_of_ready (ready : p.ready = true) (sent : p.sends[k]? = some s)
    (waits : s.phase.isAtGate = true) :
    ∃ taker, p.step? (.advance k) = some (p.setPhase k (.publishing taker 0)) := by
  obtain ⟨posting, phase⟩ := s
  cases phase with
  | gated taker => exact ⟨taker, by simp [step?, advance, sent, ready]⟩
  | _ => cases waits

/-- A message at the gate can go on exactly if its wait is let through. -/
theorem goesOn_iff_passing (sent : p.sends[k]? = some s) (waits : s.phase.isAtGate = true) :
    (p.step? (.advance k)).isSome ↔ k ∈ p.gates.passing := by
  rw [mem_passing_gates]
  constructor
  · intro goes
    refine ⟨?_, s, sent, waits⟩
    obtain ⟨posting, phase⟩ := s
    cases phase with
    | gated taker =>
        cases ready : p.ready with
        | true => rfl
        | false => simp [step?, advance, sent, ready] at goes
    | _ => cases waits
  · rintro ⟨ready, -⟩
    obtain ⟨taker, step⟩ := step_of_ready ready sent waits
    rw [step]
    rfl

/-- Then nothing is left of its wait. -/
theorem gates_advance (ready : p.ready = true) (sent : p.sends[k]? = some s)
    (waits : s.phase.isAtGate = true) :
    (p.step (.advance k)).gates = { p.gates with waits := p.gates.waits.set k none } := by
  obtain ⟨taker, step⟩ := step_of_ready ready sent waits
  rw [Publisher.step, step]
  show Gates.mk [p.ready] [0] _ = _
  congr 1
  show (p.sends.modify k _).map _ = _
  rw [modify_eq_set _ sent, List.map_set]
  rfl

/-- Messages at the gate that go on, one after another, leave nothing of their waits.
The induction is on those that still have to: they are at the gate until it is their
turn. -/
theorem gates_goOn {sends : List Nat} (once : sends.Nodup)
    (passing : ∀ k ∈ sends, k ∈ p.gates.passing) :
    (p.goOn sends).gates
      = { p.gates with waits := sends.foldl (fun waits k => waits.set k none) p.gates.waits } := by
  induction sends generalizing p with
  | nil => rfl
  | cons k rest ih =>
      obtain ⟨fresh, once⟩ := List.nodup_cons.1 once
      obtain ⟨ready, s, sent, waits⟩ := mem_passing_gates.1 (passing k List.mem_cons_self)
      obtain ⟨taker, step⟩ := step_of_ready ready sent waits
      have moved : p.step (.advance k) = p.setPhase k (.publishing taker 0) := by
        rw [Publisher.step, step]
        rfl
      have first := gates_advance ready sent waits
      have others : ∀ j ∈ rest, j ∈ (p.step (.advance k)).gates.passing := by
        intro j member
        obtain ⟨-, s', sent', waits'⟩ :=
          mem_passing_gates.1 (passing j (List.mem_cons_of_mem _ member))
        refine mem_passing_gates.2 ⟨by rw [moved]; exact ready, s', ?_, waits'⟩
        rw [moved, sends_setPhase sent, getElem?_set_of_ne (by rintro rfl; exact fresh member)]
        exact sent'
      have after := ih once others
      rw [first] at after
      exact after

/-- Letting all of them through is letting the messages go on. -/
theorem letThrough_gates (p : Publisher) : (p.goOn p.gates.passing).gates = p.gates.letThrough := by
  have once : p.gates.passing.Nodup := List.nodup_range.filter _
  rw [gates_goOn once fun k member => member, p.gates.foldl_passing]
  rfl

-- ========================================================== the main result

/-- What the signal answers to being fired is what the publisher comes to by firing it:
let through are the waits of the messages at the gate, and the signal after that is the
one after these messages went on. -/
theorem handle_fire (p : Publisher) :
    p.gates.handle (.fire 0)
      = (((p.step .fire).goOn (p.step .fire).gates.passing).gates, [true],
        (p.step .fire).gates.passing)
      ∧ ∀ k, k ∈ (p.step .fire).gates.passing
        ↔ ∃ s, p.sends[k]? = some s ∧ s.phase.isAtGate = true := by
  refine ⟨?_, fun k => mem_passing_gates.trans (and_iff_right rfl)⟩
  rw [letThrough_gates]
  rfl

end Publisher

end Courier
