/-
What comes of the first call for the connection of an instance, while nobody
else calls. A session makes it move by move; here it is told as a whole
(`Instance.link`): the broker is asked for a connection until it gives one or
no attempt is left, and the init operations are installed over a channel of
that connection.

A call that has ended makes no move any more, so it is enough that it ends
within the moves a session grants it (`Settles`). They are counted backwards,
from the phases at the end to those at the beginning: each phase settles one
move later than the one it leads to. The attempts and the init operations are
the two inductions in it (`settles_connecting`, `settles_installing`).
-/
import Courier.Connections.Session
import Courier.Proofs.Connections.Sound

namespace Courier

open Courier.Topology (Operation)

-- ========================================================= told as a whole

/-- Installs operations over a channel. Whether all were installed, and the network after it. -/
def Network.install {σ : Type} (net : Network σ) (name : String) (ops : List Operation) (s : σ) :
    Bool × σ :=
  (((net.channel name).install s ops).1.isOk, ((net.channel name).install s ops).2)

namespace Instance

variable {σ : Type}

/-- What is done with a connection that was opened: the init operations are installed over
a channel, if there are any. Whether that came to its end, and the network after it. -/
def initiate (i : Instance) (net : Network σ) (s : σ) : Bool × σ :=
  if i.initOperations.isEmpty then (true, s)
  else
    match net.ask s i.name .openChannel with
    | (false, s) => (false, s)
    | (true, s) => net.install i.name i.initOperations s

/-- Asks for a connection, again as long as attempts are left. -/
def connect (i : Instance) (net : Network σ) : Nat → σ → Bool × σ
  | 0, s =>
    match net.ask s i.name .connect with
    | (true, s) => i.initiate net s
    | (false, s) => (false, s)
  | left + 1, s =>
    match net.ask s i.name .connect with
    | (true, s) => i.initiate net s
    | (false, s) => i.connect net left s

/-- Gets a connection for an instance, with all its attempts. -/
def link (i : Instance) (net : Network σ) (s : σ) : Bool × σ :=
  i.connect net i.connection.maxReconnectCount.toNat s

end Instance

namespace ConnectionSession

variable {σ : Type} {net : Network σ} {k cell link left moves moves' : Nat} {i : Instance}
  {s : ConnectionSession σ} {phase next : CallPhase} {index : List (String × Nat)}
  {outcome : Bool × σ}

/-- A call has come to a phase. Nothing was disposed, and these are the cells. -/
structure Stands (s : ConnectionSession σ) (k : Nat) (i : Instance) (phase : CallPhase)
    (index : List (String × Nat)) : Prop where
  call : s.connections.calls[k]? = some ⟨i, phase⟩
  undisposed : s.connections.disposed = false
  cells : s.connections.index = index

/-- After so many moves, and however many more, a call has ended, with a connection or
without one, and with this network. -/
def Settles (net : Network σ) (k : Nat) (i : Instance) (index : List (String × Nat))
    (s : ConnectionSession σ) (moves : Nat) (outcome : Bool × σ) : Prop :=
  ∃ s' result, (∀ n, moves ≤ n → s.runCall net k n = s')
    ∧ Stands s' k i (.finished result) index ∧ result.isOk = outcome.1 ∧ s'.network = outcome.2

-- ================================================================ settling

theorem Settles.mono (settles : Settles net k i index s moves outcome) (more : moves ≤ moves') :
    Settles net k i index s moves' outcome := by
  obtain ⟨s', result, run, rest⟩ := settles
  exact ⟨s', result, fun n enough => run n (Nat.le_trans more enough), rest⟩

/-- One move earlier. -/
theorem Settles.head (settles : Settles net k i index (s.stepCall net k) moves outcome) :
    Settles net k i index s (moves + 1) outcome := by
  obtain ⟨s', result, run, rest⟩ := settles
  refine ⟨s', result, fun n enough => ?_, rest⟩
  obtain ⟨m, rfl⟩ : ∃ m, n = m + 1 := ⟨n - 1, by omega⟩
  exact run m (Nat.le_of_succ_le_succ enough)

/-- One move earlier, if the outcome is told by the network after that move. -/
theorem Settles.step (outcome : σ → Bool × σ) {network : σ}
    (same : (s.stepCall net k).network = network)
    (later : Settles net k i index (s.stepCall net k) moves
      (outcome (s.stepCall net k).network)) :
    Settles net k i index s (moves + 1) (outcome network) := by
  rw [same] at later
  exact later.head

/-- The phase of a call after a move that sets it. -/
theorem Stands.after (stands : Stands s k i phase index) {s' : ConnectionSession σ}
    {cs : Connections} (moved : s'.connections = cs.setPhase k next)
    (calls : cs.calls = s.connections.calls) (disposed : cs.disposed = s.connections.disposed)
    {index' : List (String × Nat)} (cells : cs.index = index') : Stands s' k i next index' := by
  refine ⟨?_, ?_, ?_⟩
  · rw [moved]
    exact Connections.call_setPhase (calls ▸ stands.call)
  · rw [moved]
    exact disposed.trans stands.undisposed
  · rw [moved]
    exact cells

/-- The phase of a call after a move that does nothing else. -/
theorem Stands.turn (stands : Stands s k i phase index) {s' : ConnectionSession σ}
    (moved : s'.connections = s.connections.setPhase k next) : Stands s' k i next index :=
  stands.after moved rfl rfl stands.cells

/-- A call that goes on by itself. -/
theorem advanced {cs : Connections} (alone : s.stepCall net k = s.move (.advance k))
    (goes : s.connections.advance k = some cs) :
    (s.stepCall net k).connections = cs ∧ (s.stepCall net k).network = s.network := by
  rw [alone]
  exact ⟨by simp only [move, Connections.step, Connections.step?, goes, Option.getD_some], rfl⟩

/-- A call that asks for something and gets it. -/
theorem granted {cs : Connections} {r : Request} {network : σ}
    (asks : s.stepCall net k = s.ask net k i r)
    (answer : net.ask s.network i.name r = (true, network))
    (goes : s.connections.accepted k = some cs) :
    (s.stepCall net k).connections = cs ∧ (s.stepCall net k).network = network := by
  rw [asks, ask, answer]
  exact ⟨by simp only [move, Connections.step, Connections.step?, goes, Option.getD_some], rfl⟩

/-- A call that asks for something and does not get it. -/
theorem denied {cs : Connections} {r : Request} {network : σ}
    (asks : s.stepCall net k = s.ask net k i r)
    (answer : net.ask s.network i.name r = (false, network))
    (goes : s.connections.refused k net.reason = some cs) :
    (s.stepCall net k).connections = cs ∧ (s.stepCall net k).network = network := by
  rw [asks, ask, answer]
  exact ⟨by simp only [move, Connections.step, Connections.step?, goes, Option.getD_some], rfl⟩

-- ============================================================= the phases

theorem settles_finished (net : Network σ) {result : Except Failure Nat}
    (stands : Stands s k i (.finished result) index) :
    Settles net k i index s 0 (result.isOk, s.network) := by
  have still : s.stepCall net k = s := by
    simp [stepCall, stands.call, move, Connections.step, Connections.step?, Connections.advance,
      Connections.logs, Connections.advanceLogs]
  refine ⟨s, result, fun n _ => ?_, stands, rfl, rfl⟩
  induction n with
  | zero => rfl
  | succ n ih =>
      unfold runCall
      rw [still]
      exact ih (Nat.zero_le n)

theorem settles_rechecking (net : Network σ) (stands : Stands s k i (.rechecking link) index) :
    Settles net k i index s 1 (true, s.network) := by
  have alone : s.stepCall net k = s.move (.advance k) := by simp only [stepCall, stands.call]
  have goes : s.connections.advance k
      = some (s.connections.setPhase k (.finished (.ok link))) := by
    simp [Connections.advance, stands.call, stands.undisposed]
  obtain ⟨moved, network⟩ := advanced alone goes
  exact .step (true, ·) network (settles_finished net (stands.turn moved))

/-- A connection whose init operations failed is closed, and its cell is left. -/
theorem settles_discarding (net : Network σ) {f : Failure}
    (stands : Stands s k i (.discarding cell link f) index) :
    Settles net k i index s 1 (false, s.network) := by
  have alone : s.stepCall net k = s.move (.advance k) := by simp only [stepCall, stands.call]
  have goes : s.connections.advance k = some ((s.connections.close link).leave k cell f) := by
    simp [Connections.advance, stands.call]
  obtain ⟨moved, network⟩ := advanced alone goes
  exact .step (false, ·) network
    (settles_finished net (stands.after moved rfl rfl stands.cells))

/-- The init operations are installed, up to the first one that fails. -/
theorem settles_installing (net : Network σ) (ops : List Operation) {s : ConnectionSession σ}
    (stands : Stands s k i (.installing cell link ops) index) :
    Settles net k i index s (ops.length + 2) (net.install i.name ops s.network) := by
  induction ops generalizing s with
  | nil =>
      have alone : s.stepCall net k = s.move (.advance k) := by simp only [stepCall, stands.call]
      have goes : s.connections.advance k = some (s.connections.fill k cell link) := by
        simp [Connections.advance, stands.call]
      obtain ⟨moved, network⟩ := advanced alone goes
      have next : Stands (s.stepCall net k) k i (.rechecking link) index :=
        stands.after moved rfl rfl stands.cells
      exact .step (true, ·) network (settles_rechecking net next)
  | cons op rest ih =>
      unfold Network.install Topology.Channel.install Topology.Channel.perform
      cases hcall : op.call with
      | error f =>
          have alone : s.stepCall net k = s.move (.advance k) := by
            simp only [stepCall, stands.call, hcall]
          have goes : s.connections.advance k
              = some (s.connections.setPhase k (.discarding cell link f)) := by
            simp [Connections.advance, stands.call, hcall]
          obtain ⟨moved, network⟩ := advanced alone goes
          have settles := Settles.step (false, ·) network
            (settles_discarding net (stands.turn moved))
          exact settles.mono (by simp)
      | ok call =>
          have asks : s.stepCall net k = s.ask net k i (.perform op) := by
            simp only [stepCall, stands.call, hcall]
          cases answer : net.ask s.network i.name (.perform op) with
          | mk accepted network =>
          have answer' : (net.channel i.name).ask s.network op = (accepted, network) := answer
          simp only [answer']
          cases accepted with
          | false =>
              have goes : s.connections.refused k net.reason
                  = some (s.connections.setPhase k (.discarding cell link call.refusal)) := by
                simp [Connections.refused, stands.call, hcall]
              obtain ⟨moved, same⟩ := denied asks answer goes
              have settles := Settles.step (false, ·) same
                (settles_discarding net (stands.turn moved))
              exact settles.mono (by simp)
          | true =>
              have goes : s.connections.accepted k
                  = some ((s.connections.install link op).setPhase k
                    (.installing cell link rest)) := by
                simp [Connections.accepted, stands.call, hcall]
              obtain ⟨moved, same⟩ := granted asks answer goes
              have next : Stands (s.stepCall net k) k i (.installing cell link rest) index :=
                stands.after moved rfl rfl stands.cells
              exact .step (net.install i.name rest) same (ih next)

/-- A channel is asked for, and the init operations are installed over it. -/
theorem settles_opening (net : Network σ) (some : i.initOperations.isEmpty = false)
    (stands : Stands s k i (.opening cell link) index) :
    Settles net k i index s (i.initOperations.length + 3) (i.initiate net s.network) := by
  have asks : s.stepCall net k = s.ask net k i .openChannel := by
    simp only [stepCall, stands.call]
  unfold Instance.initiate
  rw [some]
  cases answer : net.ask s.network i.name .openChannel with
  | mk accepted network =>
  cases accepted with
  | false =>
      have goes : s.connections.refused k net.reason
          = Option.some (s.connections.setPhase k (.discarding cell link .channelRefused)) := by
        simp [Connections.refused, stands.call]
      obtain ⟨moved, same⟩ := denied asks answer goes
      have settles := Settles.step (false, ·) same
        (settles_discarding net (stands.turn moved))
      exact settles.mono (by omega)
  | true =>
      have goes : s.connections.accepted k
          = Option.some (s.connections.setPhase k (.installing cell link i.initOperations)) := by
        simp [Connections.accepted, stands.call]
      obtain ⟨moved, same⟩ := granted asks answer goes
      exact .step (net.install i.name i.initOperations) same
        (settles_installing net i.initOperations (stands.turn moved))

/-- A connection was opened: it is ready without init operations, and otherwise they come
first. -/
theorem settles_connected (net : Network σ) {cs : Connections}
    (moved : s.connections = cs.connected k cell i) (call : cs.calls[k]? = some ⟨i, phase⟩)
    (undisposed : cs.disposed = false) (cells : cs.index = index) :
    Settles net k i index s (i.initOperations.length + 3) (i.initiate net s.network) := by
  have calls : s.connections.calls[k]? = some ⟨i, if i.initOperations.isEmpty then
      .installing cell cs.links.length [] else .opening cell cs.links.length⟩ := by
    rw [moved]
    exact Connections.call_setPhase (show (cs.addLink i.name).calls[k]? = _ from call)
  have disposed : s.connections.disposed = false := by
    rw [moved]
    exact undisposed
  have index : s.connections.index = index := by
    rw [moved]
    exact cells
  cases none : i.initOperations.isEmpty with
  | true =>
      rw [none, if_pos rfl] at calls
      have settles := settles_installing net [] ⟨calls, disposed, index⟩
      rw [Instance.initiate, none, if_pos rfl]
      exact settles.mono (by simp)
  | false =>
      rw [none] at calls
      exact settles_opening net none ⟨calls, disposed, index⟩

theorem asks_of_connecting (net : Network σ)
    (stands : Stands s k i (.connecting cell left) index) :
    s.stepCall net k = s.ask net k i .connect := by
  simp only [stepCall, stands.call]

/-- The connection that a call asks for is given. -/
theorem settles_given (net : Network σ) {network : σ}
    (stands : Stands s k i (.connecting cell left) index)
    (answer : net.ask s.network i.name .connect = (true, network)) :
    Settles net k i index s (i.initOperations.length + 4) (i.initiate net network) := by
  have goes : s.connections.accepted k = some (s.connections.connected k cell i) := by
    simp [Connections.accepted, stands.call]
  obtain ⟨moved, same⟩ := granted (asks_of_connecting net stands) answer goes
  exact .step (i.initiate net) same
    (settles_connected net moved stands.call stands.undisposed stands.cells)

theorem attempting_of_pausing (net : Network σ)
    (stands : Stands s k i (.pausing cell left) index) :
    Stands (s.stepCall net k) k i (.attempting cell left) index
      ∧ (s.stepCall net k).network = s.network := by
  have alone : s.stepCall net k = s.move (.advance k) := by simp only [stepCall, stands.call]
  have goes : s.connections.advance k
      = some (s.connections.setPhase k (.attempting cell left)) := by
    simp [Connections.advance, stands.call]
  obtain ⟨moved, network⟩ := advanced alone goes
  exact ⟨stands.turn moved, network⟩

theorem connecting_of_attempting (net : Network σ)
    (stands : Stands s k i (.attempting cell left) index) :
    Stands (s.stepCall net k) k i (.connecting cell left) index
      ∧ (s.stepCall net k).network = s.network := by
  have alone : s.stepCall net k = s.move (.advance k) := by simp only [stepCall, stands.call]
  have goes : s.connections.advance k
      = some (s.connections.setPhase k (.connecting cell left)) := by
    simp [Connections.advance, stands.call, stands.undisposed]
  obtain ⟨moved, network⟩ := advanced alone goes
  exact ⟨stands.turn moved, network⟩

/-- A call that asks for a connection has that many attempts more. -/
theorem settles_connecting (net : Network σ) (left : Nat) {s : ConnectionSession σ}
    (stands : Stands s k i (.connecting cell left) index) :
    Settles net k i index s (3 * left + i.initOperations.length + 4)
      (i.connect net left s.network) := by
  induction left generalizing s with
  | zero =>
      unfold Instance.connect
      cases answer : net.ask s.network i.name .connect with
      | mk accepted network =>
      cases accepted with
      | true => exact (settles_given net stands answer).mono (by omega)
      | false =>
          have goes : s.connections.refused k net.reason
              = some (s.connections.leave k cell (.brokerUnreachable net.reason)) := by
            simp [Connections.refused, stands.call]
          obtain ⟨moved, same⟩ := denied (asks_of_connecting net stands) answer goes
          have settles := Settles.step (false, ·) same
            (settles_finished net (stands.after moved rfl rfl stands.cells))
          exact settles.mono (by omega)
  | succ left ih =>
      unfold Instance.connect
      cases answer : net.ask s.network i.name .connect with
      | mk accepted network =>
      cases accepted with
      | true => exact (settles_given net stands answer).mono (by omega)
      | false =>
          have goes : s.connections.refused k net.reason
              = some (s.connections.setPhase k (.pausing cell left)) := by
            simp [Connections.refused, stands.call]
          obtain ⟨moved, same⟩ := denied (asks_of_connecting net stands) answer goes
          -- two moves after the refusal the call asks again, with one attempt less
          obtain ⟨again, still⟩ := attempting_of_pausing net (stands.turn moved)
          obtain ⟨next, still'⟩ := connecting_of_attempting net again
          have settles := ih next
          rw [still', still, same] at settles
          exact settles.head.head.head.mono (by omega)

/-- A call that is the first one in its cell makes the connection. -/
theorem settles_waiting (net : Network σ) {owner : String}
    (stands : Stands s k i (.waiting cell) index)
    (empty : s.connections.cells[cell]? = some { owner := owner }) :
    Settles net k i index s
      (3 * i.connection.maxReconnectCount.toNat + i.initOperations.length + 6)
      (i.link net s.network) := by
  have alone : s.stepCall net k = s.move (.advance k) := by simp only [stepCall, stands.call]
  have goes : s.connections.advance k = some
      ({ s.connections with
        cells := s.connections.cells.set cell { owner := owner, maker := some k } }.setPhase k
          (.attempting cell i.connection.maxReconnectCount.toNat)) := by
    simp [Connections.advance, Connections.enter, stands.call, empty]
  obtain ⟨moved, network⟩ := advanced alone goes
  obtain ⟨next, still⟩ := connecting_of_attempting net (stands.after moved rfl rfl stands.cells)
  have settles := settles_connecting net _ next
  rw [still, network] at settles
  exact settles.head.head

/-- A call for an instance without a cell gets a new one. -/
theorem settles_enrolling (net : Network σ) (stands : Stands s k i .enrolling index)
    (new : KeyedList.get? i.name index = none) :
    Settles net k i (KeyedList.put i.name s.connections.cells.length index) s
      (3 * i.connection.maxReconnectCount.toNat + i.initOperations.length + 7)
      (i.link net s.network) := by
  have alone : s.stepCall net k = s.move (.advance k) := by simp only [stepCall, stands.call]
  have goes : s.connections.advance k = some ((s.connections.addCell i.name).setPhase k
      (.waiting s.connections.cells.length)) := by
    simp [Connections.advance, Connections.enroll, stands.call, stands.cells, new]
  obtain ⟨moved, network⟩ := advanced alone goes
  have next : Stands (s.stepCall net k) k i (.waiting s.connections.cells.length)
      (KeyedList.put i.name s.connections.cells.length index) :=
    stands.after moved rfl rfl (by rw [← stands.cells]; rfl)
  have empty : (s.stepCall net k).connections.cells[s.connections.cells.length]?
      = some { owner := i.name } := by
    rw [moved]
    exact List.getElem?_concat_length
  exact .step (i.link net) network (settles_waiting net next empty)

theorem settles_entering (net : Network σ) (stands : Stands s k i .entering index)
    (new : KeyedList.get? i.name index = none) :
    Settles net k i (KeyedList.put i.name s.connections.cells.length index) s
      (3 * i.connection.maxReconnectCount.toNat + i.initOperations.length + 8)
      (i.link net s.network) := by
  have alone : s.stepCall net k = s.move (.advance k) := by simp only [stepCall, stands.call]
  have goes : s.connections.advance k = some (s.connections.setPhase k .enrolling) := by
    simp [Connections.advance, stands.call, stands.undisposed]
  obtain ⟨moved, network⟩ := advanced alone goes
  have settles := settles_enrolling net (stands.turn moved) new
  rw [moved, network] at settles
  exact settles.head

-- ================================================================ the call

/-- The first call for the connection of an instance ends, and comes to what linking the
instance comes to. -/
theorem get_eq_link (net : Network σ) (s : ConnectionSession σ)
    (undisposed : s.connections.disposed = false)
    (new : KeyedList.get? i.name s.connections.index = none) :
    ∃ s' result, s.get net i = (s', some result) ∧ result.isOk = (i.link net s.network).1
      ∧ s'.network = (i.link net s.network).2 ∧ s'.connections.disposed = false
      ∧ s'.connections.index
        = KeyedList.put i.name s.connections.cells.length s.connections.index := by
  have stands : Stands (s.move (.call i)) s.connections.calls.length i .entering
      s.connections.index :=
    ⟨List.getElem?_concat_length, undisposed, rfl⟩
  obtain ⟨s', result, run, ended, outcome, network⟩ := settles_entering net stands new
  have finished : (s.move (.call i)).finishCall net s.connections.calls.length = s' := by
    unfold finishCall
    rw [stands.call]
    exact run (callLength i) (by unfold callLength; omega)
  refine ⟨s', result, ?_, outcome, network, ended.undisposed, ended.cells⟩
  simp only [get, finished, Connections.result?, Connections.phase?, ended.call,
    Option.map_some]

end ConnectionSession

end Courier
