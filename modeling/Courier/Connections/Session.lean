/-
Calls for connections, one after another, in a network that answers at
once. Every call is brought to its end before the next request is taken.
-/
import Courier.Connections

namespace Courier

/-- Connections, the network they go to, and what was logged so far. -/
structure ConnectionSession (σ : Type) where
  connections : Connections := {}
  network : σ
  logs : List LogEvent := []

namespace ConnectionSession

variable {σ : Type}

/-- Makes a move and logs it. -/
def move (s : ConnectionSession σ) (m : ConnectionMove) : ConnectionSession σ :=
  { s with connections := s.connections.step m, logs := s.logs ++ s.connections.logs m }

/-- Lets a call ask the broker of its instance. -/
def ask (net : Network σ) (s : ConnectionSession σ) (k : Nat) (i : Instance) (r : Request) :
    ConnectionSession σ :=
  match net.ask s.network i.name r with
  | (true, network) => { s with network := network }.move (.accepted k)
  | (false, network) => { s with network := network }.move (.refused k net.reason)

/-- Lets a call go on, by itself or with an answer. -/
def stepCall (net : Network σ) (s : ConnectionSession σ) (k : Nat) : ConnectionSession σ :=
  match s.connections.calls[k]? with
  | some ⟨i, .connecting _ _⟩ => s.ask net k i .connect
  | some ⟨i, .opening _ _⟩ => s.ask net k i .openChannel
  | some ⟨i, .installing _ _ (op :: _)⟩ =>
    match op.call with
    | .ok _ => s.ask net k i (.perform op)
    | .error _ => s.move (.advance k)
  | _ => s.move (.advance k)

/-- Lets a call go on that many times. -/
def runCall (net : Network σ) (s : ConnectionSession σ) (k : Nat) : Nat → ConnectionSession σ
  | 0 => s
  | n + 1 => (s.stepCall net k).runCall net k n

/-- A number of moves in which a call comes to its end, if nobody is in its
way: three to its turn, three for each attempt, one for each init operation
and for the channel, and three more to hand the connection out. -/
def callLength (i : Instance) : Nat :=
  3 + 3 * (i.connection.maxReconnectCount.toNat + 1) + (i.initOperations.length + 1) + 3

/-- Brings a call to its end. -/
def finishCall (net : Network σ) (s : ConnectionSession σ) (k : Nat) : ConnectionSession σ :=
  match s.connections.calls[k]? with
  | some c => s.runCall net k (callLength c.caller)
  | none => s

/-- Calls for the connection of an instance. -/
def get (net : Network σ) (s : ConnectionSession σ) (i : Instance) :
    ConnectionSession σ × Option (Except Failure Nat) :=
  let k := s.connections.calls.length
  let s := (s.move (.call i)).finishCall net k
  (s, s.connections.result? k)

/-- That many calls at once for the connection of an instance. -/
def getMany (net : Network σ) (s : ConnectionSession σ) (i : Instance) (count : Nat) :
    ConnectionSession σ × List (Option (Except Failure Nat)) :=
  let calls := (List.range count).map (s.connections.calls.length + ·)
  let s := calls.foldl (fun s _ => s.move (.call i)) s
  let s := calls.foldl (fun s k => s.finishCall net k) s
  (s, calls.map s.connections.result?)

/-- Lets a disposal go on that many times. -/
def runDisposal (s : ConnectionSession σ) (d : Nat) : Nat → ConnectionSession σ
  | 0 => s
  | n + 1 => (s.move (.proceed d)).runDisposal d n

/-- Disposes the connections. A disposal raises the flag, takes the cells
away, visits each of them, and ends. -/
def dispose (s : ConnectionSession σ) : ConnectionSession σ × Option (Except Failure Unit) :=
  let d := s.connections.disposals.length
  let s := (s.move .dispose).runDisposal d (s.connections.index.length + 3)
  (s, s.connections.disposed? d)

end ConnectionSession

end Courier
