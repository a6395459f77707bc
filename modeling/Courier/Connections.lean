/-
The connections of all instances, one an instance. A connection is made
when it is first asked for, and its init operations are installed on it
before anyone gets it. Calls for one instance share a cell: one call at a
time makes the connection, the others wait, and once the cell is filled all
of them take what is in it. A making that fails leaves the cell empty for
the next call in it, which makes a new start with all its attempts.

Disposing raises a flag first, then takes all cells away and closes what is
in them. A call looks at the flag before it looks for its cell, at the
start of each attempt, and once more with the connection in hand; in the
last case it closes the connection itself, since nobody else may find it.

Each of these is one move, so that moves of different calls may come in any
order between them. What the broker answers is part of a move.
-/
import Courier.Network
import Courier.Retry

namespace Courier

/-- What a call for a connection has come to. -/
inductive CallPhase where
  /-- About to look at the flag. -/
  | entering
  /-- About to look for its cell. -/
  | enrolling
  /-- In a cell, for the connection or its turn to make it. -/
  | waiting (cell : Nat)
  /-- About to begin an attempt, with `left` more after it. -/
  | attempting (cell left : Nat)
  /-- Asks for a connection. -/
  | connecting (cell left : Nat)
  /-- Between two attempts. -/
  | pausing (cell left : Nat)
  /-- Asks for a channel to install the init operations over. -/
  | opening (cell link : Nat)
  /-- Installs init operations; these are left. -/
  | installing (cell link : Nat) (left : List Topology.Operation)
  /-- About to close a connection whose init operations failed. -/
  | discarding (cell link : Nat) (failure : Failure)
  /-- Has the connection; about to look at the flag again. -/
  | rechecking (link : Nat)
  /-- About to close a connection that came too late. -/
  | closing (link : Nat)
  | finished (result : Except Failure Nat)

/-- A call for the connection of an instance. -/
structure ConnectionCall where
  caller : Instance
  phase : CallPhase := .entering

/-- What a disposal has come to. -/
inductive DisposalPhase where
  /-- About to raise the flag. -/
  | raising
  /-- About to take the cells away. -/
  | draining
  /-- Closes what is in these cells. -/
  | closing (cells : List Nat)
  | finished (result : Except Failure Unit)

/-- A place for the connection of an instance. -/
structure Cell where
  owner : String
  /-- The call that makes the connection. -/
  maker : Option Nat := none
  link : Option Nat := none

/-- A connection that was opened. -/
structure Link where
  owner : String
  /-- The init operations installed on it, in order. -/
  installed : List Topology.Operation := []
  isOpen : Bool := true

/-- The connections of all instances. Cells, connections, calls and
disposals are known by their numbers. -/
structure Connections where
  disposed : Bool := false
  /-- The cell of each instance that has one. -/
  index : List (String × Nat) := []
  cells : List Cell := []
  links : List Link := []
  calls : List ConnectionCall := []
  disposals : List DisposalPhase := []

/-- What can happen to the connections. -/
inductive ConnectionMove where
  /-- A new call. -/
  | call (i : Instance)
  /-- A call goes on by itself. -/
  | advance (call : Nat)
  /-- The broker accepts what a call asks for. -/
  | accepted (call : Nat)
  /-- The broker refuses what a call asks for. -/
  | refused (call : Nat) (reason : String)
  /-- A new disposal. -/
  | dispose
  /-- A disposal goes on. -/
  | proceed (disposal : Nat)

namespace Connections

-- ================================================================ calls

/-- What a call has come to. -/
def phase? (cs : Connections) (k : Nat) : Option CallPhase := cs.calls[k]?.map (·.phase)

def setPhase (cs : Connections) (k : Nat) (phase : CallPhase) : Connections :=
  { cs with calls := cs.calls.modify k ({ · with phase := phase }) }

/-- Makes a cell for an instance. -/
def addCell (cs : Connections) (name : String) : Connections :=
  { cs with
    index := KeyedList.put name cs.cells.length cs.index
    cells := cs.cells ++ [{ owner := name }] }

/-- Puts a call in the cell of its instance, a new one if there is none. -/
def enroll (cs : Connections) (k : Nat) (name : String) : Connections :=
  match KeyedList.get? name cs.index with
  | some cell => cs.setPhase k (.waiting cell)
  | none => (cs.addCell name).setPhase k (.waiting cs.cells.length)

/-- A call takes what is in its cell, or its turn to make it. -/
def enter (cs : Connections) (k cell : Nat) (attempts : Nat) : Option Connections := do
  let c ← cs.cells[cell]?
  match c.link, c.maker with
  | some link, _ => some (cs.setPhase k (.rechecking link))
  | none, some _ => none
  | none, none =>
    some ({ cs with cells := cs.cells.set cell { c with maker := some k } }.setPhase k
      (.attempting cell attempts))

/-- A call fails and leaves the cell to the next one. -/
def leave (cs : Connections) (k cell : Nat) (f : Failure) : Connections :=
  { cs with cells := cs.cells.modify cell ({ · with maker := none }) }.setPhase k
    (.finished (.error f))

/-- A call puts its connection in the cell. -/
def fill (cs : Connections) (k cell link : Nat) : Connections :=
  { cs with cells := cs.cells.modify cell ({ · with maker := none, link := some link }) }.setPhase k
    (.rechecking link)

/-- Closes a connection. -/
def close (cs : Connections) (link : Nat) : Connections :=
  { cs with links := cs.links.modify link ({ · with isOpen := false }) }

/-- Opens a connection to the broker of an instance. -/
def addLink (cs : Connections) (name : String) : Connections :=
  { cs with links := cs.links ++ [{ owner := name }] }

/-- Notes an operation that was installed on a connection. -/
def install (cs : Connections) (link : Nat) (op : Topology.Operation) : Connections :=
  { cs with links := cs.links.modify link fun l => { l with installed := l.installed ++ [op] } }

/-- Opens a connection for a call. Without init operations it is ready. -/
def connected (cs : Connections) (k cell : Nat) (i : Instance) : Connections :=
  let link := cs.links.length
  (cs.addLink i.name).setPhase k
    (if i.initOperations.isEmpty then .installing cell link [] else .opening cell link)

/-- A call goes on by itself, if it can. -/
def advance (cs : Connections) (k : Nat) : Option Connections := do
  let c ← cs.calls[k]?
  match c.phase with
  | .entering =>
    some (cs.setPhase k (if cs.disposed then .finished (.error .alreadyDisposed) else .enrolling))
  | .enrolling => some (cs.enroll k c.caller.name)
  | .waiting cell => cs.enter k cell c.caller.connection.maxReconnectCount.toNat
  | .attempting cell left =>
    some (if cs.disposed then cs.leave k cell .alreadyDisposed
      else cs.setPhase k (.connecting cell left))
  | .pausing cell left => some (cs.setPhase k (.attempting cell left))
  | .installing cell link [] => some (cs.fill k cell link)
  | .installing cell link (op :: _) =>
    match op.call with
    | .error f => some (cs.setPhase k (.discarding cell link f))
    | .ok _ => none
  | .discarding cell link f => some ((cs.close link).leave k cell f)
  | .rechecking link =>
    some (cs.setPhase k (if cs.disposed then .closing link else .finished (.ok link)))
  | .closing link => some ((cs.close link).setPhase k (.finished (.error .alreadyDisposed)))
  | .connecting .. | .opening .. | .finished _ => none

/-- The broker accepts what a call asks for, if it asks for something. -/
def accepted (cs : Connections) (k : Nat) : Option Connections := do
  let c ← cs.calls[k]?
  match c.phase with
  | .connecting cell _ => some (cs.connected k cell c.caller)
  | .opening cell link => some (cs.setPhase k (.installing cell link c.caller.initOperations))
  | .installing cell link (op :: rest) =>
    match op.call with
    | .error _ => none
    | .ok _ =>
      some ((cs.install link op).setPhase k (.installing cell link rest))
  | _ => none

/-- The broker refuses what a call asks for, if it asks for something. Only
a refused connection is tried again. -/
def refused (cs : Connections) (k : Nat) (reason : String) : Option Connections := do
  let c ← cs.calls[k]?
  match c.phase with
  | .connecting cell 0 => some (cs.leave k cell (.brokerUnreachable reason))
  | .connecting cell (left + 1) => some (cs.setPhase k (.pausing cell left))
  | .opening cell link => some (cs.setPhase k (.discarding cell link .channelRefused))
  | .installing cell link (op :: _) =>
    match op.call with
    | .error _ => none
    | .ok call => some (cs.setPhase k (.discarding cell link call.refusal))
  | _ => none

-- ============================================================ disposals

def setDisposal (cs : Connections) (d : Nat) (phase : DisposalPhase) : Connections :=
  { cs with disposals := cs.disposals.set d phase }

/-- A disposal goes on. Only the one that raises the flag closes anything. -/
def proceed (cs : Connections) (d : Nat) : Option Connections := do
  match ← cs.disposals[d]? with
  | .raising =>
    if cs.disposed then some (cs.setDisposal d (.finished (.error .alreadyDisposed)))
    else some ({ cs with disposed := true }.setDisposal d .draining)
  | .draining => some ({ cs with index := [] }.setDisposal d (.closing (cs.index.map Prod.snd)))
  | .closing (cell :: rest) =>
    match cs.cells[cell]?.bind (·.link) with
    | some link => some ((cs.close link).setDisposal d (.closing rest))
    | none => some (cs.setDisposal d (.closing rest))
  | .closing [] => some (cs.setDisposal d (.finished (.ok ())))
  | .finished _ => none

-- ================================================================ moves

/-- One move, if it is possible. -/
def step? (cs : Connections) : ConnectionMove → Option Connections
  | .call i => some { cs with calls := cs.calls ++ [{ caller := i }] }
  | .advance k => cs.advance k
  | .accepted k => cs.accepted k
  | .refused k reason => cs.refused k reason
  | .dispose => some { cs with disposals := cs.disposals ++ [.raising] }
  | .proceed d => cs.proceed d

/-- A move that is made where it is possible, and nothing elsewhere. -/
def step (cs : Connections) (m : ConnectionMove) : Connections := (cs.step? m).getD cs

/-- What a call came to, if it has ended. -/
def result? (cs : Connections) (k : Nat) : Option (Except Failure Nat) :=
  match cs.phase? k with
  | some (.finished result) => some result
  | _ => none

/-- What a disposal came to, if it has ended. -/
def disposed? (cs : Connections) (d : Nat) : Option (Except Failure Unit) :=
  match cs.disposals[d]? with
  | some (.finished result) => some result
  | _ => none

/-- Connections that can come about. -/
inductive Reachable : Connections → Prop where
  | start : Reachable {}
  | step {cs cs' : Connections} (m : ConnectionMove) :
    Reachable cs → cs.step? m = some cs' → Reachable cs'

-- ================================================================= logs

/-- What is logged at the start of an attempt. -/
def attemptLog (i : Instance) : LogEvent where
  level := .info
  target := .connection
  message := "start trying to connect"
  values := [
    ("instance", .text i.name),
    ("config", .text i.connection.display),
    ("dispatch_concurrency", .number i.dispatchConcurrency.toNat)]

/-- What is logged of a connection that gives no channel for its init
operations. -/
def initChannelLog : LogEvent where
  level := .error
  target := .connection
  message := "error to create the init channel"

/-- What is logged of a connection that is closed by a disposal. -/
def closingLog (name : String) : LogEvent where
  level := .debug
  target := .connection
  message := "closing connection"
  values := [("instance", .text name)]

/-- What is logged when a call goes on by itself. -/
def advanceLogs (cs : Connections) (k : Nat) : List LogEvent :=
  match cs.calls[k]? with
  | some ⟨i, .attempting _ _⟩ => if cs.disposed then [] else [attemptLog i]
  | some ⟨i, .installing _ _ []⟩ => [connectedLog i.name i.connection]
  | _ => []

/-- What is logged when the broker refuses what a call asks for. -/
def refusedLogs (cs : Connections) (k : Nat) (reason : String) : List LogEvent :=
  match cs.calls[k]? with
  | some ⟨i, .connecting _ 0⟩ => [noAttemptsLeftLog i.name i.connection reason]
  | some ⟨i, .connecting _ (left + 1)⟩ => [reconnectLog i.name i.connection reason (left + 1)]
  | some ⟨_, .opening _ _⟩ => [initChannelLog]
  | _ => []

/-- What is logged when a disposal goes on. -/
def proceedLogs (cs : Connections) (d : Nat) : List LogEvent :=
  match cs.disposals[d]? with
  | some (.closing (cell :: _)) =>
    match cs.cells[cell]? with
    | some ⟨owner, _, some _⟩ => [closingLog owner]
    | _ => []
  | _ => []

/-- What is logged of a move. -/
def logs (cs : Connections) : ConnectionMove → List LogEvent
  | .advance k => cs.advanceLogs k
  | .refused k reason => cs.refusedLogs k reason
  | .proceed d => cs.proceedLogs d
  | .call _ | .accepted _ | .dispose => []

end Connections

end Courier
