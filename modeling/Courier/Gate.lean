/-
One-shot signals. A signal fires once, and stays fired; firing it again
changes nothing. Who waits for a signal is let through when it fires, or at
once if it has fired. Several handles may share one signal.

The signal of a publisher is one of these; see `Publisher.gates`.
-/
namespace Courier

/-- Signals known by handles, and who waits. -/
structure Gates where
  /-- Whether each signal has fired. -/
  fired : List Bool := [false]
  /-- The signal of each handle. -/
  handles : List Nat := [0]
  /-- The signal that each wait is for, none once it was let through. -/
  waits : List (Option Nat) := []
  deriving DecidableEq, Repr

/-- A request on a handle. -/
inductive GateRequest where
  | fire (handle : Nat)
  /-- A further handle of the signal of a handle. -/
  | share (handle : Nat)
  /-- A new signal, with a handle. -/
  | new
  | wait (handle : Nat)
  deriving DecidableEq, Repr

namespace Gates

/-- The signal of a handle. -/
def signal (g : Gates) (handle : Nat) : Nat := g.handles[handle]?.getD 0

/-- Whether a signal has fired. -/
def hasFired (g : Gates) (signal : Nat) : Bool := g.fired[signal]?.getD false

/-- Whether the signal of a handle has fired. -/
def isReady (g : Gates) (handle : Nat) : Bool := g.hasFired (g.signal handle)

/-- Takes a request; waits are only noted. -/
def request (g : Gates) : GateRequest → Gates
  | .fire h => { g with fired := g.fired.set (g.signal h) true }
  | .share h => { g with handles := g.handles ++ [g.signal h] }
  | .new => { g with fired := g.fired ++ [false], handles := g.handles ++ [g.fired.length] }
  | .wait h => { g with waits := g.waits ++ [some (g.signal h)] }

/-- Whether a wait is let through now. -/
def passes (g : Gates) (wait : Option Nat) : Bool := wait.any g.hasFired

/-- The numbers of the waits that are let through now. -/
def passing (g : Gates) : List Nat :=
  (List.range g.waits.length).filter fun i => g.passes (g.waits[i]?.getD none)

/-- Lets through all that can pass. -/
def letThrough (g : Gates) : Gates :=
  { g with waits := g.waits.map fun w => if g.passes w then none else w }

/-- Takes a request; gives the state of every handle and the waits let through. -/
def handle (g : Gates) (r : GateRequest) : Gates × List Bool × List Nat :=
  let g := g.request r
  (g.letThrough, (List.range g.handles.length).map g.isReady, g.passing)

/-- Takes requests in order. -/
def handleAll (g : Gates) : List GateRequest → List (List Bool × List Nat)
  | [] => []
  | r :: rest =>
    let (g, answer) := g.handle r
    answer :: g.handleAll rest

end Gates

end Courier
