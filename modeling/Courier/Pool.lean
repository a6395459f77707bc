/-
Bounded pools. A pool hands out resources, at most `capacity` of them at a
time, and makes a new one only when none is free. Resources are numbered
in the order in which their making was begun.

A taker first gets a permit, then looks for a free resource, and has one
made if there is none; with the resource in hand it keeps no permit. A new
resource is registered with the pool before its taker holds it. Given
back, a resource goes on top of the free ones first, and then its permit
goes to the taker that has waited longest, or back to the pool. A making
that fails and a taker that gives up return their permit as well. Closing
the pool ends the wait of those without a permit; the others go on.

Each of these is one move, so that moves of different takers may come in
any order between them.
-/
import Courier.Failure

namespace Courier

/-- What a taker has come to. -/
inductive TakerPhase where
  /-- Has not asked for a permit yet. -/
  | asking
  /-- Waits for a permit. -/
  | queued
  /-- Was given the permit it waited for, and does not know yet. -/
  | granted
  /-- Has a permit, and looks for a free resource next. -/
  | permitted
  /-- Has a permit, and has a resource made. -/
  | making (resource : Nat)
  /-- Was made a resource, and registers it next. -/
  | registering (resource : Nat)
  /-- Holds a resource. -/
  | holding (resource : Nat)
  /-- Has given its resource back, and its permit not yet. -/
  | returning
  /-- Got no resource. -/
  | failed (failure : Failure)
  | gone
  deriving DecidableEq, Repr

/-- Whether a taker still waits for a resource. -/
def TakerPhase.isWaiting : TakerPhase → Bool
  | asking | queued | granted | permitted | making _ | registering _ => true
  | _ => false

/-- A pool with its takers, each known by its number. -/
structure Pool where
  capacity : Nat
  permits : Nat
  isOpen : Bool := true
  /-- Takers that wait for a permit, longest first. -/
  queue : List Nat := []
  /-- Free resources, the one given back last on top. -/
  free : List Nat := []
  /-- All resources that were registered, in the order in which that was done. -/
  created : List Nat := []
  /-- How many makings were begun. -/
  makings : Nat := 0
  takers : List TakerPhase := []
  deriving DecidableEq, Repr

/-- What can happen to a pool. -/
inductive PoolMove where
  /-- A new taker appears. -/
  | arrive
  /-- A taker asks for a permit, or looks what became of its asking. -/
  | ask (taker : Nat)
  /-- A taker with a permit looks for a free resource. -/
  | pick (taker : Nat)
  /-- The resource of a taker is made. -/
  | made (taker : Nat)
  /-- The making for a taker fails. -/
  | unmade (taker : Nat) (failure : Failure)
  /-- A taker registers the resource it was made. -/
  | register (taker : Nat)
  /-- A taker gives up before it has a resource. -/
  | abandon (taker : Nat)
  /-- A taker gives its resource back. -/
  | giveBack (taker : Nat)
  /-- A taker gives the permit of its resource back. -/
  | restore (taker : Nat)
  | close
  deriving DecidableEq, Repr

namespace Pool

/-- More permits than this cannot be counted. -/
def greatestCapacity : Nat := 0x1fffffffffffffff

/-- A pool of that capacity, with nothing in it. There is no pool without
capacity, and past the greatest capacity there is no answer at all. -/
def create (capacity : Nat) : Option (Except Failure Pool) :=
  if capacity < 1 then
    some (.error (.invalidConfiguration "max pool size cannot be less than 1"))
  else if greatestCapacity < capacity then none
  else some (.ok { capacity := capacity, permits := capacity })

/-- What a taker has come to. -/
def phase? (p : Pool) (k : Nat) : Option TakerPhase := p.takers[k]?

def setPhase (p : Pool) (k : Nat) (phase : TakerPhase) : Pool :=
  { p with takers := p.takers.set k phase }

/-- Gives a permit to the taker that has waited longest, or back to the pool. -/
def release (p : Pool) : Pool :=
  match p.queue with
  | k :: rest => { p with queue := rest }.setPhase k .granted
  | [] => { p with permits := p.permits + 1 }

/-- A taker asks for a permit, or looks what became of its asking. -/
def ask (p : Pool) (k : Nat) : Option Pool :=
  match p.phase? k with
  | some .asking =>
    if !p.isOpen then some (p.setPhase k (.failed .alreadyDisposed))
    else if 0 < p.permits then
      some ({ p with permits := p.permits - 1 }.setPhase k .permitted)
    else some ({ p with queue := p.queue ++ [k] }.setPhase k .queued)
  | some .queued =>
    if p.isOpen then none else some (p.setPhase k (.failed .alreadyDisposed))
  | some .granted =>
    if p.isOpen then some (p.setPhase k .permitted)
    else some (p.setPhase k (.failed .alreadyDisposed)).release
  | _ => none

/-- One move, if it is possible. -/
def step? (p : Pool) : PoolMove → Option Pool
  | .arrive => some { p with takers := p.takers ++ [.asking] }
  | .ask k => p.ask k
  | .pick k =>
    match p.phase? k, p.free with
    | some .permitted, r :: rest => some ({ p with free := rest }.setPhase k (.holding r))
    | some .permitted, [] =>
      some ({ p with makings := p.makings + 1 }.setPhase k (.making p.makings))
    | _, _ => none
  | .made k =>
    match p.phase? k with
    | some (.making r) => some (p.setPhase k (.registering r))
    | _ => none
  | .unmade k failure =>
    match p.phase? k with
    | some (.making _) => some (p.setPhase k (.failed failure)).release
    | _ => none
  | .register k =>
    match p.phase? k with
    | some (.registering r) =>
      some ({ p with created := p.created ++ [r] }.setPhase k (.holding r))
    | _ => none
  | .abandon k =>
    match p.phase? k with
    | some .asking => some (p.setPhase k .gone)
    | some .queued => some ({ p with queue := p.queue.filter (· != k) }.setPhase k .gone)
    | some .granted => some (p.setPhase k .gone).release
    | some .permitted => some (p.setPhase k .gone).release
    | some (.making _) => some (p.setPhase k .gone).release
    | _ => none
  | .giveBack k =>
    match p.phase? k with
    | some (.holding r) => some ({ p with free := r :: p.free }.setPhase k .returning)
    | _ => none
  | .restore k =>
    match p.phase? k with
    | some .returning => some (p.setPhase k .gone).release
    | _ => none
  | .close => some { p with isOpen := false, queue := [] }

/-- A move that is made where it is possible, and nothing elsewhere. -/
def step (p : Pool) (m : PoolMove) : Pool := (p.step? m).getD p

/-- Ends a taker: what it holds is given back, a wait is given up. -/
def drop (p : Pool) (k : Nat) : Pool :=
  match p.phase? k with
  | some (.holding _) => (p.step (.giveBack k)).step (.restore k)
  | _ => p.step (.abandon k)

/-- Pools that can come about with that capacity. -/
inductive Reachable (capacity : Nat) : Pool → Prop where
  | start {p : Pool} : create capacity = some (.ok p) → Reachable capacity p
  | step {p p' : Pool} (m : PoolMove) :
    Reachable capacity p → p.step? m = some p' → Reachable capacity p'

end Pool

end Courier
