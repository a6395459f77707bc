/-
A pool in use, with makings that follow a script: each one succeeds or
fails, at once or only when it is let go on. Those that have to be let go
on are so one at a time, longest first; letting go is remembered when
nothing waits for it.

A session takes one request after another. After each of them every taker
that waits gets to move as far as it can, in the order in which they came.
-/
import Courier.Pool

namespace Courier

/-- How the making of a resource goes. -/
structure Making where
  /-- Whether it has to be let go on. -/
  slow : Bool
  succeeds : Bool
  deriving DecidableEq, Repr

/-- A request to a session. -/
inductive PoolRequest where
  /-- A new taker. -/
  | take
  /-- Ends a taker. -/
  | drop (taker : Nat)
  /-- Lets one making go on. -/
  | letGo
  | close
  /-- Asks for the resources made so far; changes nothing. -/
  | list
  deriving DecidableEq, Repr

/-- A pool in use. -/
structure PoolSession where
  pool : Pool
  /-- How each making goes, by its number; past the end each succeeds at once. -/
  script : List Making
  /-- Times that letting go is remembered. -/
  letGoes : Nat := 0
  /-- Makings that have to be let go on, by their takers, longest first. -/
  held : List Nat := []
  /-- Takers whose making was let go on. -/
  freed : List Nat := []

/-- What a request came to. -/
structure PoolAnswer where
  /-- Takers that got a resource or a failure now. -/
  ready : List (Nat × Except Failure Nat)
  /-- Takers that wait. -/
  waiting : List Nat
  makings : Nat
  created : List Nat

namespace PoolSession

/-- How a making goes. -/
def making (s : PoolSession) (resource : Nat) : Making :=
  s.script[resource]?.getD ⟨false, true⟩

/-- Ends the making for a taker. What was made is registered at once. -/
def finishMaking (s : PoolSession) (k : Nat) (m : Making) : PoolSession :=
  { s with
    pool :=
      if m.succeeds then (s.pool.step (.made k)).step (.register k)
      else s.pool.step (.unmade k .channelRefused)
    freed := s.freed.filter (· != k) }

/-- Lets one making go on. -/
def letGo (s : PoolSession) : PoolSession :=
  match s.held with
  | k :: rest => { s with held := rest, freed := s.freed ++ [k] }
  | [] => { s with letGoes := s.letGoes + 1 }

/-- Begins a making. -/
def beginMaking (s : PoolSession) (k : Nat) (m : Making) : PoolSession :=
  if m.slow then
    if 0 < s.letGoes then { s with letGoes := s.letGoes - 1 }.finishMaking k m
    else { s with held := s.held ++ [k] }
  else s.finishMaking k m

/-- Lets a taker with a permit go on to its resource. -/
def pick (s : PoolSession) (k : Nat) : PoolSession :=
  let s := { s with pool := s.pool.step (.pick k) }
  match s.pool.phase? k with
  | some (.making r) => s.beginMaking k (s.making r)
  | _ => s

/-- Lets a taker that waits go as far as it can. -/
def poll (s : PoolSession) (k : Nat) : PoolSession :=
  match s.pool.phase? k with
  | some (.making r) => if s.freed.contains k then s.finishMaking k (s.making r) else s
  | some .permitted => s.pick k
  | _ =>
    let s := { s with pool := s.pool.step (.ask k) }
    match s.pool.phase? k with
    | some .permitted => s.pick k
    | _ => s

/-- Takers that wait, in the order in which they came. -/
def waiting (s : PoolSession) : List Nat :=
  (List.range s.pool.takers.length).filter fun k =>
    (s.pool.phase? k).any TakerPhase.isWaiting

/-- What a taker came to, if it waits no longer. -/
def result? (s : PoolSession) (k : Nat) : Option (Nat × Except Failure Nat) :=
  match s.pool.phase? k with
  | some (.holding r) => some (k, .ok r)
  | some (.failed f) => some (k, .error f)
  | _ => none

/-- Ends a taker, and its making with it. A making that was let go on leaves
that to the next one. -/
def dropTaker (s : PoolSession) (k : Nat) : PoolSession :=
  let wasFreed := s.freed.contains k
  let s := { s with
    pool := s.pool.drop k
    held := s.held.filter (· != k)
    freed := s.freed.filter (· != k) }
  if wasFreed then s.letGo else s

/-- Takes a request. -/
def request (s : PoolSession) : PoolRequest → PoolSession
  | .take => { s with pool := s.pool.step .arrive }
  | .drop k => s.dropTaker k
  | .letGo => s.letGo
  | .close => { s with pool := s.pool.step .close }
  | .list => s

/-- Takes a request and lets every taker that waits move. -/
def handle (s : PoolSession) (r : PoolRequest) : PoolSession × PoolAnswer :=
  let s := s.request r
  let waiting := s.waiting
  let s := waiting.foldl poll s
  (s, {
    ready := waiting.filterMap s.result?
    waiting := s.waiting
    makings := s.pool.makings
    created := s.pool.created })

/-- Takes requests in order. -/
def handleAll (s : PoolSession) : List PoolRequest → List PoolAnswer
  | [] => []
  | r :: rest =>
    let (s, answer) := s.handle r
    answer :: s.handleAll rest

end PoolSession

end Courier
