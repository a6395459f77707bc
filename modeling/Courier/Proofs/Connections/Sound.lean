/-
What holds of the connections between any two moves. A disposal can fall
between any two moves of a call, so that no single check keeps a connection
from being opened twice or from being forgotten; this file states the
invariant that does, and what follows from it at once.

# The invariant

Three things carry the argument.

- A call that makes a connection is the maker its cell names, the cell is
  empty meanwhile, and the connection belongs to that call alone until it
  is put in the cell (`standing`). What is in a cell has all init
  operations (`filled`).
- An open connection is in a cell or with a maker (`placed`), and of the
  cells of one instance at most one has a connection or a maker that may
  get one (`single`). While the flag is down there is only one cell an
  instance, since the index knows all of them (`complete`). Once it is up,
  a call may still make a second cell, but only an attempt that had begun
  goes on, so no cell comes into use any more.
- Once the flag is up, whoever still has to close a connection is known: the
  disposal before it took the cells away, the disposal with that cell ahead
  of it, or a call that took the connection from its cell (`covered`).
-/
import Courier.Connections
import Courier.Proofs.Lookup

namespace Courier

-- ============================================================ the phases

/-- The cell whose connection a call asks for or has. -/
def CallPhase.live? : CallPhase → Option Nat
  | connecting cell _ | opening cell _ | installing cell _ _ | discarding cell _ _ => some cell
  | _ => none

/-- The cell whose connection a call makes. -/
def CallPhase.making? : CallPhase → Option Nat
  | attempting cell _ | connecting cell _ | pausing cell _ | opening cell _
  | installing cell _ _ | discarding cell _ _ => some cell
  | _ => none

/-- The connection that a call has and nobody else can find. -/
def CallPhase.private? : CallPhase → Option Nat
  | opening _ link | installing _ link _ | discarding _ link _ => some link
  | _ => none

/-- The connection that a call took from its cell and did not hand out. -/
def CallPhase.taken? : CallPhase → Option Nat
  | rechecking link | closing link => some link
  | _ => none

/-- Whether a disposal is the one that raised the flag. -/
def DisposalPhase.raised : DisposalPhase → Bool
  | draining | closing _ | finished (.ok _) => true
  | _ => false

namespace Connections

variable {cs cs' : Connections} {k : Nat} {c : ConnectionCall} {next : CallPhase}

-- ============================================================ the lookups

/-- A call after the change of one is that one or as it was. -/
theorem calls_setPhase (hc : cs.calls[k]? = some c) {j : Nat} {d : ConnectionCall}
    (hd : (cs.setPhase k next).calls[j]? = some d) :
    j = k ∧ d = { c with phase := next } ∨ j ≠ k ∧ cs.calls[j]? = some d := by
  obtain ⟨d₀, hd₀, rfl⟩ := of_getElem?_modify hd
  by_cases same : k = j
  · subst same
    rw [hc] at hd₀
    cases hd₀
    rw [if_pos rfl]
    exact .inl ⟨rfl, rfl⟩
  · rw [if_neg same]
    exact .inr ⟨Ne.symm same, hd₀⟩

/-- The call that changes. -/
theorem call_setPhase (hc : cs.calls[k]? = some c) :
    (cs.setPhase k next).calls[k]? = some { c with phase := next } := by
  show (cs.calls.modify k _)[k]? = _
  rw [getElem?_modify_of_some _ hc, if_pos rfl]

/-- Any other call. -/
theorem call_setPhase_of_ne {j : Nat} {d : ConnectionCall} (other : j ≠ k)
    (hd : cs.calls[j]? = some d) : (cs.setPhase k next).calls[j]? = some d := by
  show (cs.calls.modify k _)[j]? = _
  rw [getElem?_modify_of_some _ hd, if_neg (Ne.symm other)]

-- ========================================================== the invariant

/-- A cell is empty, and a call for that instance is its maker. -/
def Makes (cs : Connections) (k : Nat) (i : Instance) (cell : Nat) : Prop :=
  cs.cells[cell]? = some { owner := i.name, maker := some k, link := none }

/-- A connection to the broker of an instance has some of the operations,
and these are left. -/
def Carries (cs : Connections) (name : String) (link : Nat)
    (left all : List Topology.Operation) : Prop :=
  ∃ l : Link, cs.links[link]? = some l ∧ l.owner = name ∧ l.installed ++ left = all

/-- A connection is in a cell of the instance. -/
def Found (cs : Connections) (name : String) (link : Nat) : Prop :=
  ∃ (cell : Nat) (x : Cell), cs.cells[cell]? = some x ∧ x.owner = name ∧ x.link = some link

/-- What a call for an instance relies on. -/
def Standing (cs : Connections) (k : Nat) (i : Instance) : CallPhase → Prop
  | .entering | .enrolling | .finished (.error _) => True
  | .waiting cell => ∃ x, cs.cells[cell]? = some x ∧ x.owner = i.name
  | .attempting cell _ | .connecting cell _ | .pausing cell _ => cs.Makes k i cell
  | .opening cell link =>
    cs.Makes k i cell ∧ cs.Carries i.name link i.initOperations i.initOperations
  | .installing cell link left => cs.Makes k i cell ∧ cs.Carries i.name link left i.initOperations
  | .discarding cell link _ =>
    cs.Makes k i cell ∧ ∃ left, cs.Carries i.name link left i.initOperations
  | .rechecking link | .closing link | .finished (.ok link) => cs.Found i.name link

/-- All operations of a call for an instance are on its connection. -/
def Ready (cs : Connections) (name : String) (link : Nat) : Prop :=
  ∃ (k : Nat) (c : ConnectionCall), cs.calls[k]? = some c ∧ c.caller.name = name
    ∧ cs.Carries name link [] c.caller.initOperations

/-- A cell has a connection, or a maker that may get one. -/
def Used (cs : Connections) (cell : Nat) (x : Cell) : Prop :=
  cs.cells[cell]? = some x
    ∧ (x.link ≠ none
      ∨ ∃ (k : Nat) (c : ConnectionCall), cs.calls[k]? = some c ∧ c.phase.live? = some cell)

/-- Somebody will close a connection in a cell. -/
def Doomed (cs : Connections) (cell : Nat) (x : Cell) (link : Nat) : Prop :=
  (∃ d : Nat, cs.disposals[d]? = some .draining ∧ KeyedList.get? x.owner cs.index = some cell)
  ∨ (∃ (d : Nat) (rest : List Nat), cs.disposals[d]? = some (.closing rest) ∧ cell ∈ rest)
  ∨ ∃ (k : Nat) (c : ConnectionCall), cs.calls[k]? = some c ∧ c.phase.taken? = some link

/-- A connection is with a call that nobody else knows of. -/
def Kept (cs : Connections) (link : Nat) : Prop :=
  ∃ (k : Nat) (c : ConnectionCall), cs.calls[k]? = some c ∧ c.phase.private? = some link

/-- No open connection has that number. -/
def Shut (cs : Connections) (link : Nat) : Prop :=
  ∀ l : Link, cs.links[link]? = some l → l.isOpen = false

/-- What holds of the connections between any two moves. -/
structure Sound (cs : Connections) : Prop where
  standing : ∀ (k : Nat) (c : ConnectionCall), cs.calls[k]? = some c →
    cs.Standing k c.caller c.phase
  filled : ∀ (cell : Nat) (x : Cell) (link : Nat), cs.cells[cell]? = some x →
    x.link = some link → cs.Ready x.owner link
  placed : ∀ link, cs.Shut link ∨ cs.Kept link
    ∨ ∃ (cell : Nat) (x : Cell), cs.cells[cell]? = some x ∧ x.link = some link
  indexed : ∀ (name : String) (cell : Nat), KeyedList.get? name cs.index = some cell →
    ∃ x, cs.cells[cell]? = some x ∧ x.owner = name
  complete : cs.disposed = false → ∀ (cell : Nat) (x : Cell),
    cs.cells[cell]? = some x → KeyedList.get? x.owner cs.index = some cell
  single : ∀ (cell cell' : Nat) (x x' : Cell), cs.Used cell x → cs.Used cell' x' →
    x.owner = x'.owner → cell = cell'
  covered : cs.disposed = true → ∀ (cell : Nat) (x : Cell) (link : Nat),
    cs.cells[cell]? = some x → x.link = some link → cs.Shut link ∨ cs.Doomed cell x link

-- ===================================================== what a change spares

/-- A call still stands where it stood if its cell and its connection do. -/
theorem Standing.mono {i : Instance} {phase : CallPhase} (st : cs.Standing k i phase)
    (cells : ∀ (cell : Nat) (x : Cell), cs.cells[cell]? = some x →
      ∃ x', cs'.cells[cell]? = some x' ∧ x'.owner = x.owner
        ∧ (phase.making? = some cell → x' = x) ∧ ∀ link, x.link = some link → x'.link = some link)
    (links : ∀ (link : Nat) (l : Link), phase.private? = some link → cs.links[link]? = some l →
      ∃ l', cs'.links[link]? = some l' ∧ l'.owner = l.owner ∧ l'.installed = l.installed) :
    cs'.Standing k i phase := by
  have makes : ∀ cell, phase.making? = some cell → cs.Makes k i cell → cs'.Makes k i cell := by
    intro cell making made
    obtain ⟨x', hx', -, same, -⟩ := cells cell _ made
    rw [same making] at hx'
    exact hx'
  have carries : ∀ link left, phase.private? = some link →
      cs.Carries i.name link left i.initOperations →
      cs'.Carries i.name link left i.initOperations := by
    intro link left own carried
    obtain ⟨l, hl, owner, installed⟩ := carried
    obtain ⟨l', hl', owner', installed'⟩ := links link l own hl
    exact ⟨l', hl', owner'.trans owner, installed' ▸ installed⟩
  have found : ∀ link, cs.Found i.name link → cs'.Found i.name link := by
    intro link found
    obtain ⟨cell, x, hx, owner, hlink⟩ := found
    obtain ⟨x', hx', owner', -, kept⟩ := cells cell x hx
    exact ⟨cell, x', hx', owner'.trans owner, kept link hlink⟩
  cases phase with
  | entering => trivial
  | enrolling => trivial
  | waiting cell =>
      obtain ⟨x, hx, owner⟩ := st
      obtain ⟨x', hx', owner', -, -⟩ := cells cell x hx
      exact ⟨x', hx', owner'.trans owner⟩
  | attempting cell left => exact makes cell rfl st
  | connecting cell left => exact makes cell rfl st
  | pausing cell left => exact makes cell rfl st
  | opening cell link => exact ⟨makes cell rfl st.1, carries link _ rfl st.2⟩
  | installing cell link left => exact ⟨makes cell rfl st.1, carries link _ rfl st.2⟩
  | discarding cell link failure =>
      obtain ⟨made, left, carried⟩ := st
      exact ⟨makes cell rfl made, left, carries link left rfl carried⟩
  | rechecking link => exact found link st
  | closing link => exact found link st
  | finished result =>
      cases result with
      | error failure => trivial
      | ok link => exact found link st

/-- What a call stands on is not a matter of phases. -/
theorem standing_setPhase {i : Instance} {j : Nat} {phase : CallPhase}
    (st : cs.Standing j i phase) : (cs.setPhase k next).Standing j i phase :=
  st.mono (fun _ x hx => ⟨x, hx, rfl, fun _ => rfl, fun _ hlink => hlink⟩)
    (fun _ l _ hl => ⟨l, hl, rfl, rfl⟩)

theorem Standing.makes {i : Instance} {phase : CallPhase} {cell : Nat}
    (st : cs.Standing k i phase) (making : phase.making? = some cell) : cs.Makes k i cell := by
  cases phase with
  | attempting cell left =>
      cases making
      exact st
  | connecting cell left =>
      cases making
      exact st
  | pausing cell left =>
      cases making
      exact st
  | opening cell link =>
      cases making
      exact st.1
  | installing cell link left =>
      cases making
      exact st.1
  | discarding cell link failure =>
      cases making
      exact st.1
  | _ => cases making

/-- A call that has a connection for itself makes it for a cell. -/
theorem Standing.carries {i : Instance} {phase : CallPhase} {link : Nat}
    (st : cs.Standing k i phase) (own : phase.private? = some link) :
    ∃ cell left, phase.live? = some cell ∧ cs.Makes k i cell
      ∧ cs.Carries i.name link left i.initOperations := by
  cases phase with
  | opening cell link =>
      cases own
      exact ⟨cell, _, rfl, st⟩
  | installing cell link left =>
      cases own
      exact ⟨cell, left, rfl, st⟩
  | discarding cell link failure =>
      cases own
      obtain ⟨made, left, carried⟩ := st
      exact ⟨cell, left, rfl, made, carried⟩
  | _ => cases own

/-- A connection that is with a call is in no cell. -/
theorem Sound.private_not_filled (s : Sound cs) {link : Nat} (hc : cs.calls[k]? = some c)
    (own : c.phase.private? = some link) {cell : Nat} {x : Cell}
    (hx : cs.cells[cell]? = some x) : x.link ≠ some link := by
  intro filled
  obtain ⟨made, left, live, makes, l, hl, owner, -⟩ := (s.standing k c hc).carries own
  obtain ⟨-, -, -, -, l', hl', owner', -⟩ := s.filled cell x link hx filled
  rw [hl] at hl'
  cases hl'
  have same := s.single cell made x _ ⟨hx, .inl (filled ▸ Option.some_ne_none link)⟩
    ⟨makes, .inr ⟨k, c, hc, live⟩⟩ (owner'.symm.trans owner)
  rw [same] at hx
  have empty := congrArg Cell.link (Option.some.inj (hx.symm.trans makes))
  rw [filled] at empty
  cases empty

/-- A connection is with one call at most. -/
theorem Sound.private_unique (s : Sound cs) {link : Nat} (hc : cs.calls[k]? = some c)
    (own : c.phase.private? = some link) {j : Nat} {d : ConnectionCall}
    (hd : cs.calls[j]? = some d) (own' : d.phase.private? = some link) : j = k := by
  obtain ⟨cell, left, live, makes, l, hl, owner, -⟩ := (s.standing k c hc).carries own
  obtain ⟨cell', left', live', makes', l', hl', owner', -⟩ := (s.standing j d hd).carries own'
  rw [hl] at hl'
  cases hl'
  have same := s.single cell' cell _ _ ⟨makes', .inr ⟨j, d, hd, live'⟩⟩
    ⟨makes, .inr ⟨k, c, hc, live⟩⟩ (owner'.symm.trans owner)
  rw [same] at makes'
  have maker := congrArg Cell.maker (Option.some.inj (makes'.symm.trans makes))
  exact Option.some.inj maker

/-- With the flag down there is one cell an instance; with the flag up it is
enough that no cell comes into use. -/
theorem Sound.single_of (s : Sound cs)
    (complete : cs'.disposed = false → ∀ (cell : Nat) (x : Cell),
      cs'.cells[cell]? = some x → KeyedList.get? x.owner cs'.index = some cell)
    (used : cs'.disposed = true → ∀ (cell : Nat) (x' : Cell), cs'.Used cell x' →
      ∃ x, cs.Used cell x ∧ x.owner = x'.owner)
    (cell cell' : Nat) (x x' : Cell) (hx : cs'.Used cell x) (hx' : cs'.Used cell' x')
    (owners : x.owner = x'.owner) : cell = cell' := by
  cases flag : cs'.disposed with
  | false =>
      have found := complete flag cell x hx.1
      have found' := complete flag cell' x' hx'.1
      rw [owners, found'] at found
      cases found
      rfl
  | true =>
      obtain ⟨y, hy, owner⟩ := used flag cell x hx
      obtain ⟨y', hy', owner'⟩ := used flag cell' x' hx'
      exact s.single cell cell' y y' hy hy' (owner.trans (owners.trans owner'.symm))

end Connections

end Courier
