/-
What the moves of the connections do, read off once, seen from a call.

- A call goes on from one phase to another in one of the ways of `Turn`.
  Beside that it changes connections and cells; of these only is kept here
  whose connections there are and who makes a connection (`Moved`).
- Every other move is a new call or one of a disposal, and a disposal leaves
  the calls where they are: `step_cases`.

A cell names a call as its maker as long as that call makes its connection
(`Manned`). `Sound` says the other half, that the call which makes a
connection is the one its cell names.
-/
import Courier.Proofs.Connections.Moves

namespace Courier

/-- The attempts that an instance grants a call after its first one. -/
def Instance.reconnects (i : Instance) : Nat := i.connection.maxReconnectCount.toNat

/-- The call that a move is of. -/
def ConnectionMove.call? : ConnectionMove → Option Nat
  | advance k | accepted k | refused k _ => some k
  | call _ | dispose | proceed _ => none

namespace Connections

variable {cs cs' : Connections} {m : ConnectionMove} {k : Nat} {c : ConnectionCall}
  {before next : CallPhase}

-- ============================================================== one call

/-- Call `k`, which is for that instance, goes on from one phase to another. -/
inductive Turn (cs : Connections) (k : Nat) (i : Instance) :
    ConnectionMove → CallPhase → CallPhase → Prop where
  | barred : cs.disposed = true →
    Turn cs k i (.advance k) .entering (.finished (.error .alreadyDisposed))
  | enters : cs.disposed = false → Turn cs k i (.advance k) .entering .enrolling
  | enrolls (cell : Nat) : Turn cs k i (.advance k) .enrolling (.waiting cell)
  | takes {cell link : Nat} {x : Cell} : cs.cells[cell]? = some x → x.link = some link →
    Turn cs k i (.advance k) (.waiting cell) (.rechecking link)
  | begins {cell : Nat} : Turn cs k i (.advance k) (.waiting cell) (.attempting cell i.reconnects)
  | stops {cell left : Nat} : cs.disposed = true →
    Turn cs k i (.advance k) (.attempting cell left) (.finished (.error .alreadyDisposed))
  | tries {cell left : Nat} : cs.disposed = false →
    Turn cs k i (.advance k) (.attempting cell left) (.connecting cell left)
  | gives {cell : Nat} {reason : String} : Turn cs k i (.refused k reason) (.connecting cell 0)
    (.finished (.error (.brokerUnreachable reason)))
  | pauses {cell left : Nat} {reason : String} :
    Turn cs k i (.refused k reason) (.connecting cell (left + 1)) (.pausing cell left)
  | resumes {cell left : Nat} :
      Turn cs k i (.advance k) (.pausing cell left) (.attempting cell left)
  | connects {cell left link : Nat} :
    Turn cs k i (.accepted k) (.connecting cell left) (.opening cell link)
  | connectsBare {cell left link : Nat} :
    Turn cs k i (.accepted k) (.connecting cell left) (.installing cell link [])
  | opens {cell link : Nat} :
    Turn cs k i (.accepted k) (.opening cell link) (.installing cell link i.initOperations)
  | installs {cell link : Nat} {op : Topology.Operation} {rest : List Topology.Operation} :
    Turn cs k i (.accepted k) (.installing cell link (op :: rest)) (.installing cell link rest)
  | fills {cell link : Nat} :
    Turn cs k i (.advance k) (.installing cell link []) (.rechecking link)
  | spoils {cell link : Nat} {op : Topology.Operation} {rest : List Topology.Operation}
    {f : Failure} :
    Turn cs k i (.advance k) (.installing cell link (op :: rest)) (.discarding cell link f)
  | denied {cell link : Nat} {reason : String} {f : Failure} :
    Turn cs k i (.refused k reason) (.opening cell link) (.discarding cell link f)
  | fails {cell link : Nat} {op : Topology.Operation} {rest : List Topology.Operation}
    {reason : String} {f : Failure} :
    Turn cs k i (.refused k reason) (.installing cell link (op :: rest)) (.discarding cell link f)
  | discards {cell link : Nat} {f : Failure} :
    Turn cs k i (.advance k) (.discarding cell link f) (.finished (.error f))
  | late {link : Nat} : cs.disposed = true →
    Turn cs k i (.advance k) (.rechecking link) (.closing link)
  | hands {link : Nat} : cs.disposed = false →
    Turn cs k i (.advance k) (.rechecking link) (.finished (.ok link))
  | closes {link : Nat} :
    Turn cs k i (.advance k) (.closing link) (.finished (.error .alreadyDisposed))

/-- Whose connections there are. -/
def owners (cs : Connections) : List String := cs.links.map (·.owner)

/-- Whether a move of a call in that phase opens a connection. -/
def opensLink : ConnectionMove → CallPhase → Bool
  | .accepted _, .connecting _ _ => true
  | _, _ => false

/-- A maker that a cell names after a move of call `k` was named by it before,
or is that call; the call is no maker of a cell any more that it left. -/
def KeepsMakers (cs cs' : Connections) (k : Nat) (before next : CallPhase) : Prop :=
  ∀ (cell : Nat) (x' : Cell) (j : Nat), cs'.cells[cell]? = some x' → x'.maker = some j →
    (j = k ∧ next.making? = some cell)
      ∨ ∃ x, cs.cells[cell]? = some x ∧ x.maker = some j
        ∧ (before.making? = some cell → next.making? = some cell)

/-- Call `k` goes on, and nobody else does. -/
structure Moved (cs : Connections) (m : ConnectionMove) (cs' : Connections) (k : Nat)
    (c : ConnectionCall) (next : CallPhase) : Prop where
  found : cs.calls[k]? = some c
  turn : cs.Turn k c.caller m c.phase next
  calls : cs'.calls = (cs.setPhase k next).calls
  flag : cs'.disposed = cs.disposed
  owners : cs'.owners = cs.owners ++ if opensLink m c.phase then [c.caller.name] else []
  makers : KeepsMakers cs cs' k c.phase next

/-- A call goes on by its own moves. -/
theorem Turn.call_eq {i : Instance} (turn : cs.Turn k i m before next) : m.call? = some k := by
  cases turn <;> rfl

-- ================================================= cells and connections

/-- A call that stays the maker of its cell, if it is one. -/
theorem keepsMakers_of_cells (cells : cs'.cells = cs.cells)
    (making : ∀ cell, before.making? = some cell → next.making? = some cell) :
    KeepsMakers cs cs' k before next := by
  intro cell x' j hx' named
  rw [cells] at hx'
  exact .inr ⟨x', hx', named, making cell⟩

/-- A call that makes nothing, and becomes the maker of a cell. -/
theorem keepsMakers_of_set {cell : Nat} {x : Cell}
    (cells : cs'.cells = cs.cells.set cell { x with maker := some k })
    (idle : before.making? = none) (making : next.making? = some cell) :
    KeepsMakers cs cs' k before next := by
  intro cell' x' j hx' named
  rw [cells] at hx'
  rcases of_getElem?_set hx' with ⟨rfl, rfl⟩ | ⟨-, old⟩
  · cases named
    exact .inl ⟨rfl, making⟩
  · refine .inr ⟨x', old, named, ?_⟩
    rw [idle]
    exact nofun

/-- A call that leaves the cell it made a connection for. -/
theorem keepsMakers_of_modify {cell : Nat} {f : Cell → Cell} (left : ∀ x, (f x).maker = none)
    (cells : cs'.cells = cs.cells.modify cell f) (making : before.making? = some cell) :
    KeepsMakers cs cs' k before next := by
  intro cell' x' j hx' named
  rw [cells] at hx'
  obtain ⟨x, old, rfl⟩ := of_getElem?_modify hx'
  split at named
  next =>
    rw [left x] at named
    cases named
  next other =>
    refine .inr ⟨x, old, named, ?_⟩
    intro same
    rw [making] at same
    exact absurd (Option.some.inj same) other

/-- A new cell names no maker. -/
theorem keepsMakers_of_append {owner : String}
    (cells : cs'.cells = cs.cells ++ [{ owner := owner }])
    (idle : before.making? = none) : KeepsMakers cs cs' k before next := by
  intro cell x' j hx' named
  rw [cells] at hx'
  rcases of_getElem?_append hx' with old | ⟨-, rfl⟩
  · refine .inr ⟨x', old, named, ?_⟩
    rw [idle]
    exact nofun
  · cases named

theorem owners_close (cs : Connections) (link : Nat) : (cs.close link).owners = cs.owners :=
  map_modify_of_eq Link.owner cs.links link _ fun _ => rfl

theorem owners_install (cs : Connections) (link : Nat) (op : Topology.Operation) :
    (cs.install link op).owners = cs.owners :=
  map_modify_of_eq Link.owner cs.links link _ fun _ => rfl

-- ====================================================== the moves of a call

/-- A call that looks for its cell is in one then. -/
theorem moved_enroll (found : cs.calls[k]? = some c) (phase : c.phase = .enrolling) :
    ∃ next, Moved cs (.advance k) (cs.enroll k c.caller.name) k c next := by
  unfold enroll
  split
  next cell _ =>
    refine ⟨_, found, ?_, rfl, rfl, (List.append_nil _).symm, keepsMakers_of_cells rfl ?_⟩
    · rw [phase]
      exact .enrolls cell
    · rw [phase]
      exact nofun
  next =>
    refine ⟨_, found, ?_, rfl, rfl, (List.append_nil _).symm, keepsMakers_of_append rfl ?_⟩
    · rw [phase]
      exact .enrolls _
    · rw [phase]
      rfl

/-- A call that can go on in its cell takes what is in it, or its turn to make a
connection. -/
theorem moved_enter {cell : Nat} (found : cs.calls[k]? = some c) (phase : c.phase = .waiting cell)
    (step : cs.enter k cell c.caller.reconnects = some cs') :
    ∃ next, Moved cs (.advance k) cs' k c next := by
  obtain ⟨x, hx, step⟩ := Option.bind_eq_some_iff.1 step
  split at step
  next link _ filled =>
    cases step
    refine ⟨_, found, ?_, rfl, rfl, (List.append_nil _).symm, keepsMakers_of_cells rfl ?_⟩
    · rw [phase]
      exact .takes hx filled
    · rw [phase]
      exact nofun
  next => cases step
  next =>
    cases step
    refine ⟨_, found, ?_, rfl, rfl, (List.append_nil _).symm, keepsMakers_of_set rfl ?_ rfl⟩
    · rw [phase]
      exact .begins
    · rw [phase]
      rfl

/-- A call that changes nothing but its phase. -/
theorem moved_alone (found : cs.calls[k]? = some c) (turn : cs.Turn k c.caller m c.phase next)
    (opens : opensLink m c.phase = false)
    (making : ∀ cell, c.phase.making? = some cell → next.making? = some cell) :
    Moved cs m (cs.setPhase k next) k c next := by
  refine ⟨found, turn, rfl, rfl, ?_, keepsMakers_of_cells rfl making⟩
  rw [opens]
  exact (List.append_nil _).symm

/-- A call that goes on by itself makes a turn, one case for each of its phases. -/
theorem moved_advance (step : cs.advance k = some cs') :
    ∃ c next, Moved cs (.advance k) cs' k c next := by
  obtain ⟨c, found, step⟩ := Option.bind_eq_some_iff.1 step
  refine ⟨c, ?_⟩
  cases phase : c.phase with
  | entering =>
      simp only [phase] at step
      cases step
      refine ⟨_, moved_alone found ?_ (by rw [phase]; rfl) (by rw [phase]; exact nofun)⟩
      rw [phase]
      split
      next up => exact .barred up
      next down => exact .enters (by simpa using down)
  | enrolling =>
      simp only [phase] at step
      cases step
      exact moved_enroll found phase
  | waiting cell =>
      simp only [phase] at step
      exact moved_enter found phase step
  | attempting cell left =>
      simp only [phase] at step
      cases step
      split
      next up =>
        refine ⟨_, found, ?_, rfl, rfl, (List.append_nil _).symm,
          keepsMakers_of_modify (fun _ => rfl) rfl (by rw [phase]; rfl)⟩
        rw [phase]
        exact .stops up
      next down =>
        refine ⟨_, moved_alone found ?_ rfl ?_⟩
        · rw [phase]
          exact .tries (by simpa using down)
        · rw [phase]
          exact fun _ same => same
  | pausing cell left =>
      simp only [phase] at step
      cases step
      refine ⟨_, moved_alone found ?_ rfl ?_⟩
      · rw [phase]
        exact .resumes
      · rw [phase]
        exact fun _ same => same
  | installing cell link ops =>
      cases ops with
      | nil =>
          simp only [phase] at step
          cases step
          refine ⟨_, found, ?_, rfl, rfl, (List.append_nil _).symm,
            keepsMakers_of_modify (fun _ => rfl) rfl (by rw [phase]; rfl)⟩
          rw [phase]
          exact .fills
      | cons op rest =>
          simp only [phase] at step
          split at step
          next f _ =>
            cases step
            refine ⟨_, moved_alone found ?_ rfl ?_⟩
            · rw [phase]
              exact .spoils
            · rw [phase]
              exact fun _ same => same
          next => cases step
  | discarding cell link f =>
      simp only [phase] at step
      cases step
      refine ⟨_, found, ?_, rfl, rfl, ?_,
        keepsMakers_of_modify (fun _ => rfl) rfl (by rw [phase]; rfl)⟩
      · rw [phase]
        exact .discards
      · exact (owners_close cs link).trans (List.append_nil _).symm
  | rechecking link =>
      simp only [phase] at step
      cases step
      refine ⟨_, moved_alone found ?_ rfl (by rw [phase]; exact nofun)⟩
      rw [phase]
      split
      next up => exact .late up
      next down => exact .hands (by simpa using down)
  | closing link =>
      simp only [phase] at step
      cases step
      refine ⟨_, found, ?_, rfl, rfl, ?_, keepsMakers_of_cells rfl (by rw [phase]; exact nofun)⟩
      · rw [phase]
        exact .closes
      · exact (owners_close cs link).trans (List.append_nil _).symm
  | connecting cell left =>
      simp only [phase] at step
      cases step
  | opening cell link =>
      simp only [phase] at step
      cases step
  | finished result =>
      simp only [phase] at step
      cases step

/-- So does one whose broker accepts what it asks for. -/
theorem moved_accepted (step : cs.accepted k = some cs') :
    ∃ c next, Moved cs (.accepted k) cs' k c next := by
  obtain ⟨c, found, step⟩ := Option.bind_eq_some_iff.1 step
  refine ⟨c, ?_⟩
  cases phase : c.phase with
  | connecting cell left =>
      simp only [phase] at step
      cases step
      refine ⟨_, found, ?_, rfl, rfl, ?_, keepsMakers_of_cells rfl ?_⟩
      · rw [phase]
        split
        next => exact .connectsBare
        next => exact .connects
      · rw [phase]
        exact List.map_append
      · rw [phase]
        intro cell' same
        split
        next => exact same
        next => exact same
  | opening cell link =>
      simp only [phase] at step
      cases step
      refine ⟨_, moved_alone found ?_ (by rw [phase]; rfl) ?_⟩
      · rw [phase]
        exact .opens
      · rw [phase]
        exact fun _ same => same
  | installing cell link ops =>
      cases ops with
      | nil =>
          simp only [phase] at step
          cases step
      | cons op rest =>
          simp only [phase] at step
          split at step
          next => cases step
          next =>
            cases step
            refine ⟨_, found, ?_, rfl, rfl, ?_, keepsMakers_of_cells rfl ?_⟩
            · rw [phase]
              exact .installs
            · rw [phase]
              exact (owners_install cs link op).trans (List.append_nil _).symm
            · rw [phase]
              exact fun _ same => same
  | _ =>
      simp only [phase] at step
      cases step

/-- And one whose broker refuses it. -/
theorem moved_refused {reason : String} (step : cs.refused k reason = some cs') :
    ∃ c next, Moved cs (.refused k reason) cs' k c next := by
  obtain ⟨c, found, step⟩ := Option.bind_eq_some_iff.1 step
  refine ⟨c, ?_⟩
  cases phase : c.phase with
  | connecting cell left =>
      cases left with
      | zero =>
          simp only [phase] at step
          cases step
          refine ⟨_, found, ?_, rfl, rfl, (List.append_nil _).symm,
            keepsMakers_of_modify (fun _ => rfl) rfl (by rw [phase]; rfl)⟩
          rw [phase]
          exact .gives
      | succ left =>
          simp only [phase] at step
          cases step
          refine ⟨_, moved_alone found ?_ rfl ?_⟩
          · rw [phase]
            exact .pauses
          · rw [phase]
            exact fun _ same => same
  | opening cell link =>
      simp only [phase] at step
      cases step
      refine ⟨_, moved_alone found ?_ rfl ?_⟩
      · rw [phase]
        exact .denied
      · rw [phase]
        exact fun _ same => same
  | installing cell link ops =>
      cases ops with
      | nil =>
          simp only [phase] at step
          cases step
      | cons op rest =>
          simp only [phase] at step
          split at step
          next => cases step
          next =>
            cases step
            refine ⟨_, moved_alone found ?_ rfl ?_⟩
            · rw [phase]
              exact .fails
            · rw [phase]
              exact fun _ same => same
  | _ =>
      simp only [phase] at step
      cases step

-- ============================================================ every move

/-- A disposal leaves calls and makers as they are, and the flag up. -/
structure Beside (cs cs' : Connections) : Prop where
  calls : cs'.calls = cs.calls
  cells : cs'.cells = cs.cells
  owners : cs'.owners = cs.owners
  flag : cs.disposed = true → cs'.disposed = true

/-- A disposal moves no call. -/
theorem beside_proceed {d : Nat} (step : cs.proceed d = some cs') : Beside cs cs' := by
  rcases proceed_cases step with ⟨-, -, rfl⟩ | ⟨-, -, rfl⟩ | ⟨-, rfl⟩
    | ⟨_, _, _, link, -, -, -, rfl⟩ | ⟨_, _, -, -, rfl⟩ | ⟨-, rfl⟩
  · exact ⟨rfl, rfl, rfl, id⟩
  · exact ⟨rfl, rfl, rfl, fun _ => rfl⟩
  · exact ⟨rfl, rfl, rfl, id⟩
  · exact ⟨rfl, rfl, owners_close cs link, id⟩
  · exact ⟨rfl, rfl, rfl, id⟩
  · exact ⟨rfl, rfl, rfl, id⟩

/-- A move is one of a call, a new call, or one beside the calls. -/
theorem step_cases (step : cs.step? m = some cs') :
    (∃ k c next, Moved cs m cs' k c next)
      ∨ (∃ i, m = .call i ∧ cs' = { cs with calls := cs.calls ++ [{ caller := i }] })
      ∨ ((m = .dispose ∨ ∃ d, m = .proceed d) ∧ Beside cs cs') := by
  cases m with
  | call i =>
      cases step
      exact .inr (.inl ⟨i, rfl, rfl⟩)
  | advance k => exact .inl ⟨k, moved_advance step⟩
  | accepted k => exact .inl ⟨k, moved_accepted step⟩
  | refused k reason => exact .inl ⟨k, moved_refused step⟩
  | dispose =>
      cases step
      exact .inr (.inr ⟨.inl rfl, rfl, rfl, rfl, id⟩)
  | proceed d => exact .inr (.inr ⟨.inr ⟨d, rfl⟩, beside_proceed step⟩)

end Connections

end Courier
