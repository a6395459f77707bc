/-
Every move keeps what holds of the connections, so it holds of all that can
come about.

A move of a call is looked at by the phase it starts from; beside the four
changes it may fail, which hands its cell on (`Sound.leave`), and it may get
a connection (`Sound.connect`). A move of a disposal changes no call. What
it needs beside `Sound` is that only one disposal can have raised the flag:
otherwise a second one could take away the cells that the first is about to
take (`Raised`).
-/
import Courier.Proofs.Connections.Changes

namespace Courier.Connections

variable {cs cs' : Connections} {k : Nat} {c : ConnectionCall} {before next : CallPhase}

-- ===================================================== the moves of a call

/-- A call that has failed hands its cell on. -/
theorem Sound.leave {f : Failure} (s : Sound (cs.setPhase k (.finished (.error f))))
    (hc : cs.calls[k]? = some c) {cell : Nat} (made : cs.Makes k c.caller cell) :
    Sound (cs.leave k cell f) := by
  refine s.setMaker ?_ none
  intro j d hd making
  rcases calls_setPhase hc hd with ⟨-, rfl⟩ | ⟨other, -⟩
  · cases making
  · have makes : cs.Makes j d.caller cell := (s.standing j d hd).makes making
    have maker := congrArg Cell.maker (Option.some.inj (makes.symm.trans made))
    exact other (Option.some.inj maker)

/-- A call gets a connection that nobody had. -/
theorem Sound.connect (s : Sound cs) (hc : cs.calls[k]? = some c) {cell left : Nat}
    (phase : c.phase = .connecting cell left) (live : next.live? = some cell)
    (own : next.private? = some cs.links.length)
    (standing : (cs.addLink c.caller.name).Standing k c.caller next) :
    Sound ((cs.addLink c.caller.name).setPhase k next) := by
  refine s.turn hc phase (fun link l _ hl => ⟨l, getElem?_append_of_some hl, rfl, rfl⟩)
    ?_ ?_ standing ?_ nofun nofun
  · intro link l hl closed l' hl'
    have same := (getElem?_append_of_some hl).symm.trans hl'
    cases same
    exact closed l hl
  · intro link none
    by_cases new : link = cs.links.length
    · rw [new]
      exact .inl own
    · refine .inr ?_
      intro l hl
      rcases of_getElem?_append hl with old | ⟨same, -⟩
      · rw [none] at old
        cases old
      · exact absurd same new
  · intro i hlive
    rw [live] at hlive
    exact .inl hlive

/-- An operation is installed on the connection of a call. -/
theorem Sound.install (s : Sound cs) (hc : cs.calls[k]? = some c) {cell link : Nat}
    {op : Topology.Operation} {rest : List Topology.Operation}
    (phase : c.phase = .installing cell link (op :: rest)) :
    Sound ((cs.install link op).setPhase k (.installing cell link rest)) := by
  obtain ⟨makes, l, hl, owner, installed⟩ : cs.Makes k c.caller cell
      ∧ cs.Carries c.caller.name link (op :: rest) c.caller.initOperations := by
    have standing := s.standing k c hc
    rw [phase] at standing
    exact standing
  have hl' : (cs.install link op).links[link]?
      = some { l with installed := l.installed ++ [op] } := by
    show (cs.links.modify link _)[link]? = _
    rw [getElem?_modify_of_some _ hl, if_pos rfl]
  refine s.turn hc phase ?_ ?_ ?_ ⟨makes, _, hl', owner, ?_⟩ (fun _ h => .inl h)
    (fun _ h => .inl h) nofun
  · intro i l own hl
    refine ⟨l, ?_, rfl, rfl⟩
    rw [getElem?_modify_of_some _ hl, if_neg]
    intro same
    exact own (congrArg some same)
  · intro i l _ closed l' hl'
    obtain ⟨l₀, hl₀, rfl⟩ := of_getElem?_modify hl'
    split <;> exact closed l₀ hl₀
  · intro i none
    refine .inr ?_
    intro l hl
    obtain ⟨l₀, hl₀, -⟩ := of_getElem?_modify hl
    rw [none] at hl₀
    cases hl₀
  · rw [List.append_assoc]
    exact installed

/-- A call takes what is in its cell, or its turn to make it. -/
theorem Sound.enter (s : Sound cs) (hc : cs.calls[k]? = some c) {cell attempts : Nat}
    (phase : c.phase = .waiting cell) (step : cs.enter k cell attempts = some cs') :
    Sound cs' := by
  obtain ⟨x, hx, owner⟩ : ∃ x, cs.cells[cell]? = some x ∧ x.owner = c.caller.name := by
    have standing := s.standing k c hc
    rw [phase] at standing
    exact standing
  obtain ⟨y, hy, step⟩ := Option.bind_eq_some_iff.1 step
  have same := Option.some.inj (hx.symm.trans hy)
  subst same
  split at step
  next link hlink =>
    cases step
    exact s.goOn hc phase ⟨cell, x, hx, owner, hlink⟩ nofun nofun nofun
  next => cases step
  next hlink hmaker =>
    cases step
    have swapped : cs.cells.set cell { x with maker := some k }
        = cs.cells.modify cell ({ · with maker := some k }) := by
      have : Inhabited Cell := ⟨x⟩
      rw [List.modify_eq_set, hx]
      rfl
    have mine : (cs.cells.modify cell ({ · with maker := some k }))[cell]?
        = some { owner := c.caller.name, maker := some k, link := none } := by
      rw [getElem?_modify_of_some _ hx, if_pos rfl, owner, hlink]
    rw [swapped]
    refine (s.setMaker ?_ (some k)).goOn hc phase mine nofun nofun nofun
    intro j d hd making
    have makes : cs.Makes j d.caller cell := (s.standing j d hd).makes making
    have made := congrArg Cell.maker (Option.some.inj (hx.symm.trans makes))
    rw [hmaker] at made
    cases made

/-- A call that goes on by itself keeps what holds. -/
theorem Sound.advance (s : Sound cs) (step : cs.advance k = some cs') : Sound cs' := by
  obtain ⟨c, hc, step⟩ := Option.bind_eq_some_iff.1 step
  have standing := s.standing k c hc
  split at step
  next phase =>
    cases step
    split
    · exact s.goOn hc phase trivial nofun nofun nofun
    · exact s.goOn hc phase trivial nofun nofun nofun
  next phase =>
    cases step
    unfold enroll
    split
    next cell found =>
      exact s.goOn hc phase (s.indexed _ cell found) nofun nofun nofun
    next absent =>
      exact (s.addCell absent).goOn hc phase ⟨_, List.getElem?_concat_length .., rfl⟩
        nofun nofun nofun
  next cell phase => exact s.enter hc phase step
  next cell left phase =>
    cases step
    rw [phase] at standing
    split
    · have failed : Sound (cs.setPhase k (.finished (.error .alreadyDisposed))) :=
        s.goOn hc phase trivial nofun nofun nofun
      exact failed.leave hc standing
    next flag =>
      exact s.goOn hc phase standing (fun _ _ => .inr (by simpa using flag)) nofun nofun
  next cell left phase =>
    cases step
    rw [phase] at standing
    exact s.goOn hc phase standing nofun nofun nofun
  next cell link phase =>
    cases step
    exact s.fill hc phase
  next cell link op rest phase =>
    split at step
    · cases step
      rw [phase] at standing
      exact s.goOn hc phase ⟨standing.1, _, standing.2⟩ (fun _ h => .inl h) (fun _ h => h) nofun
    · cases step
  next cell link f phase =>
    cases step
    rw [phase] at standing
    refine (s.goOnClosing hc phase ?_ nofun f).leave hc standing.1
    intro i own
    exact (Option.some.inj own).symm
  next link phase =>
    cases step
    rw [phase] at standing
    split
    · exact s.goOn hc phase standing nofun nofun (fun _ _ h => h)
    next flag =>
      refine s.goOn hc phase standing nofun nofun ?_
      intro up
      exact absurd up flag
  next link phase =>
    cases step
    refine s.goOnClosing hc phase nofun ?_ .alreadyDisposed
    intro i taken
    exact (Option.some.inj taken).symm
  next => cases step
  next => cases step
  next => cases step

/-- A call that the broker accepts something from keeps what holds. -/
theorem Sound.accepted (s : Sound cs) (step : cs.accepted k = some cs') : Sound cs' := by
  obtain ⟨c, hc, step⟩ := Option.bind_eq_some_iff.1 step
  have standing := s.standing k c hc
  split at step
  next cell left phase =>
    cases step
    rw [phase] at standing
    have carries : (cs.addLink c.caller.name).Carries c.caller.name cs.links.length
        c.caller.initOperations c.caller.initOperations :=
      ⟨_, List.getElem?_concat_length .., rfl, rfl⟩
    show Sound ((cs.addLink c.caller.name).setPhase k (if c.caller.initOperations.isEmpty
      then .installing cell cs.links.length [] else .opening cell cs.links.length))
    split
    next none =>
      rw [List.isEmpty_iff] at none
      refine s.connect hc phase rfl rfl ⟨standing, ?_⟩
      rw [none] at carries ⊢
      exact carries
    next => exact s.connect hc phase rfl rfl ⟨standing, carries⟩
  next cell link phase =>
    cases step
    rw [phase] at standing
    exact s.goOn hc phase standing (fun _ h => .inl h) (fun _ h => h) nofun
  next cell link op rest phase =>
    split at step
    · cases step
    · cases step
      exact s.install hc phase
  next => cases step

/-- A call that the broker refuses something keeps what holds. -/
theorem Sound.refused (s : Sound cs) {reason : String} (step : cs.refused k reason = some cs') :
    Sound cs' := by
  obtain ⟨c, hc, step⟩ := Option.bind_eq_some_iff.1 step
  have standing := s.standing k c hc
  split at step
  next cell phase =>
    cases step
    rw [phase] at standing
    have failed : Sound (cs.setPhase k (.finished (.error (.brokerUnreachable reason)))) :=
      s.goOn hc phase trivial nofun nofun nofun
    exact failed.leave hc standing
  next cell left phase =>
    cases step
    rw [phase] at standing
    exact s.goOn hc phase standing nofun nofun nofun
  next cell link phase =>
    cases step
    rw [phase] at standing
    exact s.goOn hc phase ⟨standing.1, _, standing.2⟩ (fun _ h => .inl h) (fun _ h => h) nofun
  next cell link op rest phase =>
    split at step
    · cases step
    · cases step
      rw [phase] at standing
      exact s.goOn hc phase ⟨standing.1, _, standing.2⟩ (fun _ h => .inl h) (fun _ h => h) nofun
  next => cases step

/-- A new call keeps what holds: it has nothing yet. -/
theorem Sound.call (s : Sound cs) (i : Instance) :
    Sound { cs with calls := cs.calls ++ [{ caller := i }] } := by
  have calls : ∀ (j : Nat) (d : ConnectionCall), cs.calls[j]? = some d →
      ∃ d', (cs.calls ++ [{ caller := i }])[j]? = some d' ∧ d'.caller = d.caller :=
    fun _ d hd => ⟨d, getElem?_append_of_some hd, rfl⟩
  refine ⟨?_, ?_, ?_, s.indexed, s.complete, s.single_of s.complete ?_, ?_⟩
  · intro j d hd
    rcases of_getElem?_append hd with old | ⟨-, rfl⟩
    · exact (s.standing j d old).mono
        (fun _ x hx => ⟨x, hx, rfl, fun _ => rfl, fun _ hlink => hlink⟩)
        (fun _ l _ hl => ⟨l, hl, rfl, rfl⟩)
    · trivial
  · intro cell x link hx hlink
    exact (s.filled cell x link hx hlink).mono calls (fun l hl => ⟨l, hl, rfl, rfl⟩)
  · intro link
    rcases s.placed link with closed | ⟨j, d, hd, own⟩ | filled
    · exact .inl closed
    · exact .inr (.inl ⟨j, d, getElem?_append_of_some hd, own⟩)
    · exact .inr (.inr filled)
  · intro flag cell x used
    refine ⟨x, ⟨used.1, ?_⟩, rfl⟩
    rcases used.2 with hlink | ⟨j, d, hd, live⟩
    · exact .inl hlink
    · rcases of_getElem?_append hd with old | ⟨-, rfl⟩
      · exact .inr ⟨j, d, old, live⟩
      · cases live
  · intro flag cell x link hx hlink
    rcases s.covered flag cell x link hx hlink with closed | doomed
    · exact .inl closed
    · exact .inr (doomed.mono rfl id
        (fun j d hd taken => ⟨j, d, getElem?_append_of_some hd, taken⟩))

-- ================================================ the moves of a disposal

/-- What a disposal can do next. -/
theorem proceed_cases {d : Nat} (step : cs.proceed d = some cs') :
    (cs.disposals[d]? = some .raising ∧ cs.disposed = true
      ∧ cs' = cs.setDisposal d (.finished (.error .alreadyDisposed)))
    ∨ (cs.disposals[d]? = some .raising ∧ cs.disposed = false
      ∧ cs' = { cs with disposed := true }.setDisposal d .draining)
    ∨ (cs.disposals[d]? = some .draining
      ∧ cs' = { cs with index := [] }.setDisposal d (.closing (cs.index.map Prod.snd)))
    ∨ (∃ (cell : Nat) (rest : List Nat) (x : Cell) (link : Nat),
      cs.disposals[d]? = some (.closing (cell :: rest))
      ∧ cs.cells[cell]? = some x ∧ x.link = some link
      ∧ cs' = (cs.close link).setDisposal d (.closing rest))
    ∨ (∃ (cell : Nat) (rest : List Nat), cs.disposals[d]? = some (.closing (cell :: rest))
      ∧ (∀ x : Cell, cs.cells[cell]? = some x → x.link = none)
      ∧ cs' = cs.setDisposal d (.closing rest))
    ∨ (cs.disposals[d]? = some (.closing []) ∧ cs' = cs.setDisposal d (.finished (.ok ()))) := by
  obtain ⟨phase, hd, step⟩ := Option.bind_eq_some_iff.1 step
  cases phase with
  | raising =>
      cases flag : cs.disposed with
      | true =>
          simp only [flag, if_true] at step
          cases step
          exact .inl ⟨hd, rfl, rfl⟩
      | false =>
          simp only [flag] at step
          cases step
          exact .inr (.inl ⟨hd, rfl, rfl⟩)
  | draining =>
      cases step
      exact .inr (.inr (.inl ⟨hd, rfl⟩))
  | closing cells =>
      cases cells with
      | nil =>
          cases step
          exact .inr (.inr (.inr (.inr (.inr ⟨hd, rfl⟩))))
      | cons cell rest =>
          simp only at step
          split at step
          next link filled =>
            cases step
            obtain ⟨x, hx, hlink⟩ := Option.bind_eq_some_iff.1 filled
            exact .inr (.inr (.inr (.inl ⟨cell, rest, x, link, hd, hx, hlink, rfl⟩)))
          next empty =>
            cases step
            refine .inr (.inr (.inr (.inr (.inl ⟨cell, rest, hd, ?_, rfl⟩))))
            intro x hx
            rw [hx] at empty
            exact empty
  | finished result => cases step

/-- Of the disposals exactly one has raised the flag, if it is up, and the
others can only be told so. -/
structure Raised (cs : Connections) : Prop where
  unique : ∀ (d d' : Nat) (phase phase' : DisposalPhase), cs.disposals[d]? = some phase →
    cs.disposals[d']? = some phase' → phase.raised = true → phase'.raised = true → d = d'
  flag : cs.disposed = true ↔
    ∃ (d : Nat) (phase : DisposalPhase), cs.disposals[d]? = some phase ∧ phase.raised = true
  refused : ∀ (d : Nat) (f : Failure), cs.disposals[d]? = some (.finished (.error f)) →
    f = .alreadyDisposed

/-- A disposal that goes on without touching the flag keeps its standing. -/
theorem Raised.setDisposal (r : Raised cs) {d : Nat} {phase phase' : DisposalPhase}
    (hd : cs.disposals[d]? = some phase)
    (disposals : cs'.disposals = cs.disposals.set d phase') (flag : cs'.disposed = cs.disposed)
    (same : phase'.raised = phase.raised)
    (told : ∀ f, phase' = .finished (.error f) → f = .alreadyDisposed) : Raised cs' := by
  have earlier : ∀ (e : Nat) (now : DisposalPhase), cs'.disposals[e]? = some now →
      now.raised = true → ∃ before, cs.disposals[e]? = some before ∧ before.raised = true := by
    intro e now he raised
    rw [disposals] at he
    rcases of_getElem?_set he with ⟨rfl, rfl⟩ | ⟨-, before⟩
    · exact ⟨phase, hd, same ▸ raised⟩
    · exact ⟨now, before, raised⟩
  refine ⟨?_, ?_, ?_⟩
  · intro e e' now now' he he' raised raised'
    obtain ⟨before, hb, up⟩ := earlier e now he raised
    obtain ⟨before', hb', up'⟩ := earlier e' now' he' raised'
    exact r.unique e e' before before' hb hb' up up'
  · rw [flag, r.flag]
    constructor
    · intro raised
      obtain ⟨e, before, he, up⟩ := raised
      by_cases here : e = d
      · rw [here, hd] at he
        cases he
        refine ⟨d, phase', ?_, same.trans up⟩
        rw [disposals]
        exact getElem?_set_self_of_some hd
      · refine ⟨e, before, ?_, up⟩
        rw [disposals]
        exact getElem?_set_of_ne here he
    · intro raised
      obtain ⟨e, now, he, up⟩ := raised
      obtain ⟨before, hb, upb⟩ := earlier e now he up
      exact ⟨e, before, hb, upb⟩
  · intro e f he
    rw [disposals] at he
    rcases of_getElem?_set he with ⟨-, now⟩ | ⟨-, before⟩
    · exact told f now.symm
    · exact r.refused e f before

/-- A disposal that goes on keeps what holds of the disposals. -/
theorem Raised.proceed (r : Raised cs) {d : Nat} (step : cs.proceed d = some cs') :
    Raised cs' := by
  rcases proceed_cases step with ⟨hd, up, rfl⟩ | ⟨hd, down, rfl⟩ | ⟨hd, rfl⟩
    | ⟨cell, rest, x, link, hd, -, -, rfl⟩ | ⟨cell, rest, hd, -, rfl⟩ | ⟨hd, rfl⟩
  · refine r.setDisposal hd rfl rfl rfl ?_
    intro f told
    cases told
    rfl
  · have alone : ∀ (e : Nat) (now : DisposalPhase),
        (cs.disposals.set d .draining)[e]? = some now → now.raised = true → e = d := by
      intro e now he raised
      rcases of_getElem?_set he with ⟨same, -⟩ | ⟨-, before⟩
      · exact same
      · have up := r.flag.2 ⟨e, now, before, raised⟩
        rw [down] at up
        cases up
    refine ⟨?_, ?_, ?_⟩
    · intro e e' now now' he he' raised raised'
      exact (alone e now he raised).trans (alone e' now' he' raised').symm
    · exact ⟨fun _ => ⟨d, .draining, getElem?_set_self_of_some hd, rfl⟩, fun _ => rfl⟩
    · intro e f he
      rcases of_getElem?_set he with ⟨-, now⟩ | ⟨-, before⟩
      · cases now
      · exact r.refused e f before
  · exact r.setDisposal hd rfl rfl rfl nofun
  · exact r.setDisposal hd rfl rfl rfl nofun
  · exact r.setDisposal hd rfl rfl rfl nofun
  · exact r.setDisposal hd rfl rfl rfl nofun

/-- A change that concerns no call and no cell keeps what holds, if the
index still does its part and nobody forgets what is to be closed. -/
theorem Sound.rearrange (s : Sound cs) (cells : cs'.cells = cs.cells)
    (calls : cs'.calls = cs.calls)
    (links : ∀ (link : Nat) (l : Link), cs.links[link]? = some l →
      ∃ l', cs'.links[link]? = some l' ∧ l'.owner = l.owner ∧ l'.installed = l.installed)
    (shut : ∀ link, cs.Shut link → cs'.Shut link)
    (indexed : ∀ (name : String) (cell : Nat), KeyedList.get? name cs'.index = some cell →
      KeyedList.get? name cs.index = some cell)
    (complete : cs'.disposed = false → cs'.index = cs.index ∧ cs.disposed = false)
    (covered : cs'.disposed = true → ∀ (cell : Nat) (x : Cell) (link : Nat),
      cs.cells[cell]? = some x → x.link = some link → cs'.Shut link ∨ cs'.Doomed cell x link) :
    Sound cs' := by
  refine ⟨?_, ?_, ?_, ?_, ?_, ?_, ?_⟩
  · intro j d hd
    rw [calls] at hd
    refine (s.standing j d hd).mono ?_ (fun link l _ hl => links link l hl)
    intro i x hx
    rw [cells]
    exact ⟨x, hx, rfl, fun _ => rfl, fun _ hlink => hlink⟩
  · intro cell x link hx hlink
    rw [cells] at hx
    refine (s.filled cell x link hx hlink).mono ?_ (links link)
    intro j d hd
    rw [calls]
    exact ⟨d, hd, rfl⟩
  · intro link
    unfold Kept
    rw [calls, cells]
    rcases s.placed link with closed | elsewhere
    · exact .inl (shut link closed)
    · exact .inr elsewhere
  · intro name cell found
    rw [cells]
    exact s.indexed name cell (indexed name cell found)
  · intro down cell x hx
    obtain ⟨same, before⟩ := complete down
    rw [cells] at hx
    rw [same]
    exact s.complete before cell x hx
  · unfold Used
    rw [cells, calls]
    exact s.single
  · rw [cells]
    exact covered

/-- A disposal that changes has nothing to do with what the others and the
calls are about to close. -/
theorem Doomed.setDisposal {cell : Nat} {x : Cell} {link : Nat} (doomed : cs.Doomed cell x link)
    {d : Nat} {phase phase' : DisposalPhase} (hd : cs.disposals[d]? = some phase)
    (other : ¬(phase = .draining ∨ ∃ rest, phase = .closing rest ∧ cell ∈ rest)) :
    (cs.setDisposal d phase').Doomed cell x link := by
  rcases doomed with ⟨e, he, found⟩ | ⟨e, rest, he, member⟩ | ⟨j, c, hc, taken⟩
  · refine .inl ⟨e, getElem?_set_of_ne ?_ he, found⟩
    intro here
    rw [here, hd] at he
    exact other (.inl (Option.some.inj he))
  · refine .inr (.inl ⟨e, rest, getElem?_set_of_ne ?_ he, member⟩)
    intro here
    rw [here, hd] at he
    exact other (.inr ⟨rest, Option.some.inj he, member⟩)
  · exact .inr (.inr ⟨j, c, hc, taken⟩)

/-- A disposal goes on alone, if what it was about to close is closed by now
or still to be closed. -/
theorem Sound.setDisposal (s : Sound cs) {d : Nat} {phase phase' : DisposalPhase}
    (hd : cs.disposals[d]? = some phase)
    (own : ∀ (cell : Nat) (x : Cell) (link : Nat), cs.cells[cell]? = some x →
      x.link = some link → (phase = .draining ∨ ∃ rest, phase = .closing rest ∧ cell ∈ rest) →
      cs.Shut link ∨ (cs.setDisposal d phase').Doomed cell x link) :
    Sound (cs.setDisposal d phase') := by
  refine s.rearrange rfl rfl (fun _ l hl => ⟨l, hl, rfl, rfl⟩) (fun _ closed => closed)
    (fun _ _ found => found) (fun flag => ⟨rfl, flag⟩) ?_
  intro flag cell x link hx hlink
  rcases s.covered flag cell x link hx hlink with closed | doomed
  · exact .inl closed
  · by_cases mine : phase = .draining ∨ ∃ rest, phase = .closing rest ∧ cell ∈ rest
    · exact own cell x link hx hlink mine
    · exact .inr (doomed.setDisposal hd mine)

/-- Closing a connection keeps what holds. -/
theorem Sound.close (s : Sound cs) (link : Nat) : Sound (cs.close link) := by
  refine s.rearrange rfl rfl (fun i l hl => others_close cs link i l hl)
    (fun _ closed => closed.close link) (fun _ _ found => found) (fun flag => ⟨rfl, flag⟩) ?_
  intro flag cell x other hx hlink
  rcases s.covered flag cell x other hx hlink with closed | doomed
  · exact .inl (closed.close link)
  · exact .inr doomed

/-- A disposal that goes on keeps what holds of the connections. -/
theorem Sound.proceed (s : Sound cs) (r : Raised cs) {d : Nat}
    (step : cs.proceed d = some cs') : Sound cs' := by
  rcases proceed_cases step with ⟨hd, up, rfl⟩ | ⟨hd, down, rfl⟩ | ⟨hd, rfl⟩
    | ⟨cell, rest, x, link, hd, hx, hlink, rfl⟩ | ⟨cell, rest, hd, empty, rfl⟩ | ⟨hd, rfl⟩
  · exact s.setDisposal hd (fun _ _ _ _ _ mine => by simp at mine)
  · refine s.rearrange rfl rfl (fun _ l hl => ⟨l, hl, rfl, rfl⟩) (fun _ closed => closed)
      (fun _ _ found => found) nofun ?_
    intro _ i y l hy _
    exact .inr (.inl ⟨d, getElem?_set_self_of_some hd, s.complete down i y hy⟩)
  · have up : cs.disposed = true := r.flag.2 ⟨d, _, hd, rfl⟩
    refine s.rearrange rfl rfl (fun _ l hl => ⟨l, hl, rfl, rfl⟩) (fun _ closed => closed)
      nofun ?_ ?_
    · intro down
      rw [show cs.disposed = false from down] at up
      cases up
    · intro _ i y l hy hl
      rcases s.covered up i y l hy hl with closed | ⟨e, -, found⟩ | ⟨e, rest, he, member⟩ | taken
      · exact .inl closed
      · exact .inr (.inr (.inl ⟨d, _, getElem?_set_self_of_some hd, KeyedList.mem_of_get? found⟩))
      · have same := r.unique e d _ _ he hd rfl rfl
        rw [same, hd] at he
        cases he
      · exact .inr (.inr (.inr taken))
  · refine (s.close link).setDisposal hd ?_
    rintro i y l hy hl (drains | ⟨cells, closes, member⟩)
    · cases drains
    · cases closes
      rcases List.mem_cons.1 member with same | later
      · rw [same, show (cs.close link).cells[cell]? = some x from hx] at hy
        cases hy
        rw [hlink] at hl
        cases hl
        exact .inl (shut_close cs link)
      · exact .inr (.inr (.inl ⟨d, rest, getElem?_set_self_of_some hd, later⟩))
  · refine s.setDisposal hd ?_
    rintro i y l hy hl (drains | ⟨cells, closes, member⟩)
    · cases drains
    · cases closes
      rcases List.mem_cons.1 member with same | later
      · rw [same] at hy
        rw [empty y hy] at hl
        cases hl
      · exact .inr (.inr (.inl ⟨d, rest, getElem?_set_self_of_some hd, later⟩))
  · refine s.setDisposal hd ?_
    rintro i y l hy hl (drains | ⟨cells, closes, member⟩)
    · cases drains
    · cases closes
      cases member

end Courier.Connections
