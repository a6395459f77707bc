/-
The changes that the moves of a call are made of, each with the conditions
under which it keeps what holds of the connections.

A move changes the phase of one call and at most one thing beside it: a
connection, a cell, or the index. So there are four lemmas: a call goes on
while connections change that no other call has (`Sound.turn`), a cell gets
another maker while no call makes its connection (`Sound.setMaker`), an
instance without a cell gets one (`Sound.addCell`), and a call puts its
connection in its cell (`Sound.fill`), which is the only change that hands
something from one place to another.
-/
import Courier.Proofs.Connections.Sound

namespace Courier.Connections

variable {cs cs' : Connections} {k : Nat} {c : ConnectionCall} {before next : CallPhase}

-- ======================================================= what stays as it was

/-- The calls keep their callers, whatever they come to. -/
theorem caller_setPhase (hc : cs.calls[k]? = some c) {j : Nat} {d : ConnectionCall}
    (hd : cs.calls[j]? = some d) :
    ∃ d', (cs.setPhase k next).calls[j]? = some d' ∧ d'.caller = d.caller := by
  by_cases same : j = k
  · subst same
    rw [hc] at hd
    cases hd
    exact ⟨_, call_setPhase hc, rfl⟩
  · exact ⟨d, call_setPhase_of_ne same hd, rfl⟩

/-- What is on a connection stays on it. -/
theorem Ready.mono {name : String} {link : Nat} (ready : cs.Ready name link)
    (calls : ∀ (j : Nat) (d : ConnectionCall), cs.calls[j]? = some d →
      ∃ d', cs'.calls[j]? = some d' ∧ d'.caller = d.caller)
    (links : ∀ l : Link, cs.links[link]? = some l →
      ∃ l', cs'.links[link]? = some l' ∧ l'.owner = l.owner ∧ l'.installed = l.installed) :
    cs'.Ready name link := by
  obtain ⟨j, d, hd, named, l, hl, owner, installed⟩ := ready
  obtain ⟨d', hd', caller⟩ := calls j d hd
  obtain ⟨l', hl', owner', installed'⟩ := links l hl
  refine ⟨j, d', hd', ?_, l', hl', owner'.trans owner, ?_⟩
  · rw [caller]
    exact named
  · rw [installed', caller]
    exact installed

/-- Who will close a connection still will, if no call that took it has
forgotten it. -/
theorem Doomed.mono {cell : Nat} {x x' : Cell} {link : Nat} (doomed : cs.Doomed cell x link)
    (disposals : cs'.disposals = cs.disposals)
    (index : KeyedList.get? x.owner cs.index = some cell →
      KeyedList.get? x'.owner cs'.index = some cell)
    (calls : ∀ (j : Nat) (d : ConnectionCall), cs.calls[j]? = some d →
      d.phase.taken? = some link →
      ∃ (i : Nat) (e : ConnectionCall), cs'.calls[i]? = some e ∧ e.phase.taken? = some link) :
    cs'.Doomed cell x' link := by
  unfold Doomed
  rw [disposals]
  rcases doomed with ⟨d, draining, found⟩ | ⟨d, rest, closing, member⟩ | ⟨j, d, hd, taken⟩
  · exact .inl ⟨d, draining, index found⟩
  · exact .inr (.inl ⟨d, rest, closing, member⟩)
  · exact .inr (.inr (calls j d hd taken))

/-- A call that asks for a connection or has one makes it for its cell. -/
theorem making_of_live {phase : CallPhase} {cell : Nat} (live : phase.live? = some cell) :
    phase.making? = some cell := by
  cases phase with
  | connecting i left => exact live
  | opening i link => exact live
  | installing i link left => exact live
  | discarding i link failure => exact live
  | _ => cases live

-- ============================================================ a call goes on

/-- A call goes on, and with it the connections change, but none that
another call or a cell has. The call comes into use of its cell only while
the flag is down, and forgets no connection that is open. -/
theorem Sound.turn (s : Sound cs) (hc : cs.calls[k]? = some c) (phase : c.phase = before)
    {links : List Link}
    (others : ∀ (link : Nat) (l : Link), before.private? ≠ some link →
      cs.links[link]? = some l →
      ∃ l', links[link]? = some l' ∧ l'.owner = l.owner ∧ l'.installed = l.installed)
    (shut : ∀ (link : Nat) (l : Link), cs.links[link]? = some l → cs.Shut link →
      Shut { cs with links := links } link)
    (fresh : ∀ link : Nat, cs.links[link]? = none →
      next.private? = some link ∨ Shut { cs with links := links } link)
    (standing : Standing { cs with links := links } k c.caller next)
    (live : ∀ cell, next.live? = some cell → before.live? = some cell ∨ cs.disposed = false)
    (kept : ∀ link, before.private? = some link →
      next.private? = some link ∨ Shut { cs with links := links } link)
    (taken : cs.disposed = true → ∀ link, before.taken? = some link →
      next.taken? = some link ∨ Shut { cs with links := links } link) :
    Sound ({ cs with links := links }.setPhase k next) := by
  subst phase
  have hc₁ : ({ cs with links := links } : Connections).calls[k]? = some c := hc
  refine ⟨?_, ?_, ?_, s.indexed, s.complete, ?_, ?_⟩
  · intro j d hd
    rcases calls_setPhase hc₁ hd with ⟨same, rfl⟩ | ⟨other, hd₀⟩
    · subst same
      exact standing_setPhase standing
    · refine standing_setPhase ((s.standing j d hd₀).mono
        (fun _ x hx => ⟨x, hx, rfl, fun _ => rfl, fun _ hlink => hlink⟩) ?_)
      intro link l own hl
      exact others link l (fun own' => other (s.private_unique hc own' hd₀ own)) hl
  · intro cell x link hx hlink
    refine (s.filled cell x link hx hlink).mono (fun j d hd => caller_setPhase hc₁ hd) ?_
    intro l hl
    exact others link l (fun own => s.private_not_filled hc own hx hlink) hl
  · intro link
    have with_call : next.private? = some link →
        ({ cs with links := links }.setPhase k next).Kept link :=
      fun own => ⟨k, _, call_setPhase hc₁, own⟩
    cases hl : cs.links[link]? with
    | none =>
        rcases fresh link hl with own | closed
        · exact .inr (.inl (with_call own))
        · exact .inl closed
    | some l =>
        rcases s.placed link with closed | ⟨j, d, hd, own⟩ | ⟨cell, x, hx, hlink⟩
        · exact .inl (shut link l hl closed)
        · by_cases same : j = k
          · subst same
            rw [hc] at hd
            cases hd
            rcases kept link own with own' | closed
            · exact .inr (.inl (with_call own'))
            · exact .inl closed
          · exact .inr (.inl ⟨j, d, call_setPhase_of_ne same hd, own⟩)
        · exact .inr (.inr ⟨cell, x, hx, hlink⟩)
  · refine s.single_of s.complete ?_
    intro flag cell x hx
    refine ⟨x, ⟨hx.1, ?_⟩, rfl⟩
    rcases hx.2 with hlink | ⟨j, d, hd, hlive⟩
    · exact .inl hlink
    · rcases calls_setPhase hc₁ hd with ⟨same, rfl⟩ | ⟨other, hd₀⟩
      · rcases live cell hlive with before | down
        · exact .inr ⟨k, c, hc, before⟩
        · rw [show cs.disposed = true from flag] at down
          cases down
      · exact .inr ⟨j, d, hd₀, hlive⟩
  · intro flag cell x link hx hlink
    obtain ⟨-, -, -, -, l, hl, -⟩ := s.filled cell x link hx hlink
    rcases s.covered flag cell x link hx hlink with closed | doomed
    · exact .inl (shut link l hl closed)
    · by_cases mine : c.phase.taken? = some link ∧ next.taken? ≠ some link
      · rcases taken flag link mine.1 with still | closed
        · exact absurd still mine.2
        · exact .inl closed
      · refine .inr (doomed.mono rfl (fun found => found) ?_)
        intro j d hd hold
        by_cases same : j = k
        · subst same
          rw [hc] at hd
          cases hd
          refine ⟨j, _, call_setPhase hc₁, ?_⟩
          exact Decidable.byContradiction fun lost => mine ⟨hold, lost⟩
        · exact ⟨j, d, call_setPhase_of_ne same hd, hold⟩

/-- A call goes on by itself. -/
theorem Sound.goOn (s : Sound cs) (hc : cs.calls[k]? = some c) (phase : c.phase = before)
    (standing : cs.Standing k c.caller next)
    (live : ∀ cell, next.live? = some cell → before.live? = some cell ∨ cs.disposed = false)
    (kept : ∀ link, before.private? = some link → next.private? = some link)
    (taken : cs.disposed = true → ∀ link, before.taken? = some link → next.taken? = some link) :
    Sound (cs.setPhase k next) := by
  have turned : Sound ({ cs with links := cs.links }.setPhase k next) := by
    refine s.turn hc phase (fun _ l _ hl => ⟨l, hl, rfl, rfl⟩) (fun _ _ _ closed => closed)
      ?_ standing live (fun link own => .inl (kept link own))
      (fun flag link had => .inl (taken flag link had))
    intro link none
    refine .inr ?_
    intro l hl
    rw [show cs.links[link]? = some l from hl] at none
    cases none
  exact turned

/-- Closing a connection takes nothing from anybody. -/
theorem others_close (cs : Connections) (link i : Nat) (l : Link) (hl : cs.links[i]? = some l) :
    ∃ l', (cs.close link).links[i]? = some l' ∧ l'.owner = l.owner
      ∧ l'.installed = l.installed :=
  ⟨_, getElem?_modify_of_some _ hl, by split <;> rfl, by split <;> rfl⟩

/-- What is closed stays closed. -/
theorem Shut.close {link : Nat} (closed : cs.Shut link) (other : Nat) :
    (cs.close other).Shut link := by
  intro l hl
  obtain ⟨l₀, hl₀, rfl⟩ := of_getElem?_modify hl
  split
  · rfl
  · exact closed l₀ hl₀

/-- What was just closed is closed. -/
theorem shut_close (cs : Connections) (link : Nat) : (cs.close link).Shut link := by
  intro l hl
  obtain ⟨l₀, -, rfl⟩ := of_getElem?_modify hl
  rw [if_pos rfl]

/-- A call goes on to nothing else and closes the connection it had. -/
theorem Sound.goOnClosing (s : Sound cs) (hc : cs.calls[k]? = some c) (phase : c.phase = before)
    {link : Nat} (own : ∀ i, before.private? = some i → i = link)
    (taken : ∀ i, before.taken? = some i → i = link) (f : Failure) :
    Sound ((cs.close link).setPhase k (.finished (.error f))) := by
  refine s.turn hc phase (fun i l _ hl => others_close cs link i l hl)
    (fun _ _ _ closed => closed.close link) ?_ trivial ?_ ?_ ?_
  · intro i none
    refine .inr ?_
    intro l hl
    obtain ⟨l₀, hl₀, -⟩ := of_getElem?_modify hl
    rw [none] at hl₀
    cases hl₀
  · intro cell none
    cases none
  · intro i had
    rw [own i had]
    exact .inr (shut_close cs link)
  · intro _ i had
    rw [taken i had]
    exact .inr (shut_close cs link)

-- ================================================================= the cells

/-- A cell that no call makes the connection of may get another maker. -/
theorem Sound.setMaker (s : Sound cs) {cell : Nat}
    (free : ∀ (j : Nat) (d : ConnectionCall), cs.calls[j]? = some d →
      d.phase.making? ≠ some cell)
    (maker : Option Nat) :
    Sound { cs with cells := cs.cells.modify cell ({ · with maker := maker }) } := by
  have after : ∀ (i : Nat) (x' : Cell),
      (cs.cells.modify cell ({ · with maker := maker }))[i]? = some x' →
      ∃ x, cs.cells[i]? = some x ∧ x.owner = x'.owner ∧ x.link = x'.link := by
    intro i x' hx'
    obtain ⟨x, hx, rfl⟩ := of_getElem?_modify hx'
    exact ⟨x, hx, by split <;> rfl, by split <;> rfl⟩
  have before : ∀ (i : Nat) (x : Cell), cs.cells[i]? = some x →
      ∃ x', (cs.cells.modify cell ({ · with maker := maker }))[i]? = some x'
        ∧ x'.owner = x.owner ∧ x'.link = x.link := by
    intro i x hx
    exact ⟨_, getElem?_modify_of_some _ hx, by split <;> rfl, by split <;> rfl⟩
  refine ⟨?_, ?_, ?_, ?_, ?_, ?_, ?_⟩
  · intro j d hd
    refine (s.standing j d hd).mono ?_ (fun _ l _ hl => ⟨l, hl, rfl, rfl⟩)
    intro i x hx
    refine ⟨_, getElem?_modify_of_some _ hx, by split <;> rfl, ?_, ?_⟩
    · intro making
      rw [if_neg (fun same : cell = i => free j d hd (same ▸ making))]
    · intro link hlink
      split <;> exact hlink
  · intro i x' link hx' hlink
    obtain ⟨x, hx, owner, same⟩ := after i x' hx'
    rw [← owner]
    exact (s.filled i x link hx (same.trans hlink)).mono (fun _ d hd => ⟨d, hd, rfl⟩)
      (fun l hl => ⟨l, hl, rfl, rfl⟩)
  · intro link
    rcases s.placed link with closed | kept | ⟨i, x, hx, hlink⟩
    · exact .inl closed
    · exact .inr (.inl kept)
    · obtain ⟨x', hx', -, same⟩ := before i x hx
      exact .inr (.inr ⟨i, x', hx', same.trans hlink⟩)
  · intro name i found
    obtain ⟨x, hx, owner⟩ := s.indexed name i found
    obtain ⟨x', hx', owner', -⟩ := before i x hx
    exact ⟨x', hx', owner'.trans owner⟩
  · intro flag i x' hx'
    obtain ⟨x, hx, owner, -⟩ := after i x' hx'
    rw [← owner]
    exact s.complete flag i x hx
  · intro i i' x x' used used' owners
    obtain ⟨y, hy, owner, link⟩ := after i x used.1
    obtain ⟨y', hy', owner', link'⟩ := after i' x' used'.1
    refine s.single i i' y y' ⟨hy, ?_⟩ ⟨hy', ?_⟩ (owner.trans (owners.trans owner'.symm))
    · rw [link]
      exact used.2
    · rw [link']
      exact used'.2
  · intro flag i x' link hx' hlink
    obtain ⟨x, hx, owner, same⟩ := after i x' hx'
    rcases s.covered flag i x link hx (same.trans hlink) with closed | doomed
    · exact .inl closed
    · refine .inr (doomed.mono rfl ?_ (fun j d hd taken => ⟨j, d, hd, taken⟩))
      rw [owner]
      exact id

/-- An instance without a cell gets one. -/
theorem Sound.addCell (s : Sound cs) {name : String}
    (absent : KeyedList.get? name cs.index = none) : Sound (cs.addCell name) := by
  have kept : ∀ (i : Nat) (x : Cell), cs.cells[i]? = some x →
      (cs.addCell name).cells[i]? = some x := fun _ _ hx => getElem?_append_of_some hx
  have old : ∀ (i : Nat) (x : Cell), KeyedList.get? x.owner cs.index = some i →
      KeyedList.get? x.owner (cs.addCell name).index = some i := by
    intro i x found
    show KeyedList.get? x.owner (KeyedList.put name _ cs.index) = _
    rw [KeyedList.get?_put, if_neg]
    · exact found
    · intro same
      rw [same, absent] at found
      cases found
  have complete : (cs.addCell name).disposed = false → ∀ (i : Nat) (x : Cell),
      (cs.addCell name).cells[i]? = some x →
      KeyedList.get? x.owner (cs.addCell name).index = some i := by
    intro flag i x hx
    rcases of_getElem?_append hx with before | ⟨rfl, rfl⟩
    · exact old i x (s.complete flag i x before)
    · show KeyedList.get? name (KeyedList.put name _ cs.index) = _
      rw [KeyedList.get?_put, if_pos rfl]
  refine ⟨?_, ?_, ?_, ?_, complete, s.single_of complete ?_, ?_⟩
  · intro j d hd
    exact (s.standing j d hd).mono
      (fun i x hx => ⟨x, kept i x hx, rfl, fun _ => rfl, fun _ hlink => hlink⟩)
      (fun _ l _ hl => ⟨l, hl, rfl, rfl⟩)
  · intro i x link hx hlink
    rcases of_getElem?_append hx with before | ⟨rfl, rfl⟩
    · exact (s.filled i x link before hlink).mono (fun _ d hd => ⟨d, hd, rfl⟩)
        (fun l hl => ⟨l, hl, rfl, rfl⟩)
    · cases hlink
  · intro link
    rcases s.placed link with closed | own | ⟨i, x, hx, hlink⟩
    · exact .inl closed
    · exact .inr (.inl own)
    · exact .inr (.inr ⟨i, x, kept i x hx, hlink⟩)
  · intro other i found
    have found' : KeyedList.get? other (KeyedList.put name cs.cells.length cs.index) = some i :=
      found
    rw [KeyedList.get?_put] at found'
    split at found'
    next same =>
      cases found'
      exact ⟨_, List.getElem?_concat_length .., same.symm⟩
    next =>
      obtain ⟨x, hx, owner⟩ := s.indexed other i found'
      exact ⟨x, kept i x hx, owner⟩
  · intro flag i x used
    rcases of_getElem?_append used.1 with before | ⟨rfl, rfl⟩
    · exact ⟨x, ⟨before, used.2⟩, rfl⟩
    · rcases used.2 with hlink | ⟨j, d, hd, live⟩
      · exact absurd rfl hlink
      · have made := (s.standing j d hd).makes (making_of_live live)
        have short := (List.getElem?_eq_some_iff.1 made).1
        exact absurd short (Nat.lt_irrefl _)
  · intro flag i x link hx hlink
    rcases of_getElem?_append hx with before | ⟨rfl, rfl⟩
    · rcases s.covered flag i x link before hlink with closed | doomed
      · exact .inl closed
      · exact .inr (doomed.mono rfl (old i x) (fun j d hd taken => ⟨j, d, hd, taken⟩))
    · cases hlink

/-- A call puts its connection in its cell, with all operations on it. -/
theorem Sound.fill (s : Sound cs) (hc : cs.calls[k]? = some c) {cell link : Nat}
    (phase : c.phase = .installing cell link []) : Sound (cs.fill k cell link) := by
  obtain ⟨makes, carries⟩ : cs.Makes k c.caller cell
      ∧ cs.Carries c.caller.name link [] c.caller.initOperations := by
    have standing := s.standing k c hc
    rw [phase] at standing
    exact standing
  have live : c.phase.live? = some cell := by
    rw [phase]
    rfl
  have hc₁ : ({ cs with
      cells := cs.cells.modify cell ({ · with maker := none, link := some link }) }
        : Connections).calls[k]? = some c := hc
  have hcell : (cs.fill k cell link).cells[cell]?
      = some { owner := c.caller.name, maker := none, link := some link } := by
    show (cs.cells.modify cell _)[cell]? = _
    rw [getElem?_modify_of_some _ makes, if_pos rfl]
  have kept : ∀ (i : Nat) (x : Cell), i ≠ cell → cs.cells[i]? = some x →
      (cs.fill k cell link).cells[i]? = some x := by
    intro i x other hx
    show (cs.cells.modify cell _)[i]? = _
    rw [getElem?_modify_of_some _ hx, if_neg (Ne.symm other)]
  have after : ∀ (i : Nat) (x' : Cell), (cs.fill k cell link).cells[i]? = some x' →
      i = cell ∧ x' = { owner := c.caller.name, maker := none, link := some link }
      ∨ i ≠ cell ∧ cs.cells[i]? = some x' := by
    intro i x' hx'
    by_cases same : i = cell
    · rw [same, hcell] at hx'
      exact .inl ⟨same, (Option.some.inj hx').symm⟩
    · obtain ⟨x, hx, rfl⟩ := of_getElem?_modify hx'
      rw [if_neg (Ne.symm same)]
      exact .inr ⟨same, hx⟩
  have before : ∀ (i : Nat) (x : Cell), cs.cells[i]? = some x →
      ∃ x', (cs.fill k cell link).cells[i]? = some x' ∧ x'.owner = x.owner
        ∧ ∀ l, x.link = some l → x'.link = some l := by
    intro i x hx
    by_cases same : i = cell
    · rw [same, show cs.cells[cell]? = some _ from makes] at hx
      cases hx
      rw [same]
      exact ⟨_, hcell, rfl, fun _ none => nomatch none⟩
    · exact ⟨x, kept i x same hx, rfl, fun _ hlink => hlink⟩
  have complete : (cs.fill k cell link).disposed = false → ∀ (i : Nat) (x : Cell),
      (cs.fill k cell link).cells[i]? = some x →
      KeyedList.get? x.owner (cs.fill k cell link).index = some i := by
    intro flag i x hx
    rcases after i x hx with ⟨rfl, rfl⟩ | ⟨-, old⟩
    · have found := s.complete flag i _ makes
      exact found
    · exact s.complete flag i x old
  have taken : (cs.fill k cell link).calls[k]? = some { c with phase := .rechecking link } :=
    call_setPhase hc₁
  refine ⟨?_, ?_, ?_, ?_, complete, s.single_of complete ?_, ?_⟩
  · intro j d hd
    rcases calls_setPhase hc₁ hd with ⟨same, rfl⟩ | ⟨other, hd₀⟩
    · exact ⟨cell, _, hcell, rfl, rfl⟩
    · have stood := s.standing j d hd₀
      refine stood.mono ?_ (fun _ l _ hl => ⟨l, hl, rfl, rfl⟩)
      intro i x hx
      obtain ⟨x', hx', owner, hlink⟩ := before i x hx
      refine ⟨x', hx', owner, ?_, hlink⟩
      intro making
      have different : i ≠ cell := by
        intro same
        rw [same] at making
        have maker := congrArg Cell.maker (Option.some.inj ((stood.makes making).symm.trans makes))
        exact other (Option.some.inj maker)
      rw [kept i x different hx] at hx'
      exact (Option.some.inj hx').symm
  · intro i x l hx hlink
    rcases after i x hx with ⟨rfl, rfl⟩ | ⟨-, old⟩
    · cases hlink
      exact ⟨k, _, taken, rfl, carries⟩
    · exact (s.filled i x l old hlink).mono (fun j d hd => caller_setPhase hc₁ hd)
        (fun l hl => ⟨l, hl, rfl, rfl⟩)
  · intro l
    rcases s.placed l with closed | ⟨j, d, hd, own⟩ | ⟨i, x, hx, hlink⟩
    · exact .inl closed
    · by_cases same : j = k
      · rw [same, hc] at hd
        cases hd
        rw [phase] at own
        cases own
        exact .inr (.inr ⟨cell, _, hcell, rfl⟩)
      · exact .inr (.inl ⟨j, d, call_setPhase_of_ne same hd, own⟩)
    · obtain ⟨x', hx', -, still⟩ := before i x hx
      exact .inr (.inr ⟨i, x', hx', still l hlink⟩)
  · intro name i found
    obtain ⟨x, hx, owner⟩ := s.indexed name i found
    obtain ⟨x', hx', owner', -⟩ := before i x hx
    exact ⟨x', hx', owner'.trans owner⟩
  · intro flag i x used
    rcases after i x used.1 with ⟨rfl, rfl⟩ | ⟨-, old⟩
    · exact ⟨_, ⟨makes, .inr ⟨k, c, hc, live⟩⟩, rfl⟩
    · refine ⟨x, ⟨old, ?_⟩, rfl⟩
      rcases used.2 with hlink | ⟨j, d, hd, hlive⟩
      · exact .inl hlink
      · rcases calls_setPhase hc₁ hd with ⟨-, rfl⟩ | ⟨-, hd₀⟩
        · cases hlive
        · exact .inr ⟨j, d, hd₀, hlive⟩
  · intro flag i x l hx hlink
    rcases after i x hx with ⟨rfl, rfl⟩ | ⟨-, old⟩
    · exact .inr (.inr (.inr ⟨k, _, taken, hlink⟩))
    · rcases s.covered flag i x l old hlink with closed | doomed
      · exact .inl closed
      · refine .inr (doomed.mono rfl id ?_)
        intro j d hd had
        by_cases same : j = k
        · rw [same, hc] at hd
          cases hd
          rw [phase] at had
          cases had
        · exact ⟨j, d, call_setPhase_of_ne same hd, had⟩

end Courier.Connections
