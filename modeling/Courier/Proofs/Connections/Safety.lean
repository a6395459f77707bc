/-
What the connections keep to, in whatever order calls and disposals move
and whatever the broker answers: an instance never has two connections
open, everyone who gets one gets the same, with all init operations on it,
and once a disposal has returned and no call is under way, every connection
ever opened is closed.

# What a call leaves alone

`Sound` and `Raised` (Sound.lean, Moves.lean) hold of everything that can
come about. Beside them two facts about single moves are needed: a call
never touches the flag or a disposal, and with the flag up none begins an
attempt (`Aside`). A disposal that has raised the flag goes on to its end
by itself, one cell after another (`closing_finishes`).
-/
import Courier.Proofs.Connections.Moves

namespace Courier.Connections

variable {cs cs' : Connections} {k : Nat} {c : ConnectionCall} {next : CallPhase}

-- ================================================== what a call leaves alone

/-- A move leaves the flag and the disposals alone, and begins no attempt
if the flag is up. -/
structure Aside (cs cs' : Connections) : Prop where
  disposals : cs'.disposals = cs.disposals
  flag : cs'.disposed = cs.disposed
  attempts : cs.disposed = true → ∀ j cell left,
    cs'.phase? j = some (.connecting cell left) → cs.phase? j = some (.connecting cell left)

theorem aside_setPhase {q : Connections} (disposals : q.disposals = cs.disposals)
    (flag : q.disposed = cs.disposed) (calls : q.calls = cs.calls)
    (other : cs.disposed = true → ∀ cell left, next ≠ .connecting cell left) :
    Aside cs (q.setPhase k next) := by
  refine ⟨disposals, flag, ?_⟩
  intro up j cell left connecting
  obtain ⟨d, hd, phase⟩ := Option.map_eq_some_iff.1 connecting
  obtain ⟨d₀, hd₀, rfl⟩ := of_getElem?_modify hd
  unfold phase?
  rw [← calls, hd₀]
  by_cases here : k = j
  · rw [if_pos here] at phase
    exact absurd phase (other up cell left)
  · rw [if_neg here] at phase
    exact congrArg some phase

theorem aside_enter {cell attempts : Nat} (step : cs.enter k cell attempts = some cs') :
    Aside cs cs' := by
  obtain ⟨x, hx, step⟩ := Option.bind_eq_some_iff.1 step
  split at step
  · cases step
    exact aside_setPhase rfl rfl rfl nofun
  · cases step
  · cases step
    exact aside_setPhase rfl rfl rfl nofun

theorem aside_advance (step : cs.advance k = some cs') : Aside cs cs' := by
  obtain ⟨c, hc, step⟩ := Option.bind_eq_some_iff.1 step
  split at step
  · cases step
    split
    · exact aside_setPhase rfl rfl rfl nofun
    · exact aside_setPhase rfl rfl rfl nofun
  · cases step
    unfold enroll
    split
    · exact aside_setPhase rfl rfl rfl nofun
    · exact aside_setPhase rfl rfl rfl nofun
  · exact aside_enter step
  · cases step
    split
    · exact aside_setPhase rfl rfl rfl nofun
    next down =>
      exact aside_setPhase rfl rfl rfl (fun up => absurd up down)
  · cases step
    exact aside_setPhase rfl rfl rfl nofun
  · cases step
    exact aside_setPhase rfl rfl rfl nofun
  · split at step
    · cases step
      exact aside_setPhase rfl rfl rfl nofun
    · cases step
  · cases step
    exact aside_setPhase rfl rfl rfl nofun
  · cases step
    split
    · exact aside_setPhase rfl rfl rfl nofun
    · exact aside_setPhase rfl rfl rfl nofun
  · cases step
    exact aside_setPhase rfl rfl rfl nofun
  · cases step
  · cases step
  · cases step

theorem aside_accepted (step : cs.accepted k = some cs') : Aside cs cs' := by
  obtain ⟨c, hc, step⟩ := Option.bind_eq_some_iff.1 step
  split at step
  · cases step
    refine aside_setPhase rfl rfl rfl ?_
    intro _ cell left
    split
    · exact nofun
    · exact nofun
  · cases step
    exact aside_setPhase rfl rfl rfl nofun
  · split at step
    · cases step
    · cases step
      exact aside_setPhase rfl rfl rfl nofun
  · cases step

theorem aside_refused {reason : String} (step : cs.refused k reason = some cs') :
    Aside cs cs' := by
  obtain ⟨c, hc, step⟩ := Option.bind_eq_some_iff.1 step
  split at step
  · cases step
    exact aside_setPhase rfl rfl rfl nofun
  · cases step
    exact aside_setPhase rfl rfl rfl nofun
  · cases step
    exact aside_setPhase rfl rfl rfl nofun
  · split at step
    · cases step
    · cases step
      exact aside_setPhase rfl rfl rfl nofun
  · cases step

-- ============================================================ every move

theorem Raised.aside (r : Raised cs) (aside : Aside cs cs') : Raised cs' := by
  refine ⟨?_, ?_, ?_⟩
  · rw [aside.disposals]
    exact r.unique
  · rw [aside.disposals, aside.flag]
    exact r.flag
  · rw [aside.disposals]
    exact r.refused

/-- A new disposal has not raised the flag. -/
theorem Raised.dispose (r : Raised cs) :
    Raised { cs with disposals := cs.disposals ++ [.raising] } := by
  have old : ∀ (d : Nat) (phase : DisposalPhase), (cs.disposals ++ [.raising])[d]? = some phase →
      phase.raised = true → cs.disposals[d]? = some phase := by
    intro d phase hd raised
    rcases of_getElem?_append hd with old | ⟨-, rfl⟩
    · exact old
    · cases raised
  refine ⟨?_, ?_, ?_⟩
  · intro d d' phase phase' hd hd' raised raised'
    exact r.unique d d' phase phase' (old d phase hd raised) (old d' phase' hd' raised') raised
      raised'
  · constructor
    · intro up
      obtain ⟨d, phase, hd, raised⟩ := r.flag.1 up
      exact ⟨d, phase, getElem?_append_of_some hd, raised⟩
    · intro one
      obtain ⟨d, phase, hd, raised⟩ := one
      exact r.flag.2 ⟨d, phase, old d phase hd raised, raised⟩
  · intro d f hd
    rcases of_getElem?_append hd with old | ⟨-, told⟩
    · exact r.refused d f old
    · cases told

/-- A new disposal takes nothing from anybody. -/
theorem Sound.dispose (s : Sound cs) :
    Sound { cs with disposals := cs.disposals ++ [.raising] } := by
  refine s.rearrange rfl rfl (fun _ l hl => ⟨l, hl, rfl, rfl⟩) (fun _ closed => closed)
    (fun _ _ found => found) (fun flag => ⟨rfl, flag⟩) ?_
  intro flag cell x link hx hlink
  rcases s.covered flag cell x link hx hlink with closed | ⟨d, hd, found⟩ | ⟨d, rest, hd, member⟩
    | taken
  · exact .inl closed
  · exact .inr (.inl ⟨d, getElem?_append_of_some hd, found⟩)
  · exact .inr (.inr (.inl ⟨d, rest, getElem?_append_of_some hd, member⟩))
  · exact .inr (.inr (.inr taken))

/-- Every move keeps what holds of the connections and of the disposals. -/
theorem sound_step (s : Sound cs) (r : Raised cs) {m : ConnectionMove}
    (step : cs.step? m = some cs') : Sound cs' ∧ Raised cs' := by
  cases m with
  | call i =>
      cases step
      exact ⟨s.call i, r.unique, r.flag, r.refused⟩
  | advance k => exact ⟨s.advance step, r.aside (aside_advance step)⟩
  | accepted k => exact ⟨s.accepted step, r.aside (aside_accepted step)⟩
  | refused k reason => exact ⟨s.refused step, r.aside (aside_refused step)⟩
  | dispose =>
      cases step
      exact ⟨s.dispose, r.dispose⟩
  | proceed d => exact ⟨s.proceed r step, r.proceed step⟩

theorem sound_of_reachable (h : Reachable cs) : Sound cs ∧ Raised cs := by
  induction h with
  | start =>
      have nothing : ∀ {α : Type} {i : Nat} {x : α}, ([] : List α)[i]? = some x → False := by
        intro α i x hx
        cases hx
      refine ⟨⟨?_, ?_, ?_, ?_, ?_, ?_, ?_⟩, ⟨?_, ?_, ?_⟩⟩
      · exact fun k c hc => (nothing hc).elim
      · exact fun cell x link hx => (nothing hx).elim
      · exact fun link => .inl fun l hl => (nothing hl).elim
      · intro name cell found
        cases found
      · exact fun _ cell x hx => (nothing hx).elim
      · exact fun cell cell' x x' used => (nothing used.1).elim
      · exact fun _ cell x link hx => (nothing hx).elim
      · exact fun d d' phase phase' hd => (nothing hd).elim
      · constructor
        · intro up
          cases up
        · rintro ⟨d, phase, hd, -⟩
          exact (nothing hd).elim
      · exact fun d f hd => (nothing hd).elim
  | step m _ step holds => exact sound_step holds.1 holds.2 step

-- ============================================================ the disposals

/-- A disposal is the one that raised the flag. -/
def HasRaised (cs : Connections) (d : Nat) : Prop :=
  ∃ phase, cs.disposals[d]? = some phase ∧ phase.raised = true

/-- A disposal that has raised the flag is the one that did from then on. -/
theorem HasRaised.step {d : Nat} (has : cs.HasRaised d) {m : ConnectionMove}
    (step : cs.step? m = some cs') : cs'.HasRaised d := by
  obtain ⟨phase, hd, raised⟩ := has
  have untouched : Aside cs cs' → cs'.HasRaised d := by
    intro aside
    refine ⟨phase, ?_, raised⟩
    rw [aside.disposals]
    exact hd
  have changed : ∀ {e : Nat} {now now' : DisposalPhase}, cs.disposals[e]? = some now →
      now'.raised = now.raised →
      ∃ phase', (cs.disposals.set e now')[d]? = some phase' ∧ phase'.raised = true := by
    intro e now now' he same
    by_cases here : d = e
    · rw [here] at hd ⊢
      rw [hd] at he
      cases he
      exact ⟨now', getElem?_set_self_of_some hd, same.trans raised⟩
    · exact ⟨phase, getElem?_set_of_ne here hd, raised⟩
  cases m with
  | call i =>
      cases step
      exact ⟨phase, hd, raised⟩
  | advance k => exact untouched (aside_advance step)
  | accepted k => exact untouched (aside_accepted step)
  | refused k reason => exact untouched (aside_refused step)
  | dispose =>
      cases step
      exact ⟨phase, getElem?_append_of_some hd, raised⟩
  | proceed e =>
      rcases proceed_cases step with ⟨he, -, rfl⟩ | ⟨he, -, rfl⟩ | ⟨he, rfl⟩
        | ⟨cell, rest, x, link, he, -, -, rfl⟩ | ⟨cell, rest, he, -, rfl⟩ | ⟨he, rfl⟩
      · exact changed he rfl
      · refine ⟨phase, ?_, raised⟩
        refine getElem?_set_of_ne ?_ hd
        intro here
        rw [here, he] at hd
        cases hd
        cases raised
      · exact changed he rfl
      · exact changed he rfl
      · exact changed he rfl
      · exact changed he rfl

/-- Nobody begins an attempt with the flag up. -/
theorem attempts_step {m : ConnectionMove} (step : cs.step? m = some cs')
    (up : cs.disposed = true) {cell left : Nat}
    (connecting : cs'.phase? k = some (.connecting cell left)) :
    cs.phase? k = some (.connecting cell left) := by
  cases m with
  | call i =>
      cases step
      obtain ⟨d, hd, phase⟩ := Option.map_eq_some_iff.1 connecting
      rcases of_getElem?_append hd with old | ⟨-, rfl⟩
      · unfold phase?
        rw [old]
        exact congrArg some phase
      · cases phase
  | advance j => exact (aside_advance step).attempts up k cell left connecting
  | accepted j => exact (aside_accepted step).attempts up k cell left connecting
  | refused j reason => exact (aside_refused step).attempts up k cell left connecting
  | dispose =>
      cases step
      exact connecting
  | proceed d =>
      rcases proceed_cases step with ⟨-, -, rfl⟩ | ⟨-, -, rfl⟩ | ⟨-, rfl⟩
        | ⟨_, _, _, _, -, -, -, rfl⟩ | ⟨_, _, -, -, rfl⟩ | ⟨-, rfl⟩
      · exact connecting
      · exact connecting
      · exact connecting
      · exact connecting
      · exact connecting
      · exact connecting

/-- A disposal closes what is in its cells, one after another, and returns. -/
theorem closing_finishes {d : Nat} (cells : List Nat) :
    ∀ cs : Connections, cs.disposals[d]? = some (.closing cells) →
      ∃ cs', (List.replicate (cells.length + 1) (.proceed d)).foldlM step? cs = some cs'
        ∧ cs'.disposed? d = some (.ok ()) := by
  induction cells with
  | nil =>
      intro cs hd
      refine ⟨cs.setDisposal d (.finished (.ok ())), ?_, ?_⟩
      · show (cs.proceed d).bind some = _
        unfold proceed
        rw [hd]
        rfl
      · unfold disposed?
        rw [show (cs.setDisposal d _).disposals[d]? = _ from getElem?_set_self_of_some hd]
  | cons cell rest ih =>
      intro cs hd
      obtain ⟨next, step, hnext⟩ : ∃ next, cs.proceed d = some next
          ∧ next.disposals[d]? = some (.closing rest) := by
        cases filled : cs.cells[cell]?.bind (·.link) with
        | none =>
            refine ⟨cs.setDisposal d (.closing rest), ?_, getElem?_set_self_of_some hd⟩
            unfold proceed
            rw [hd]
            simp only [Option.bind_eq_bind, Option.bind_some, filled]
        | some link =>
            refine ⟨(cs.close link).setDisposal d (.closing rest), ?_,
              getElem?_set_self_of_some hd⟩
            unfold proceed
            rw [hd]
            simp only [Option.bind_eq_bind, Option.bind_some, filled]
      obtain ⟨cs', run, done⟩ := ih next hnext
      refine ⟨cs', ?_, done⟩
      show (cs.proceed d).bind _ = _
      rw [step]
      exact run

/-- A disposal that has raised the flag returns once it is let go on. -/
theorem HasRaised.finishes {d : Nat} (has : cs.HasRaised d) :
    ∃ n cs', (List.replicate n (.proceed d)).foldlM step? cs = some cs'
      ∧ cs'.disposed? d = some (.ok ()) := by
  obtain ⟨phase, hd, raised⟩ := has
  cases phase with
  | raising => cases raised
  | draining =>
      obtain ⟨cs', run, done⟩ := closing_finishes (cs.index.map Prod.snd)
        ({ cs with index := [] }.setDisposal d (.closing (cs.index.map Prod.snd)))
        (getElem?_set_self_of_some hd)
      refine ⟨(cs.index.map Prod.snd).length + 1 + 1, cs', ?_, done⟩
      show (cs.proceed d).bind _ = _
      unfold proceed
      rw [hd]
      exact run
  | closing cells =>
      obtain ⟨cs', run, done⟩ := closing_finishes cells cs hd
      exact ⟨_, cs', run, done⟩
  | finished result =>
      cases result with
      | error f => cases raised
      | ok value =>
          refine ⟨0, cs, rfl, ?_⟩
          unfold disposed?
          rw [hd]

/-- A disposal that has returned was told so by the flag it raised or found. -/
theorem Raised.result (r : Raised cs) {d : Nat} {result : Except Failure Unit}
    (returned : cs.disposed? d = some result) :
    cs.HasRaised d ∧ result = .ok ()
    ∨ ¬ cs.HasRaised d ∧ result = .error .alreadyDisposed := by
  unfold disposed? at returned
  split at returned
  next res hd =>
    cases returned
    cases result with
    | ok value => exact .inl ⟨⟨_, hd, rfl⟩, rfl⟩
    | error f =>
        rw [r.refused d f hd]
        refine .inr ⟨?_, rfl⟩
        rintro ⟨phase, hd', raised⟩
        rw [hd] at hd'
        cases hd'
        cases raised
  next => cases returned

/-- A disposal that did not raise the flag closes nothing, and is told so
if the flag is up. -/
theorem proceed_unraised {d : Nat} (step : cs.proceed d = some cs') (not : ¬ cs.HasRaised d) :
    cs'.links = cs.links ∧ cs'.cells = cs.cells
      ∧ (cs.disposed = true → cs'.disposed? d = some (.error .alreadyDisposed)) := by
  rcases proceed_cases step with ⟨hd, -, rfl⟩ | ⟨hd, down, rfl⟩ | ⟨hd, -⟩
    | ⟨_, _, _, _, hd, -⟩ | ⟨_, _, hd, -⟩ | ⟨hd, -⟩
  · refine ⟨rfl, rfl, ?_⟩
    intro _
    unfold disposed?
    rw [show (cs.setDisposal d _).disposals[d]? = _ from getElem?_set_self_of_some hd]
  · refine ⟨rfl, rfl, ?_⟩
    intro up
    rw [down] at up
    cases up
  · exact absurd ⟨_, hd, rfl⟩ not
  · exact absurd ⟨_, hd, rfl⟩ not
  · exact absurd ⟨_, hd, rfl⟩ not
  · exact absurd ⟨_, hd, rfl⟩ not

-- ========================================================= the connections

/-- The cell of an open connection, which is its own or its maker's. -/
theorem Sound.cell_of_open (s : Sound cs) {link : Nat} {l : Link}
    (hl : cs.links[link]? = some l) (isOpen : l.isOpen = true) :
    ∃ cell x, cs.Used cell x ∧ x.owner = l.owner
      ∧ (x.link = some link ∨ ∃ (k : Nat) (c : ConnectionCall), cs.calls[k]? = some c
        ∧ c.phase.private? = some link ∧ cs.Makes k c.caller cell) := by
  rcases s.placed link with closed | ⟨k, c, hc, own⟩ | ⟨cell, x, hx, hlink⟩
  · rw [closed l hl] at isOpen
    cases isOpen
  · obtain ⟨cell, left, live, makes, l', hl', owner, -⟩ := (s.standing k c hc).carries own
    rw [hl] at hl'
    cases hl'
    exact ⟨cell, _, ⟨makes, .inr ⟨k, c, hc, live⟩⟩, owner.symm, .inr ⟨k, c, hc, own, makes⟩⟩
  · obtain ⟨-, -, -, -, l', hl', owner, -⟩ := s.filled cell x link hx hlink
    rw [hl] at hl'
    cases hl'
    exact ⟨cell, x, ⟨hx, .inl (hlink ▸ Option.some_ne_none link)⟩, owner.symm, .inl hlink⟩

/-- An instance has one open connection at most. -/
theorem Sound.open_unique (s : Sound cs) {link link' : Nat} {l l' : Link}
    (hl : cs.links[link]? = some l) (hl' : cs.links[link']? = some l')
    (isOpen : l.isOpen = true) (isOpen' : l'.isOpen = true) (owners : l.owner = l'.owner) :
    link = link' := by
  obtain ⟨cell, x, used, owner, place⟩ := s.cell_of_open hl isOpen
  obtain ⟨cell', x', used', owner', place'⟩ := s.cell_of_open hl' isOpen'
  have same := s.single cell cell' x x' used used' (owner.trans (owners.trans owner'.symm))
  subst same
  have entry : x = x' := Option.some.inj (used.1.symm.trans used'.1)
  subst entry
  rcases place with filled | ⟨k, c, hc, own, makes⟩
  · rcases place' with filled' | ⟨k', c', hc', own', makes'⟩
    · rw [filled] at filled'
      exact Option.some.inj filled'
    · have empty := congrArg Cell.link (Option.some.inj (used.1.symm.trans makes'))
      rw [filled] at empty
      cases empty
  · rcases place' with filled' | ⟨k', c', hc', own', makes'⟩
    · have empty := congrArg Cell.link (Option.some.inj (used.1.symm.trans makes))
      rw [filled'] at empty
      cases empty
    · have maker := congrArg Cell.maker (Option.some.inj (makes.symm.trans makes'))
      rw [Option.some.inj maker, hc'] at hc
      cases hc
      rw [own] at own'
      exact Option.some.inj own'

/-- What a call was handed out is in a cell of its instance. -/
theorem Sound.found (s : Sound cs) {link : Nat} (hc : cs.calls[k]? = some c)
    (ok : c.phase = .finished (.ok link)) : cs.Found c.caller.name link := by
  have standing := s.standing k c hc
  rw [ok] at standing
  exact standing

/-- All calls for one instance are handed out the same connection. -/
theorem Sound.handed_unique (s : Sound cs) {k' link link' : Nat} {c' : ConnectionCall}
    (hc : cs.calls[k]? = some c) (hc' : cs.calls[k']? = some c')
    (ok : c.phase = .finished (.ok link)) (ok' : c'.phase = .finished (.ok link'))
    (names : c.caller.name = c'.caller.name) : link = link' := by
  obtain ⟨cell, x, hx, owner, filled⟩ := s.found hc ok
  obtain ⟨cell', x', hx', owner', filled'⟩ := s.found hc' ok'
  have same := s.single cell cell' x x' ⟨hx, .inl (filled ▸ Option.some_ne_none link)⟩
    ⟨hx', .inl (filled' ▸ Option.some_ne_none link')⟩ (owner.trans (names.trans owner'.symm))
  rw [same, hx'] at hx
  cases hx
  rw [filled] at filled'
  exact Option.some.inj filled'

/-- What a call was handed out has all init operations of the instance. -/
theorem Sound.handed_ready (s : Sound cs) {link : Nat} (hc : cs.calls[k]? = some c)
    (ok : c.phase = .finished (.ok link)) : cs.Ready c.caller.name link := by
  obtain ⟨cell, x, hx, owner, filled⟩ := s.found hc ok
  rw [← owner]
  exact s.filled cell x link hx filled

/-- With the disposal that raised the flag returned and every call at its
end, nobody has anything left to close. -/
theorem Sound.all_shut (s : Sound cs) (r : Raised cs) {d : Nat}
    (returned : cs.disposed? d = some (.ok ()))
    (ended : ∀ (k : Nat) (c : ConnectionCall), cs.calls[k]? = some c →
      ∃ result, c.phase = .finished result) (link : Nat) : cs.Shut link := by
  have raised : ∃ result, cs.disposals[d]? = some (.finished (.ok result)) := by
    unfold disposed? at returned
    split at returned
    next result hd =>
      cases returned
      exact ⟨(), hd⟩
    next => cases returned
  obtain ⟨result, hd⟩ := raised
  have idle : ∀ (k : Nat) (c : ConnectionCall), cs.calls[k]? = some c →
      c.phase.private? = none ∧ c.phase.taken? = none := by
    intro k c hc
    obtain ⟨result, phase⟩ := ended k c hc
    rw [phase]
    exact ⟨rfl, rfl⟩
  rcases s.placed link with closed | ⟨k, c, hc, own⟩ | ⟨cell, x, hx, hlink⟩
  · exact closed
  · rw [(idle k c hc).1] at own
    cases own
  · have up := r.flag.2 ⟨d, _, hd, rfl⟩
    rcases s.covered up cell x link hx hlink with closed | ⟨e, he, -⟩ | ⟨e, rest, he, -⟩
      | ⟨k, c, hc, taken⟩
    · exact closed
    · rw [r.unique e d _ _ he hd rfl rfl, hd] at he
      cases he
    · rw [r.unique e d _ _ he hd rfl rfl, hd] at he
      cases he
    · rw [(idle k c hc).2] at taken
      cases taken

/-- Whatever calls and disposals were made, in whatever order they moved,
and whatever the broker answered: an instance has one open connection at
most. All calls for an instance that got a connection got the same one, and
every init operation of the instance is installed on it. With the flag up
no attempt begins. One disposal at most raises the flag; that one returns
well once it is let go on, every other one is refused and closes nothing.
And once that disposal has returned and every call has ended, every
connection ever opened is closed. -/
theorem opened_once_and_closed (h : Reachable cs) :
    (∀ (link link' : Nat) (l l' : Link), cs.links[link]? = some l → cs.links[link']? = some l' →
      l.isOpen = true → l'.isOpen = true → l.owner = l'.owner → link = link')
    ∧ ((∀ (k k' link link' : Nat) (c c' : ConnectionCall),
        cs.calls[k]? = some c → cs.calls[k']? = some c' → c.phase = .finished (.ok link) →
        c'.phase = .finished (.ok link') → c.caller.name = c'.caller.name → link = link')
      ∧ ∀ (k link : Nat) (c : ConnectionCall), cs.calls[k]? = some c →
        c.phase = .finished (.ok link) →
        ∃ l : Link, cs.links[link]? = some l ∧ l.owner = c.caller.name
          ∧ (∃ (k' : Nat) (c' : ConnectionCall), cs.calls[k']? = some c'
            ∧ c'.caller.name = c.caller.name ∧ l.installed = c'.caller.initOperations)
          ∧ ((∀ (k' : Nat) (c' : ConnectionCall), cs.calls[k']? = some c' →
              c'.caller.name = c.caller.name → c'.caller = c.caller) →
            l.installed = c.caller.initOperations))
    ∧ (∀ m cs', cs.step? m = some cs' → cs.disposed = true → cs'.disposed = true
      ∧ ∀ k cell left, cs'.phase? k = some (.connecting cell left) →
        cs.phase? k = some (.connecting cell left))
    ∧ ((cs.disposed = true ↔ ∃ d, cs.HasRaised d)
      ∧ (∀ d d', cs.HasRaised d → cs.HasRaised d' → d = d')
      ∧ (∀ d, cs.HasRaised d →
        (∀ m cs', cs.step? m = some cs' → cs'.HasRaised d)
        ∧ ∃ n cs', (List.replicate n (.proceed d)).foldlM step? cs = some cs'
          ∧ cs'.disposed? d = some (.ok ()))
      ∧ (∀ d result, cs.disposed? d = some result →
        cs.HasRaised d ∧ result = .ok ()
        ∨ ¬ cs.HasRaised d ∧ result = .error .alreadyDisposed)
      ∧ ∀ d cs', cs.proceed d = some cs' → ¬ cs.HasRaised d →
        cs'.links = cs.links ∧ cs'.cells = cs.cells
          ∧ (cs.disposed = true → cs'.disposed? d = some (.error .alreadyDisposed)))
    ∧ ∀ d, cs.disposed? d = some (.ok ()) →
      (∀ (k : Nat) (c : ConnectionCall), cs.calls[k]? = some c →
        ∃ result, c.phase = .finished result) →
      ∀ (link : Nat) (l : Link), cs.links[link]? = some l → l.isOpen = false := by
  obtain ⟨s, r⟩ := sound_of_reachable h
  refine ⟨?_, ⟨?_, ?_⟩, ?_, ⟨r.flag, ?_, ?_, ?_, ?_⟩, ?_⟩
  · intro link link' l l' hl hl' isOpen isOpen' owners
    exact s.open_unique hl hl' isOpen isOpen' owners
  · intro k k' link link' c c' hc hc' ok ok' names
    exact s.handed_unique hc hc' ok ok' names
  · intro k link c hc ok
    obtain ⟨k', c', hc', named, l, hl, owner, installed⟩ := s.handed_ready hc ok
    rw [List.append_nil] at installed
    refine ⟨l, hl, owner, ⟨k', c', hc', named, installed⟩, ?_⟩
    intro one
    rw [installed, one k' c' hc' named]
  · intro m cs' step up
    refine ⟨?_, fun k cell left => attempts_step step up⟩
    obtain ⟨d, has⟩ := r.flag.1 up
    exact (sound_step s r step).2.flag.2 ⟨d, HasRaised.step has step⟩
  · intro d d' has has'
    obtain ⟨phase, hd, raised⟩ := has
    obtain ⟨phase', hd', raised'⟩ := has'
    exact r.unique d d' phase phase' hd hd' raised raised'
  · intro d has
    exact ⟨fun m cs' step => has.step step, has.finishes⟩
  · intro d result returned
    exact r.result returned
  · intro d cs' step not
    exact proceed_unraised step not
  · intro d returned ended link l hl
    exact s.all_shut r returned ended link l hl

/-- A run of possible moves leads to what can come about. -/
theorem Reachable.run (h : Reachable cs) {moves : List ConnectionMove}
    (run : moves.foldlM step? cs = some cs') : Reachable cs' := by
  induction moves generalizing cs with
  | nil =>
      cases run
      exact h
  | cons m rest ih =>
      obtain ⟨next, step, run⟩ := Option.bind_eq_some_iff.1 run
      exact ih (h.step m step) run

/-- An instance that asks for one exchange. -/
def shop : Instance where
  name := "shop"
  connection := {}
  consumer := none
  producer := some { maxPoolLength := 1 }
  init := some { exchanges := [.named "orders"] }

/-- Two calls for it and two disposals. The first call is through before the
flag goes up, the second one still waits then. -/
def outrun : List ConnectionMove := [
  .call shop, .call shop, .advance 0, .advance 1, .advance 0, .advance 1, .advance 0, .advance 0,
  .accepted 0, .accepted 0, .accepted 0, .advance 0, .advance 0,
  .dispose, .dispose, .proceed 0, .proceed 1, .advance 1, .advance 1,
  .proceed 0, .proceed 0, .proceed 0, .advance 1]

/-- What has come of it in the end. -/
def afterOutrun : Connections where
  disposed := true
  cells := [{ owner := "shop", link := some 0 }]
  links := [{ owner := "shop", installed := shop.initOperations, isOpen := false }]
  calls := [⟨shop, .finished (.ok 0)⟩, ⟨shop, .finished (.error .alreadyDisposed)⟩]
  disposals := [.finished (.ok ()), .finished (.error .alreadyDisposed)]

theorem opened_once_and_closed_of_outrun :
    Reachable afterOutrun
      ∧ ∀ (link : Nat) (l : Link), afterOutrun.links[link]? = some l → l.isOpen = false := by
  have reached : Reachable afterOutrun :=
    Reachable.start.run (show outrun.foldlM step? {} = _ from rfl)
  refine ⟨reached, (opened_once_and_closed reached).2.2.2.2 0 rfl ?_⟩
  intro k c hc
  match k with
  | 0 =>
      cases hc
      exact ⟨_, rfl⟩
  | 1 =>
      cases hc
      exact ⟨_, rfl⟩
  | k + 2 => cases hc

end Courier.Connections
