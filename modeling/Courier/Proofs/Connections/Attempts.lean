/-
The attempts to connect that are made for a call, counted along a run.

A call makes attempts only while it is the maker of its cell, and it begins
with all that its instance grants, whatever was tried for the cell before.
So the count of each call is settled by its phase alone (`Tally`): none
before its turn has come, then as many as are not left, and all of them, with
as many refusals, once it has given up. That holds as long as no connection of
the instance was opened and nothing was disposed (`Excused`); where one of
these has happened, only that there are not more attempts than granted.

One move changes the count of one call (`Tally.moved`); a run is the
induction on it (`Tries.tallied`).
-/
import Courier.Proofs.Connections.Safety
import Courier.Proofs.Connections.Turns

namespace Courier

-- ================================================ statement vocabulary

/-- The attempts to connect in a run: the calls that began one, and those that
were refused with the reasons, in order. -/
structure Attempts where
  begun : List Nat := []
  refused : List (Nat × String) := []

namespace Attempts

/-- The attempts that a call made. -/
def begunBy (t : Attempts) (k : Nat) : Nat := t.begun.count k

/-- The attempts that some calls made together. -/
def total (t : Attempts) (ks : List Nat) : Nat := (ks.map t.begunBy).sum

/-- The reasons for which the attempts of a call were refused, in order. -/
def reasons (t : Attempts) (k : Nat) : List String := (t.refused.filter (·.1 == k)).map (·.2)

end Attempts

/-- A call for an instance made all the attempts of it by itself, and came back
with the reason of its own last refusal. -/
structure Attempts.GaveUp (t : Attempts) (k : Nat) (i : Instance)
    (result : Except Failure Nat) : Prop where
  begun : t.begunBy k = i.reconnects + 1
  refused : (t.reasons k).length = i.reconnects + 1
  last : ∃ reason, (t.reasons k).getLast? = some reason
    ∧ result = .error (.brokerUnreachable reason)

/-- Whether a call has not come to its turn. -/
def CallPhase.isBefore : CallPhase → Bool
  | entering | enrolling | waiting _ => true
  | _ => false

/-- Whether a call makes no attempt any more. -/
def CallPhase.isPast : CallPhase → Bool
  | opening _ _ | installing _ _ _ | discarding _ _ _ => true
  | rechecking _ | closing _ | finished _ => true
  | _ => false

namespace Connections

/-- The attempts after a move: a call begins one when it goes on to ask the
broker, and it is refused when the broker refuses. -/
def attempts (cs : Connections) (t : Attempts) : ConnectionMove → Attempts
  | .advance k =>
    match cs.phase? k with
    | some (.attempting _ _) => if cs.disposed then t else { t with begun := t.begun ++ [k] }
    | _ => t
  | .refused k reason =>
    match cs.phase? k with
    | some (.connecting _ _) => { t with refused := t.refused ++ [(k, reason)] }
    | _ => t
  | .call _ | .accepted _ | .dispose | .proceed _ => t

/-- A run from some connections to others, with the attempts made in it. -/
inductive Tries (start : Connections) : Attempts → Connections → Prop where
  | refl : Tries start {} start
  | step {t : Attempts} {cs cs' : Connections} (m : ConnectionMove) :
    Tries start t cs → cs.step? m = some cs' → Tries start (cs.attempts t m) cs'

/-- A move that is possible, with the attempts after it. -/
def tryStep (x : Attempts × Connections) (m : ConnectionMove) :
    Option (Attempts × Connections) :=
  (x.2.step? m).map fun cs => (x.2.attempts x.1 m, cs)

/-- Something was disposed, or a connection of the instance was opened. Then
its calls need not end by giving up. -/
def Excused (cs : Connections) (name : String) : Prop := cs.disposed = true ∨ name ∈ cs.owners

/-- How many attempts a call for an instance made, and for which reasons they
were refused, by its phase. -/
inductive Tally (i : Instance) (excused : Prop) (begun : Nat) (reasons : List String) :
    CallPhase → Prop where
  | before {phase : CallPhase} : phase.isBefore = true → begun = 0 → reasons = [] →
    Tally i excused begun reasons phase
  | attempting {cell left : Nat} : begun + left = i.reconnects → reasons.length = begun →
    Tally i excused begun reasons (.attempting cell left)
  | connecting {cell left : Nat} : begun + left = i.reconnects + 1 → reasons.length + 1 = begun →
    Tally i excused begun reasons (.connecting cell left)
  | pausing {cell left : Nat} : begun + left = i.reconnects → reasons.length = begun →
    Tally i excused begun reasons (.pausing cell left)
  | gaveUp {reason : String} : begun = i.reconnects + 1 → reasons.length = i.reconnects + 1 →
    reasons.getLast? = some reason →
    Tally i excused begun reasons (.finished (.error (.brokerUnreachable reason)))
  | past {phase : CallPhase} : phase.isPast = true → excused → begun ≤ i.reconnects + 1 →
    Tally i excused begun reasons phase

/-- What the attempts of a run are for its calls. -/
structure Tallied (t : Attempts) (cs : Connections) : Prop where
  calls : ∀ (k : Nat) (c : ConnectionCall), cs.calls[k]? = some c →
    Tally c.caller (cs.Excused c.caller.name) (t.begunBy k) (t.reasons k) c.phase
  others : ∀ k, cs.calls[k]? = none → t.begunBy k = 0 ∧ t.reasons k = []

variable {cs cs' : Connections} {t : Attempts} {m : ConnectionMove} {k : Nat}
  {c : ConnectionCall} {next : CallPhase} {i : Instance}

-- ============================================================ the counts

/-- An attempt that begins is counted for its call, and for no other. -/
theorem begunBy_begin (t : Attempts) (k j : Nat) :
    ({ t with begun := t.begun ++ [k] } : Attempts).begunBy j
      = t.begunBy j + if k = j then 1 else 0 := by
  show (t.begun ++ [k]).count j = t.begun.count j + _
  rw [List.count_append, List.count_singleton]
  simp

/-- A refusal is kept for its call, and for no other. -/
theorem reasons_refuse (t : Attempts) (k j : Nat) (reason : String) :
    ({ t with refused := t.refused ++ [(k, reason)] } : Attempts).reasons j
      = t.reasons j ++ if k = j then [reason] else [] := by
  show ((t.refused ++ [(k, reason)]).filter (·.1 == j)).map (·.2) = _
  rw [List.filter_append, List.map_append]
  by_cases same : k = j
  · simp [Attempts.reasons, same]
  · simp [Attempts.reasons, same]

-- ========================================================= the attempts of a move

/-- A call begins an attempt, and then the broker is asked. -/
theorem attempts_tries {cell left : Nat} (found : cs.calls[k]? = some c)
    (phase : c.phase = .attempting cell left) (down : cs.disposed = false) :
    cs.attempts t (.advance k) = { t with begun := t.begun ++ [k] } := by
  simp [attempts, phase?, found, phase, down]

/-- Only the refusal of a connection is the end of an attempt. -/
theorem attempts_refused {cell left : Nat} {reason : String} (found : cs.calls[k]? = some c)
    (phase : c.phase = .connecting cell left) :
    cs.attempts t (.refused k reason) = { t with refused := t.refused ++ [(k, reason)] } := by
  simp [attempts, phase?, found, phase]

/-- Every other move of a call is no attempt and no refusal of one. -/
theorem attempts_eq (found : cs.calls[k]? = some c) (own : m.call? = some k)
    (idle : ∀ cell left, m = .advance k → c.phase = .attempting cell left → cs.disposed = true)
    (unasked : ∀ cell left reason, m = .refused k reason → c.phase ≠ .connecting cell left) :
    cs.attempts t m = t := by
  cases m with
  | advance j =>
      cases own
      simp only [attempts, phase?, found, Option.map_some]
      split
      next cell left phase => rw [if_pos (idle cell left rfl (Option.some.inj phase))]
      next => rfl
  | refused j reason =>
      cases own
      simp only [attempts, phase?, found, Option.map_some]
      split
      next cell left phase =>
        exact absurd (Option.some.inj phase) (unasked cell left reason rfl)
      next => rfl
  | _ => rfl

/-- A move of a call is no attempt for another one. -/
theorem Moved.attempts_other (moved : Moved cs m cs' k c next) (t : Attempts) {j : Nat}
    (other : k ≠ j) :
    (cs.attempts t m).begunBy j = t.begunBy j ∧ (cs.attempts t m).reasons j = t.reasons j := by
  have apart {i : Nat} (own : m.call? = some i) : i ≠ j := by
    rintro rfl
    exact other (Option.some.inj (moved.turn.call_eq.symm.trans own))
  cases m with
  | advance k =>
      simp only [attempts]
      split
      next =>
        split
        next => exact ⟨rfl, rfl⟩
        next =>
          rw [begunBy_begin, if_neg (apart rfl)]
          exact ⟨rfl, rfl⟩
      next => exact ⟨rfl, rfl⟩
  | refused k reason =>
      simp only [attempts]
      split
      next =>
        rw [reasons_refuse, if_neg (apart rfl), List.append_nil]
        exact ⟨rfl, rfl⟩
      next => exact ⟨rfl, rfl⟩
  | _ => exact ⟨rfl, rfl⟩

-- ============================================================== excuses

/-- What excuses the calls of an instance is not taken back by a call. -/
theorem Moved.excused (moved : Moved cs m cs' k c next) {name : String}
    (excused : cs.Excused name) : cs'.Excused name := by
  rcases excused with up | reached
  · exact .inl (moved.flag.trans up)
  · refine .inr ?_
    rw [moved.owners]
    exact List.mem_append_left _ reached

/-- Nor by anything else. -/
theorem Beside.excused (beside : Beside cs cs') {name : String} (excused : cs.Excused name) :
    cs'.Excused name := by
  rcases excused with up | reached
  · exact .inl (beside.flag up)
  · exact .inr (beside.owners ▸ reached)

theorem Tally.mono {excused excused' : Prop} {begun : Nat} {reasons : List String}
    {phase : CallPhase} (tally : Tally i excused begun reasons phase)
    (mono : excused → excused') : Tally i excused' begun reasons phase := by
  cases tally with
  | before early none unrefused => exact .before early none unrefused
  | attempting begun refused => exact .attempting begun refused
  | connecting begun refused => exact .connecting begun refused
  | pausing begun refused => exact .pausing begun refused
  | gaveUp begun refused last => exact .gaveUp begun refused last
  | past late excused most => exact .past late (mono excused) most

/-- A call whose turn has not come made no attempt. -/
theorem Tally.of_isBefore {excused : Prop} {begun : Nat} {reasons : List String}
    {phase : CallPhase} (tally : Tally i excused begun reasons phase)
    (early : phase.isBefore = true) : begun = 0 ∧ reasons = [] := by
  cases tally with
  | before _ none unrefused => exact ⟨none, unrefused⟩
  | past late => cases phase <;> simp [CallPhase.isBefore, CallPhase.isPast] at early late
  | _ => cases early

/-- A call that is past its attempts and has not ended is excused. -/
theorem Tally.of_isPast {excused : Prop} {begun : Nat} {reasons : List String}
    {phase : CallPhase} (tally : Tally i excused begun reasons phase)
    (late : phase.isPast = true) (goesOn : ∀ result, phase ≠ .finished result) :
    excused ∧ begun ≤ i.reconnects + 1 := by
  cases tally with
  | past _ excused most => exact ⟨excused, most⟩
  | before early => cases phase <;> simp [CallPhase.isBefore, CallPhase.isPast] at early late
  | gaveUp => exact absurd rfl (goesOn _)
  | _ => cases late

-- ============================================================= one move

/-- A move of a call before or past its attempts is none of them. -/
theorem Moved.attempts_eq (moved : Moved cs m cs' k c next)
    (idle : c.phase.isBefore = true ∨ c.phase.isPast = true) : cs.attempts t m = t := by
  refine Connections.attempts_eq moved.found moved.turn.call_eq ?_ ?_
  · intro cell left _ phase
    rw [phase] at idle
    rcases idle with idle | idle <;> cases idle
  · intro cell left reason _ phase
    rw [phase] at idle
    rcases idle with idle | idle <;> cases idle

/-- A call in a filled cell is excused: a connection of its instance was opened. -/
theorem Sound.excused_of_filled (s : Sound cs) (found : cs.calls[k]? = some c) {cell link : Nat}
    {x : Cell} (phase : c.phase = .waiting cell) (hx : cs.cells[cell]? = some x)
    (filled : x.link = some link) : cs.Excused c.caller.name := by
  have standing := s.standing k c found
  rw [phase] at standing
  obtain ⟨x', hx', owner⟩ := standing
  rw [hx] at hx'
  cases hx'
  obtain ⟨-, -, -, -, l, hl, own, -⟩ := s.filled cell x link hx filled
  refine .inr ?_
  rw [← owner, ← own]
  exact List.mem_map_of_mem (List.mem_of_getElem? hl)

/-- A call that asked for a connection and got it is excused. -/
theorem Moved.excused_of_connecting (moved : Moved cs (.accepted k) cs' k c next)
    {cell left : Nat} (phase : c.phase = .connecting cell left) : cs'.Excused c.caller.name := by
  refine .inr ?_
  rw [moved.owners, phase]
  exact List.mem_append_right _ (List.mem_singleton_self _)

/-- The turn of a call keeps its own account. The cases are those of the turn: an
attempt is counted when it begins, and its reason when it is refused. -/
theorem Tally.moved (s : Sound cs) (moved : Moved cs m cs' k c next)
    (tally : Tally c.caller (cs.Excused c.caller.name) (t.begunBy k) (t.reasons k) c.phase) :
    Tally c.caller (cs'.Excused c.caller.name) ((cs.attempts t m).begunBy k)
      ((cs.attempts t m).reasons k) next := by
  have found := moved.found
  have excuse : cs.Excused c.caller.name → cs'.Excused c.caller.name := moved.excused
  -- no attempt is made before the turn of a call, nor once it is past them
  have early (phase : c.phase.isBefore = true) :
      cs.attempts t m = t ∧ t.begunBy k = 0 ∧ t.reasons k = [] :=
    ⟨moved.attempts_eq (.inl phase), tally.of_isBefore phase⟩
  have late (phase : c.phase.isPast = true) (goesOn : ∀ result, c.phase ≠ .finished result) :
      cs.attempts t m = t ∧ cs.Excused c.caller.name
        ∧ t.begunBy k ≤ c.caller.reconnects + 1 :=
    ⟨moved.attempts_eq (.inr phase), tally.of_isPast phase goesOn⟩
  have turn := moved.turn
  generalize phase : c.phase = before at turn tally early late
  cases turn with
  | barred up =>
      obtain ⟨same, none, -⟩ := early rfl
      rw [same, none]
      exact .past rfl (excuse (.inl up)) (Nat.zero_le _)
  | enters | enrolls =>
      obtain ⟨same, none, unrefused⟩ := early rfl
      rw [same]
      exact .before rfl none unrefused
  | takes hx filled =>
      obtain ⟨same, none, -⟩ := early rfl
      rw [same, none]
      exact .past rfl (excuse (s.excused_of_filled found phase hx filled)) (Nat.zero_le _)
  | begins =>
      obtain ⟨same, none, unrefused⟩ := early rfl
      rw [same, none, unrefused]
      exact .attempting (Nat.zero_add _) rfl
  | stops up =>
      cases tally with
      | attempting begun refused =>
          have same : cs.attempts t (.advance k) = t :=
            Connections.attempts_eq found rfl (fun _ _ _ _ => up) nofun
          rw [same]
          exact .past rfl (excuse (.inl up)) (by omega)
      | before no => cases no
      | past no => cases no
  | tries down =>
      cases tally with
      | attempting begun refused =>
          rw [attempts_tries found phase down, begunBy_begin, if_pos rfl]
          refine .connecting (by omega) ?_
          exact congrArg (· + 1) refused
      | before no => cases no
      | past no => cases no
  | gives =>
      cases tally with
      | connecting begun refused =>
          rw [attempts_refused found phase, reasons_refuse, if_pos rfl]
          refine .gaveUp begun ?_ List.getLast?_concat
          rw [List.length_append, List.length_singleton]
          exact refused.trans begun
      | before no => cases no
      | past no => cases no
  | pauses =>
      cases tally with
      | connecting begun refused =>
          rw [attempts_refused found phase, reasons_refuse, if_pos rfl]
          refine .pausing ?_ ?_
          · show t.begunBy k + _ = _
            omega
          · rw [List.length_append, List.length_singleton]
            exact refused
      | before no => cases no
      | past no => cases no
  | resumes =>
      cases tally with
      | pausing begun refused =>
          have same : cs.attempts t (.advance k) = t :=
            Connections.attempts_eq found rfl (fun _ _ _ no => by rw [phase] at no; cases no) nofun
          rw [same]
          exact .attempting begun refused
      | before no => cases no
      | past no => cases no
  | connects | connectsBare =>
      cases tally with
      | connecting begun refused =>
          exact .past rfl (moved.excused_of_connecting phase) (by show t.begunBy k ≤ _; omega)
      | before no => cases no
      | past no => cases no
  | opens | installs | fills | spoils | denied | fails | discards | late | hands | closes =>
      obtain ⟨same, excused, most⟩ := late rfl nofun
      rw [same]
      exact .past rfl (excuse excused) most

-- ================================================================ a run

/-- The accounts of the other calls stay as they are. -/
theorem Tallied.moved (s : Sound cs) (tallied : Tallied t cs) (moved : Moved cs m cs' k c next) :
    Tallied (cs.attempts t m) cs' := by
  refine ⟨?_, ?_⟩
  · intro j d hd
    rw [moved.calls] at hd
    rcases calls_setPhase moved.found hd with ⟨rfl, rfl⟩ | ⟨other, old⟩
    · show Tally c.caller _ _ _ next
      exact Tally.moved s moved (tallied.calls j c moved.found)
    · obtain ⟨begun, refused⟩ := moved.attempts_other t other.symm
      rw [begun, refused]
      exact (tallied.calls j d old).mono moved.excused
  · intro j absent
    have old : cs.calls[j]? = none := by
      have length : cs'.calls.length = cs.calls.length := by
        rw [moved.calls]
        exact List.length_modify ..
      rw [List.getElem?_eq_none_iff, length] at absent
      exact List.getElem?_eq_none absent
    have apart : k ≠ j := by
      rintro rfl
      rw [moved.found] at old
      cases old
    obtain ⟨begun, refused⟩ := moved.attempts_other t apart
    rw [begun, refused]
    exact tallied.others j old

/-- A new call made no attempt. -/
theorem Tallied.call (tallied : Tallied t cs) (i : Instance) :
    Tallied t { cs with calls := cs.calls ++ [{ caller := i }] } := by
  refine ⟨?_, ?_⟩
  · intro j d hd
    rcases of_getElem?_append hd with old | ⟨rfl, rfl⟩
    · exact (tallied.calls j d old).mono id
    · obtain ⟨none, unrefused⟩ := tallied.others _ (List.getElem?_eq_none (Nat.le_refl _))
      exact .before rfl none unrefused
  · intro j absent
    refine tallied.others j ?_
    rw [List.getElem?_eq_none_iff, List.length_append] at absent
    exact List.getElem?_eq_none (Nat.le_of_add_right_le absent)

theorem Tallied.beside (tallied : Tallied t cs) (beside : Beside cs cs') : Tallied t cs' := by
  refine ⟨?_, ?_⟩
  · intro j d hd
    rw [beside.calls] at hd
    exact (tallied.calls j d hd).mono beside.excused
  · intro j absent
    rw [beside.calls] at absent
    exact tallied.others j absent

/-- Every move keeps all accounts. -/
theorem Tallied.step (s : Sound cs) (tallied : Tallied t cs) (step : cs.step? m = some cs') :
    Tallied (cs.attempts t m) cs' := by
  rcases step_cases step with ⟨k, c, next, moved⟩ | ⟨i, rfl, rfl⟩ | ⟨rfl | ⟨d, rfl⟩, beside⟩
  · exact tallied.moved s moved
  · exact tallied.call i
  · exact tallied.beside beside
  · exact tallied.beside beside

/-- Without its attempts a run is one that leads to what can come about. -/
theorem Tries.reachable {start : Connections} (tries : Tries start t cs)
    (reachable : Reachable start) : Reachable cs := by
  induction tries with
  | refl => exact reachable
  | step m _ step ih => exact ih.step m step

/-- A run goes on. -/
theorem Tries.run {start : Connections} {t' : Attempts} (tries : Tries start t cs)
    {moves : List ConnectionMove} (run : moves.foldlM tryStep (t, cs) = some (t', cs')) :
    Tries start t' cs' := by
  induction moves generalizing t cs with
  | nil =>
      cases run
      exact tries
  | cons m rest ih =>
      obtain ⟨next, tried, run⟩ := Option.bind_eq_some_iff.1 run
      obtain ⟨cs₁, step, rfl⟩ := Option.map_eq_some_iff.1 tried
      exact ih (tries.step m step) run

/-- Every run of possible moves has its attempts. -/
theorem Tries.foldlM {start : Connections} (tries : Tries start t cs)
    {moves : List ConnectionMove} (run : moves.foldlM step? cs = some cs') :
    ∃ t', Tries start t' cs' := by
  induction moves generalizing t cs with
  | nil =>
      cases run
      exact ⟨t, tries⟩
  | cons m rest ih =>
      obtain ⟨next, step, run⟩ := Option.bind_eq_some_iff.1 run
      exact ih (tries.step m step) run

theorem Tries.tallied (tries : Tries {} t cs) : Tallied t cs := by
  induction tries with
  | refl =>
      refine ⟨?_, fun _ _ => ⟨rfl, rfl⟩⟩
      intro j d hd
      cases hd
  | step m tries step ih => exact ih.step (sound_of_reachable (tries.reachable .start)).1 step

/-- A call of an instance that nobody excuses ended by giving up. -/
theorem Tallied.gaveUp (tallied : Tallied t cs) (found : cs.calls[k]? = some c)
    (unexcused : ¬ cs.Excused c.caller.name) {result : Except Failure Nat}
    (ended : c.phase = .finished result) : t.GaveUp k c.caller result := by
  have tally := tallied.calls k c found
  rw [ended] at tally
  cases tally with
  | gaveUp begun refused last => exact ⟨begun, refused, ⟨_, last, rfl⟩⟩
  | before no => cases no
  | past _ excused => exact absurd excused unexcused

/-- A call makes no more attempts than its instance grants, whatever comes of it. -/
theorem Tallied.begun_le (tallied : Tallied t cs) (found : cs.calls[k]? = some c) :
    t.begunBy k ≤ c.caller.reconnects + 1 := by
  have tally := tallied.calls k c found
  generalize c.phase = phase at tally
  cases tally with
  | before _ none => omega
  | attempting begun => omega
  | connecting begun => omega
  | pausing begun => omega
  | gaveUp begun => omega
  | past _ _ most => exact most

end Connections

end Courier
