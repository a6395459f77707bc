/-
Messages for a queue and the gate. Such a message does not wait for the
consumers itself: it passes no gate (`SendPhase.Fits`). But it needs a
channel of its instance, and a message for an exchange takes its channel
before it comes to the gate and keeps it there. So one message more than
there are channels is enough for the signal to decide about a message that
has nothing to do with it.

# What is shown

While messages at the gate hold every channel of an instance, a message for
a queue of that instance is never sent unless the signal fires, whatever
else happens (`Starved.leads`). As long as fewer messages for exchanges are
under way, it comes through without the signal, and once the signal has
fired it always does: a smooth run that stops leaves it waiting only behind
a full gate (`full_gate_of_still`).

# Counting

The channels that are out are counted in the pool, the messages in the
publisher; both are lists of takers without repetition, and one list is
part of the other. Every taker at the gate is busy; where nothing can go on,
every busy taker is at the gate.
-/
import Mathlib.Data.List.Nodup
import Mathlib.Data.List.Pairwise
import Courier.Proofs.Publisher.Progress

namespace Courier

-- ====================================================== the busy takers

/-- Whether a taker has a permit, or a resource in place of it. -/
def TakerPhase.isBusy (φ : TakerPhase) : Bool :=
  φ.isSpare || φ.underway?.isSome || φ.held?.isSome

/-- Who is busy still has something to do with the pool. -/
theorem TakerPhase.isOver_of_isBusy (φ : TakerPhase) (isBusy : φ.isBusy = true) :
    φ.isOver = false := by
  cases φ with
  | asking | queued | failed _ | gone => cases isBusy
  | _ => rfl

namespace Pool

variable {p : Pool} {t capacity : Nat}

/-- The takers that have a permit, or a resource in place of it. -/
def busy (p : Pool) : List Nat := (p.takers.zipIdx.filter (·.1.isBusy)).map Prod.snd

/-- The busy takers by their phases. -/
theorem mem_busy : t ∈ p.busy ↔ ∃ φ, p.phase? t = some φ ∧ φ.isBusy = true := by
  simp only [busy, List.mem_map, List.mem_filter, Prod.exists, List.mem_zipIdx_iff_getElem?]
  constructor
  · rintro ⟨φ, j, ⟨hφ, isBusy⟩, rfl⟩
    exact ⟨φ, hφ, isBusy⟩
  · rintro ⟨φ, hφ, isBusy⟩
    exact ⟨φ, t, ⟨hφ, isBusy⟩, rfl⟩

theorem nodup_busy (p : Pool) : p.busy.Nodup := by
  have sublist : p.busy.Sublist (p.takers.zipIdx.map Prod.snd) := List.filter_sublist.map _
  rw [List.zipIdx_map_snd] at sublist
  exact List.Nodup.sublist sublist (List.nodup_range' ..)

/-- A busy taker has a permit, or a resource underway or held; never two of these. -/
theorem isBusy_toNat (φ : TakerPhase) :
    φ.isBusy.toNat = φ.isSpare.toNat + φ.underway?.isSome.toNat + φ.held?.isSome.toNat := by
  cases φ <;> rfl

/-- So the busy takers are counted by what they have. -/
theorem countP_isBusy (takers : List TakerPhase) :
    takers.countP (·.isBusy) = takers.countP (·.isSpare)
      + (takers.filterMap (·.underway?)).length + (takers.filterMap (·.held?)).length := by
  rw [List.length_filterMap_eq_countP, List.length_filterMap_eq_countP]
  induction takers with
  | nil => rfl
  | cons φ rest ih =>
      have one := isBusy_toNat φ
      simp only [toNat_eq_ite] at one
      simp only [List.countP_cons]
      omega

theorem length_busy (p : Pool) : p.busy.length = p.takers.countP (·.isBusy) := by
  unfold busy
  rw [List.length_map, ← List.countP_eq_length_filter]
  calc p.takers.zipIdx.countP (·.1.isBusy)
      = (p.takers.zipIdx.map Prod.fst).countP (·.isBusy) := by rw [List.countP_map]; rfl
    _ = p.takers.countP (·.isBusy) := by rw [List.zipIdx_map_fst]

/-- The permits in the pool and the busy takers add up to the capacity. -/
theorem Accounts.permits_busy (acc : Accounts capacity 0 p) :
    p.permits + p.busy.length = capacity := by
  have sum := acc.permits_eq
  unfold spares underway held at sum
  rw [length_busy, countP_isBusy]
  omega

/-- A pool that came about has room for one at least. -/
theorem capacity_pos (reachable : Reachable capacity p) : 0 < capacity := by
  induction reachable with
  | start created =>
      unfold create at created
      split at created
      · cases created
      · omega
  | step _ _ _ positive => exact positive

end Pool

namespace Publisher

variable {p p' : Publisher} {k t : Nat} {s : Send} {o : Outlet} {name : String}
  {m : PublisherMove}

-- ========================================================= at the gate

/-- The taker that a message is, if it waits at the gate with a channel of
the instance. -/
def gateTaker? (name : String) (s : Send) : Option Nat :=
  match s.phase with
  | .gated t => if s.posting.instanceName = name then some t else none
  | _ => none

/-- The messages that wait at the gate with a channel of the instance. -/
def gated (p : Publisher) (name : String) : List Nat := p.sends.filterMap (gateTaker? name)

theorem gateTaker?_eq_some : gateTaker? name s = some t
    ↔ s.posting.instanceName = name ∧ s.phase = .gated t := by
  unfold gateTaker?
  split
  next t' phase =>
    split
    next there => simp [there, phase]
    next elsewhere => simp [elsewhere]
  next other =>
    constructor
    · nofun
    · rintro ⟨-, phase⟩
      exact absurd phase (other t)

/-- The messages at the gate by their phases. -/
theorem mem_gated : t ∈ p.gated name
    ↔ ∃ (k : Nat) (s : Send), p.sends[k]? = some s ∧ s.posting.instanceName = name
      ∧ s.phase = .gated t := by
  unfold gated
  rw [List.mem_filterMap]
  constructor
  · rintro ⟨s, member, ht⟩
    obtain ⟨k, sent⟩ := List.mem_iff_getElem?.1 member
    exact ⟨k, s, sent, gateTaker?_eq_some.1 ht⟩
  · rintro ⟨k, s, sent, ht⟩
    exact ⟨s, List.mem_iff_getElem?.2 ⟨k, sent⟩, gateTaker?_eq_some.2 ht⟩

/-- No two messages at the gate are one taker. -/
theorem Links.nodup_gated (links : Links p) (name : String) : (p.gated name).Nodup := by
  unfold gated List.Nodup
  rw [List.pairwise_filterMap, List.pairwise_iff_getElem]
  intro i j hi hj before t ht t' ht' same
  subst same
  rw [gateTaker?_eq_some] at ht ht'
  have both : i = j := links.distinct i j _ _ t (List.getElem?_eq_getElem hi)
    (List.getElem?_eq_getElem hj) (ht.1.trans ht'.1.symm) (by rw [ht.2]; rfl) (by rw [ht'.2]; rfl)
  omega

/-- A message at the gate holds a channel. -/
theorem Links.gated_busy (links : Links p) (found : p.outlet? name = some o) :
    p.gated name ⊆ o.pool.busy := by
  intro t member
  obtain ⟨k, s, sent, rfl, phase⟩ := mem_gated.1 member
  obtain ⟨φ, hφ, fits⟩ := links.fits_of sent (by rw [phase]; rfl) found
  rw [phase] at fits
  obtain ⟨r, rfl⟩ := φ.holding_of_held fits.1
  exact Pool.mem_busy.2 ⟨_, hφ, rfl⟩

/-- There are no more messages at the gate than channels, and one less if
somebody else is busy. -/
theorem Links.room (links : Links p) (found : p.outlet? name = some o) {φ : TakerPhase}
    (hφ : o.pool.phase? t = some φ) (isBusy : φ.isBusy = true) (other : t ∉ p.gated name) :
    (p.gated name).length + 1 ≤ o.settings.maxPoolLength.toNat := by
  have nodup : (t :: p.gated name).Nodup := List.nodup_cons.2 ⟨other, links.nodup_gated name⟩
  have subset : t :: p.gated name ⊆ o.pool.busy :=
    List.cons_subset.2 ⟨Pool.mem_busy.2 ⟨φ, hφ, isBusy⟩, links.gated_busy found⟩
  have length := (List.subperm_of_subset nodup subset).length_le
  have sum := (links.accounts found).permits_busy
  rw [List.length_cons] at length
  omega

/-- The taker of a message that is not at the gate. -/
theorem Links.not_mem_gated (links : Links p) (sent : p.sends[k]? = some s)
    (ht : s.phase.taker? = some t) (phase : s.phase ≠ .gated t) :
    t ∉ p.gated s.posting.instanceName := by
  intro member
  obtain ⟨k', s', sent', there, gated⟩ := mem_gated.1 member
  have same := links.distinct k' k s' s t sent' sent there (by rw [gated]; rfl) ht
  subst same
  rw [sent] at sent'
  cases sent'
  exact phase gated

-- ==================================================== behind a full gate

/-- Nobody leaves the gate while the signal has not fired. -/
theorem gated_subset (links : Links p) (unready : p.ready = false) (unfired : m ≠ .fire)
    (step : p.step? m = some p') : p.gated name ⊆ p'.gated name := by
  intro t member
  obtain ⟨k, s, sent, there, phase⟩ := mem_gated.1 member
  exact mem_gated.2 ⟨k, s, gated_step links unready unfired step sent phase, there, phase⟩

/-- The messages at the gate hold every channel, and message `k` waits for
one, or was turned away when the pool was closed. -/
structure Starved (p : Publisher) (k : Nat) (posting : Posting) (settings : Settings.Producer) :
    Prop where
  unready : p.ready = false
  found : ∃ o, p.outlet? posting.instanceName = some o ∧ o.settings = settings
  full : settings.maxPoolLength.toNat ≤ (p.gated posting.instanceName).length
  waits : ∃ s, p.sends[k]? = some s ∧ s.posting = posting
    ∧ ((∃ t, s.phase = .taking t)
      ∨ s.phase = .finished (.error .alreadyDisposed) ∧ Closed p posting.instanceName)

/-- Behind a full gate a message does not get anywhere by its own moves. -/
theorem Starved.turn {posting : Posting} {settings : Settings.Producer} {pool : Pool}
    {next : SendPhase} (starved : Starved p k posting settings) (links : Links p)
    (links' : Links p') (moved : Moved p p' k s o pool next)
    (turn : SendTurn k p.ready o.settings.maxRetryCount.toNat s.posting o.pool m s.phase pool next)
    (free : posting.target.isGated = false)
    (full : settings.maxPoolLength.toNat ≤ (p'.gated posting.instanceName).length) :
    (∃ t, next = .taking t)
      ∨ next = .finished (.error .alreadyDisposed) ∧ Closed p' posting.instanceName := by
  obtain ⟨-, ⟨o', found', rfl⟩, before, s', sent', rfl, waits⟩ := starved
  have sent := moved.sent
  have found := moved.found
  rw [sent] at sent'
  cases sent'
  rw [found] at found'
  cases found'
  have found' : p'.outlet? s.posting.instanceName = some { o with pool := pool } := by
    rw [moved.outlets, if_pos rfl]
  rcases waits with ⟨t, phase⟩ | ⟨ended, -⟩
  · have other := links.not_mem_gated sent (t := t) (by rw [phase]; rfl) (by rw [phase]; nofun)
    have self := moved.self
    rw [phase] at turn
    cases turn with
    | nears _ _ _ _ => exact .inl ⟨t, rfl⟩
    | refused turned shut => exact .inr ⟨rfl, _, found', turned.isOpen.trans shut⟩
    | gets turned _ =>
        -- its channel would be one more than there are
        have passes : afterTaking s.posting.target t = .publishing t 0 := by
          unfold afterTaking
          rw [free]
          rfl
        rw [passes] at self
        have other' := links'.not_mem_gated self (t := t) rfl nofun
        have room := links'.room found' turned.after rfl other'
        have full : o.settings.maxPoolLength.toNat ≤ (p'.gated s.posting.instanceName).length :=
          full
        have room : (p'.gated s.posting.instanceName).length + 1
          ≤ o.settings.maxPoolLength.toNat := room
        omega
    | unmade turned =>
        have room := links.room found turned.before rfl other
        omega
  · rw [ended] at turn
    cases turn

/-- Behind a full gate a message stays there by any move but the signal. -/
theorem Starved.step {posting : Posting} {settings : Settings.Producer}
    (starved : Starved p k posting settings) (links : Links p) (unfired : m ≠ .fire)
    (free : posting.target.isGated = false) (step : p.step? m = some p') :
    Starved p' k posting settings := by
  have lasting := lasting_step links step
  have links' := links_step links step
  have full : settings.maxPoolLength.toNat ≤ (p'.gated posting.instanceName).length :=
    Nat.le_trans starved.full (List.subperm_of_subset (links.nodup_gated _)
      (gated_subset links starved.unready unfired step)).length_le
  have found : ∃ o, p'.outlet? posting.instanceName = some o ∧ o.settings = settings := by
    obtain ⟨o, found, settings⟩ := starved.found
    obtain ⟨o', found', same, -⟩ := lasting.some _ o found
    exact ⟨o', found', same.trans settings⟩
  have unready : p'.ready = false := (ready_step links unfired step).trans starved.unready
  have kept : p'.sends[k]? = p.sends[k]? → Starved p' k posting settings := by
    intro same
    obtain ⟨s, sent, mine, waits⟩ := starved.waits
    refine ⟨unready, found, full, s, same.trans sent, mine, ?_⟩
    rcases waits with waits | ⟨ended, closed⟩
    · exact .inl waits
    · exact .inr ⟨ended, closed.lasting lasting⟩
  rcases step_cases links step with ⟨posting', -, rfl⟩ | ⟨rfl, -⟩ | ⟨name', o, -, -, rfl⟩
    | ⟨j, s, o, pool, next, moved, turn⟩
  · obtain ⟨s, sent, -⟩ := starved.waits
    exact kept (sends_post (List.getElem?_eq_some_iff.1 sent).1)
  · exact absurd rfl unfired
  · exact kept rfl
  · by_cases same : k = j
    · subst same
      obtain ⟨s', sent, rfl, -⟩ := starved.waits
      rw [moved.sent] at sent
      cases sent
      exact ⟨unready, found, full, _, moved.self, rfl,
        starved.turn links links' moved turn free full⟩
    · apply kept
      rw [moved.sends, List.getElem?_set_ne (Ne.symm same)]

/-- Behind a full gate a message waits for the signal, whatever else happens. -/
theorem Starved.leads {posting : Posting} {settings : Settings.Producer}
    (starved : Starved p k posting settings) (links : Links p)
    (free : posting.target.isGated = false) (leads : Leads (· ≠ .fire) p p') :
    Starved p' k posting settings := by
  refine leads.keeps (I := fun q => Starved q k posting settings) links starved ?_
  intro q q' m links starved unfired step
  exact starved.step links unfired free step

-- ================================================= where messages stop

/-- Where nothing can go on and somebody waits for a permit, the messages at
the gate hold every channel. -/
theorem full_gate_of_still (links : Links p) (still : Still p)
    (found : p.outlet? name = some o) (isOpen : o.pool.isOpen = true)
    (waits : o.pool.phase? t = some .queued) :
    o.settings.maxPoolLength.toNat ≤ (p.gated name).length
      ∧ (p.ready = true → (p.gated name).length = 0) := by
  have served := Pool.served_of_reachable (links.pools name o found)
  have none : o.pool.permits = 0 := by
    rcases served.idle with empty | none
    · have listed := served.listed isOpen t waits
      rw [empty] at listed
      cases listed
    · exact none
  have subset : o.pool.busy ⊆ p.gated name := by
    intro t' member
    obtain ⟨φ, hφ, isBusy⟩ := Pool.mem_busy.1 member
    obtain ⟨k, s, sent, rfl, ht⟩ := links.owned name o t' φ found hφ
      (φ.isOver_of_isBusy isBusy)
    rcases links.goes_on sent ht with ⟨m, p', smooth, -, step⟩ | ⟨phase, -⟩
      | ⟨-, o', found', queued, -⟩
    · exact absurd step (still m p' smooth)
    · exact mem_gated.2 ⟨k, s, sent, rfl, phase⟩
    · rw [found] at found'
      cases found'
      rw [hφ] at queued
      cases queued
      cases isBusy
  have length := (List.subperm_of_subset o.pool.nodup_busy subset).length_le
  have sum := (links.accounts found).permits_busy
  refine ⟨by omega, ?_⟩
  intro ready
  rw [List.length_eq_zero_iff, List.eq_nil_iff_forall_not_mem]
  intro t' member
  obtain ⟨k, s, sent, rfl, phase⟩ := mem_gated.1 member
  rcases links.goes_on sent (t := t') (by rw [phase]; rfl) with ⟨m, p', smooth, -, step⟩
    | ⟨-, unready⟩ | ⟨taking, -⟩
  · exact absurd step (still m p' smooth)
  · rw [ready] at unready
    cases unready
  · rw [phase] at taking
    cases taking

/-- A message for a queue is sent without the signal, or comes to wait behind
a full gate. -/
theorem ends_or_full {posting : Posting} {settings : Settings.Producer} (links : Links p)
    (afloat : Afloat p k posting settings) (free : posting.target.isGated = false) :
    ∃ p', Leads PublisherMove.IsSmooth p p' ∧ (p'.result? k = some (.ok ())
      ∨ settings.maxPoolLength.toNat ≤ (p'.gated posting.instanceName).length
        ∧ (p'.ready = true → (p'.gated posting.instanceName).length = 0)) := by
  obtain ⟨p', leads, still⟩ := leads_to_still links
  have links' := leads.links links
  have afloat : Afloat p' k posting settings :=
    leads.keeps (I := fun q => Afloat q k posting settings) links afloat
      fun _ _ _ links afloat smooth step => afloat.step links smooth step
  obtain ⟨⟨s, sent, rfl, unfailed⟩, o, found, rfl, isOpen⟩ := afloat
  refine ⟨p', leads, ?_⟩
  cases ht : s.phase.taker? with
  | some t =>
      rcases links'.goes_on sent ht with ⟨m, q, smooth, -, step⟩ | ⟨phase, -⟩
        | ⟨phase, o', found', queued, -⟩
      · exact absurd step (still m q smooth)
      · obtain ⟨φ, -, fits⟩ := links'.fits_of sent ht found
        rw [phase] at fits
        rw [fits.2] at free
        cases free
      · rw [found] at found'
        cases found'
        exact .inr (full_gate_of_still links' still found isOpen queued)
  | none =>
      cases phase : s.phase with
      | finished result =>
          cases result with
          | ok => exact .inl (result?_eq_some.2 ⟨s, sent, phase⟩)
          | error f => exact absurd phase (unfailed f)
      | _ => simp [phase, SendPhase.taker?] at ht

/-- Once the signal has fired, every message for a queue can be sent. -/
theorem ends_when_ready {posting : Posting} {settings : Settings.Producer} (links : Links p)
    (ready : p.ready = true) (afloat : Afloat p k posting settings)
    (free : posting.target.isGated = false) :
    ∃ p', Leads PublisherMove.IsSmooth p p' ∧ p'.result? k = some (.ok ()) := by
  obtain ⟨p', leads, ended | ⟨full, empty⟩⟩ := ends_or_full links afloat free
  · exact ⟨p', leads, ended⟩
  · have ready' : p'.ready = true := by
      refine leads.keeps (I := fun q => q.ready = true) links ready ?_
      intro q q' m links ready smooth step
      refine (ready_step links ?_ step).trans ready
      rintro rfl
      exact smooth
    obtain ⟨o, found, rfl, -⟩ := afloat.isOpen
    have positive := Pool.capacity_pos (links.pools _ o found)
    have none := empty ready'
    omega

/-- How many messages for exchanges of an instance have not ended. -/
def pending (p : Publisher) (name : String) : Nat :=
  p.sends.countP fun s =>
    s.posting.instanceName == name && s.posting.target.isGated && s.phase.taker?.isSome

theorem pending_turn (turn : Turn p p' k m) : p'.pending name ≤ p.pending name := by
  obtain ⟨s, o, pool, next, moved, turn⟩ := turn
  obtain ⟨t, ht⟩ := turn.taker?
  obtain ⟨inside, rfl⟩ := List.getElem?_eq_some_iff.1 moved.sent
  have counted := List.boole_getElem_le_countP (p := fun s : Send =>
    s.posting.instanceName == name && s.posting.target.isGated && s.phase.taker?.isSome) inside
  unfold pending
  rw [moved.sends, List.countP_set inside]
  -- the message that moved counted before, so it counts at most as much now
  simp only [ht, Option.isSome_some, Bool.and_true] at counted ⊢
  cases counts : p.sends[k].posting.instanceName == name && p.sends[k].posting.target.isGated with
  | false => simp
  | true =>
      rw [counts, if_pos rfl] at counted
      rw [if_pos rfl]
      split <;> omega

/-- A message at the gate is one for an exchange that is under way. -/
theorem Links.gated_le_pending (links : Links p) : (p.gated name).length ≤ p.pending name := by
  unfold gated pending
  rw [List.length_filterMap_eq_countP]
  apply List.countP_mono_left
  intro s member isGated
  obtain ⟨k, sent⟩ := List.mem_iff_getElem?.1 member
  obtain ⟨t, ht⟩ := Option.isSome_iff_exists.1 isGated
  obtain ⟨rfl, phase⟩ := gateTaker?_eq_some.1 ht
  obtain ⟨o, φ, -, -, fits⟩ := links.fits k s t sent (by rw [phase]; rfl)
  rw [phase] at fits
  simp [fits.2, phase, SendPhase.taker?]

/-- Where the messages at the gate hold every channel, one that still takes its
channel is starved. -/
theorem starved_of_full {t : Nat} (sent : p.sends[k]? = some s) (phase : s.phase = .taking t)
    (found : p.outlet? s.posting.instanceName = some o) (unready : p.ready = false)
    (full : o.settings.maxPoolLength.toNat ≤ (p.gated s.posting.instanceName).length) :
    Starved p k s.posting o.settings :=
  ⟨unready, ⟨o, found, rfl⟩, full, s, sent, rfl, .inl ⟨t, phase⟩⟩

/-- A starved message has not ended, or was turned away. -/
theorem Starved.result? {posting : Posting} {settings : Settings.Producer}
    (starved : Starved p k posting settings) : p.result? k = none
      ∨ p.result? k = some (.error .alreadyDisposed) ∧ Closed p posting.instanceName := by
  obtain ⟨s, sent, -, ⟨t, phase⟩ | ⟨ended, closed⟩⟩ := starved.waits
  · left
    cases result : p.result? k with
    | none => rfl
    | some result =>
        obtain ⟨s', sent', ended⟩ := result?_eq_some.1 result
        rw [sent] at sent'
        cases sent'
        rw [phase] at ended
        cases ended
  · exact .inr ⟨result?_eq_some.2 ⟨s, sent, ended⟩, closed⟩

theorem leads_fire (leads : Leads PublisherMove.IsSmooth { p with ready := true } p') :
    Leads (fun m => m = .fire ∨ m.IsSmooth) p p' :=
  .head ⟨.fire, .inl rfl, rfl⟩ (leads.mono fun _ => .inr)

/-- A message for a queue, while the signal has not fired. It does not wait
at the gate. But if the messages that do hold every channel of the instance,
it is not sent before the signal has fired. If there are fewer messages for
exchanges than channels, it can be sent at once; and with the signal it
always can. -/
theorem queue_message_before_signal {instances : List Instance} {t : Nat}
    (reachable : Reachable instances p) (sent : p.sends[k]? = some s)
    (free : s.posting.target.isGated = false) (running : s.phase.taker? = some t)
    (found : p.outlet? s.posting.instanceName = some o) (isOpen : o.pool.isOpen = true)
    (unready : p.ready = false) :
    s.phase ≠ .gated t
      ∧ (o.settings.maxPoolLength.toNat ≤ (p.gated s.posting.instanceName).length →
        s.phase = .taking t → ∀ p', Leads (· ≠ .fire) p p' → p'.result? k = none
          ∨ p'.result? k = some (.error .alreadyDisposed) ∧ Closed p' s.posting.instanceName)
      ∧ (p.pending s.posting.instanceName < o.settings.maxPoolLength.toNat →
        ∃ p', Leads PublisherMove.IsSmooth p p' ∧ p'.result? k = some (.ok ()))
      ∧ ∃ p', Leads (fun m => m = .fire ∨ m.IsSmooth) p p' ∧ p'.result? k = some (.ok ()) := by
  have links := links_of_reachable reachable
  have afloat : Afloat p k s.posting o.settings := by
    refine ⟨⟨s, sent, rfl, ?_⟩, o, found, rfl, isOpen⟩
    intro f ended
    rw [ended] at running
    cases running
  refine ⟨?_, ?_, ?_, ?_⟩
  · intro phase
    obtain ⟨φ, -, fits⟩ := links.fits_of sent running found
    rw [phase] at fits
    rw [fits.2] at free
    cases free
  · intro full phase p' leads
    have starved := starved_of_full sent phase found unready full
    exact (starved.leads links free leads).result?
  · intro fewer
    obtain ⟨p', leads, ended | ⟨full, -⟩⟩ := ends_or_full links afloat free
    · exact ⟨p', leads, ended⟩
    · have most : p'.pending s.posting.instanceName ≤ p.pending s.posting.instanceName := by
        refine leads.keeps (I := fun q => q.pending s.posting.instanceName
          ≤ p.pending s.posting.instanceName) links (Nat.le_refl _) ?_
        intro q q' m links less smooth step
        obtain ⟨j, turn⟩ := turn_of_smooth links smooth step
        exact Nat.le_trans (pending_turn turn) less
      have atGate : (p'.gated s.posting.instanceName).length ≤ p'.pending s.posting.instanceName :=
        (leads.links links).gated_le_pending
      omega
  · obtain ⟨⟨s', sent', mine, unfailed⟩, opened⟩ := afloat
    obtain ⟨p', leads, ended⟩ := ends_when_ready (p := { p with ready := true }) links.fire rfl
      ⟨⟨s', sent', mine, unfailed⟩, opened⟩ free
    exact ⟨p', leads_fire leads, ended⟩

/-- A message for a queue of the mailroom. -/
def memo : Posting where
  instanceName := "mailroom"
  target := .queue "desk"
  messageType := "Memo"
  body := .ok []

/-- A memo is sent and asks for a channel. -/
def asking : List PublisherMove := [.post memo, .advance 0]

/-- A memo that has its permit. -/
def afterAsking : Publisher where
  outlets := [("mailroom", ⟨{ maxPoolLength := 1 },
    { capacity := 1, permits := 0, takers := [.permitted] }⟩)]
  sends := [⟨memo, .taking 0⟩]

theorem queue_message_alone : Reachable [mailroom] afterAsking
    ∧ ∃ p', Leads PublisherMove.IsSmooth afterAsking p' ∧ p'.result? 0 = some (.ok ()) :=
  have reachable : Reachable [mailroom] afterAsking :=
    ((Run.start (p := idle) rfl).append asking rfl).reachable
  ⟨reachable, (queue_message_before_signal reachable (k := 0) (s := ⟨memo, .taking 0⟩) rfl rfl rfl
    (o := ⟨{ maxPoolLength := 1 }, { capacity := 1, permits := 0, takers := [.permitted] }⟩) rfl
    rfl rfl).2.2.1 (by decide)⟩

/-- A letter takes the only channel to the gate, and a memo comes after it. -/
def blocking : List PublisherMove := [
  .post letter, .advance 0, .advance 0, .made 0, .advance 0, .post memo, .advance 1]

/-- The mailroom with its channel at the gate. -/
def blocked : Outlet where
  settings := { maxPoolLength := 1 }
  pool := {
    capacity := 1, permits := 0, queue := [1], created := [0], makings := 1,
    takers := [.holding 0, .queued] }

/-- The memo waits for what the letter has. -/
def afterBlocking : Publisher where
  outlets := [("mailroom", blocked)]
  sends := [⟨letter, .gated 0⟩, ⟨memo, .taking 1⟩]

/-- A memo that nothing but the signal lets through: it is sent in no run
without it, and in some run with it. -/
theorem memo_needs_signal :
    Reachable [mailroom] afterBlocking ∧ afterBlocking.ready = false
      ∧ afterBlocking.sends[1]? = some ⟨memo, .taking 1⟩
      ∧ (∀ p', Leads (· ≠ .fire) afterBlocking p' → p'.result? 1 ≠ some (.ok ()))
      ∧ ∃ p', Leads (fun m => m = .fire ∨ m.IsSmooth) afterBlocking p'
        ∧ p'.result? 1 = some (.ok ()) := by
  have reachable : Reachable [mailroom] afterBlocking :=
    ((Run.start (p := idle) rfl).append blocking rfl).reachable
  have links := links_of_reachable reachable
  refine ⟨reachable, rfl, rfl, ?_, ?_⟩
  · intro p' leads ended
    have starved : Starved afterBlocking 1 memo blocked.settings :=
      starved_of_full (s := ⟨memo, .taking 1⟩) (t := 1) rfl rfl (o := blocked) rfl rfl (by decide)
    rcases (starved.leads links rfl leads).result? with running | ⟨refused, -⟩
    · rw [ended] at running
      cases running
    · rw [ended] at refused
      cases refused
  · have afloat : Afloat { afterBlocking with ready := true } 1 memo blocked.settings :=
      ⟨⟨⟨memo, .taking 1⟩, rfl, rfl, nofun⟩, blocked, rfl, rfl, rfl⟩
    obtain ⟨p', leads, ended⟩ := ends_when_ready links.fire rfl afloat rfl
    exact ⟨p', leads_fire leads, ended⟩

end Publisher

end Courier
