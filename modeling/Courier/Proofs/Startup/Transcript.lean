/-
What the brokers of a start were asked. What one broker was asked, with its
answers, is the transcript of its instance. Here it is said which transcripts
there are, part by part and each with what it comes to, up to that of a whole
start (`Begins`): a subscription has a listener if all the calls for it were
accepted, and all those for the channel of its instance before.

A transcript has no marks where one part ends and the next one begins. But in
each part it is told by the answers so far whether it goes on, and so where it
ends and what it comes to can be read off the calls (`Legible`). Hence no
transcript comes with two lists of listeners (`Begins.unique`).
-/
import Courier.Proofs.Startup.Isolation

namespace Courier

open Courier.Topology (Operation Plan)

-- ===================================================== statement vocabulary

/-- What a broker was asked, and whether it accepted it, in order. -/
abbrev Calls := List (Request × Bool)

/-- The calls that install operations, and whether all were installed: one after another, up
to the first that is refused. One without a name is not asked for. -/
inductive Installs : List Operation → Calls → Bool → Prop where
  | done : Installs [] [] true
  | accepted {op : Operation} {rest : List Operation} {calls : Calls} {ok : Bool} :
    op.Named → Installs rest calls ok → Installs (op :: rest) ((.perform op, true) :: calls) ok
  | refused {op : Operation} {rest : List Operation} :
    op.Named → Installs (op :: rest) [(.perform op, false)] false
  | unnamed {op : Operation} {rest : List Operation} :
    ¬ op.Named → Installs (op :: rest) [] false

/-- The calls over a connection that was opened, and whether it can be used: its init
operations are installed over a channel, if there are any. -/
inductive Initiates (i : Instance) : Calls → Bool → Prop where
  | plain : i.initOperations = [] → Initiates i [] true
  | closed : i.initOperations ≠ [] → Initiates i [(.openChannel, false)] false
  | opened {calls : Calls} {ok : Bool} : i.initOperations ≠ [] →
    Installs i.initOperations calls ok → Initiates i ((.openChannel, true) :: calls) ok

/-- The calls for a connection, and whether there is one then. After a refusal it is asked
for again, as often as attempts are left. -/
inductive Links (i : Instance) : Nat → Calls → Bool → Prop where
  | given {left : Nat} {calls : Calls} {ok : Bool} :
    Initiates i calls ok → Links i left ((.connect, true) :: calls) ok
  | again {left : Nat} {calls : Calls} {ok : Bool} :
    Links i left calls ok → Links i (left + 1) ((.connect, false) :: calls) ok
  | exhausted : Links i 0 [(.connect, false)] false

/-- The calls for the deliveries of a queue, and whether it is consumed. -/
inductive Consumes (sub : Subscription) (queue : String) : Calls → Bool → Prop where
  | unlimited : Consumes sub queue [(.prefetch sub.maxParallelism, false)] false
  | refused :
    Consumes sub queue [(.prefetch sub.maxParallelism, true), (.consume queue, false)] false
  | given : Consumes sub queue [(.prefetch sub.maxParallelism, true), (.consume queue, true)] true

/-- The calls by which subscriptions are set up, those by which they are consumed, and the
listeners. A subscription has a listener exactly if all its own calls were accepted: those
of its plan, and those for the deliveries of its queue. -/
inductive Serves (settings : Settings.Consumer) :
    List Subscription → Calls → Calls → List (Subscription × String) → Prop where
  | done : Serves settings [] [] [] []
  | undeclared {sub : Subscription} {subs : List Subscription} {own setup consume : Calls}
    {listeners : List (Subscription × String)} :
    Installs (Plan.ofSubscription sub settings).operations own false →
    Serves settings subs setup consume listeners →
    Serves settings (sub :: subs) (own ++ setup) consume listeners
  | unconsumed {sub : Subscription} {subs : List Subscription} {own setup own' consume : Calls}
    {listeners : List (Subscription × String)} :
    Installs (Plan.ofSubscription sub settings).operations own true →
    Consumes sub (Plan.ofSubscription sub settings).queue own' false →
    Serves settings subs setup consume listeners →
    Serves settings (sub :: subs) (own ++ setup) (own' ++ consume) listeners
  | served {sub : Subscription} {subs : List Subscription} {own setup own' consume : Calls}
    {listeners : List (Subscription × String)} :
    Installs (Plan.ofSubscription sub settings).operations own true →
    Consumes sub (Plan.ofSubscription sub settings).queue own' true →
    Serves settings subs setup consume listeners →
    Serves settings (sub :: subs) (own ++ setup) (own' ++ consume)
      ((sub, (Plan.ofSubscription sub settings).queue) :: listeners)

/-- The calls for a channel to consume over, and whether there is one. -/
inductive Reaches (i : Instance) : Calls → Bool → Prop where
  | unlinked {link : Calls} :
    Links i i.connection.maxReconnectCount.toNat link false → Reaches i link false
  | asked {link : Calls} {ok : Bool} :
    Links i i.connection.maxReconnectCount.toNat link true →
    Reaches i (link ++ [(.openChannel, ok)]) ok

/-- The calls of a start for one instance, and its listeners. -/
inductive Begins (i : Instance) : Calls → List (Subscription × String) → Prop where
  | idle : i.consumer = none → Begins i [] []
  | unreached {c : ConsumerRole} {reach : Calls} :
    i.consumer = some c → Reaches i reach false → Begins i reach []
  | begun {c : ConsumerRole} {reach setup consume : Calls}
    {listeners : List (Subscription × String)} :
    i.consumer = some c → Reaches i reach true →
    Serves c.settings c.subscriptions setup consume listeners →
    Begins i (reach ++ (setup ++ consume)) listeners

/-- The calls that set subscriptions up, and what is consumed of them. -/
inductive SetsUp (settings : Settings.Consumer) :
    List Subscription → Calls → List (Subscription × String) → Prop where
  | done : SetsUp settings [] [] []
  | kept {sub : Subscription} {subs : List Subscription} {own setup : Calls}
    {declared : List (Subscription × String)} :
    Installs (Plan.ofSubscription sub settings).operations own true →
    SetsUp settings subs setup declared →
    SetsUp settings (sub :: subs) (own ++ setup)
      ((sub, (Plan.ofSubscription sub settings).queue) :: declared)
  | dropped {sub : Subscription} {subs : List Subscription} {own setup : Calls}
    {declared : List (Subscription × String)} :
    Installs (Plan.ofSubscription sub settings).operations own false →
    SetsUp settings subs setup declared →
    SetsUp settings (sub :: subs) (own ++ setup) declared

-- ======================================================== reading it back

/-- Where such calls end and what they come to is told by the calls, whatever comes after. -/
def Legible {α : Type} (told : Calls → α → Prop) : Prop :=
  ∀ {a b x y : Calls} {u v : α}, told a u → told b v → a ++ x = b ++ y → a = b ∧ u = v

/-- Whether installing goes on is told by the answer to each operation. -/
theorem legible_installs (ops : List Operation) : Legible (Installs ops) := by
  intro a b x y u v first second same
  induction first generalizing b y v with
  | done =>
      cases second
      exact ⟨rfl, rfl⟩
  | @accepted op rest calls ok named _ ih =>
      cases second with
      | accepted _ later =>
          obtain ⟨rfl, rfl⟩ := ih later (List.cons.inj same).2
          exact ⟨rfl, rfl⟩
      | refused => simp at same
      | unnamed none => exact absurd named none
  | refused named =>
      cases second with
      | accepted => simp at same
      | refused => exact ⟨rfl, rfl⟩
      | unnamed none => exact absurd named none
  | unnamed none =>
      cases second with
      | accepted named => exact absurd named none
      | refused named => exact absurd named none
      | unnamed => exact ⟨rfl, rfl⟩

/-- A refused channel ends the init operations before the first of them. -/
theorem legible_initiates (i : Instance) : Legible (Initiates i) := by
  intro a b x y u v first second same
  cases first with
  | plain none =>
      cases second with
      | plain => exact ⟨rfl, rfl⟩
      | closed some => exact absurd none some
      | opened some => exact absurd none some
  | closed some =>
      cases second with
      | plain none => exact absurd none some
      | closed => exact ⟨rfl, rfl⟩
      | opened => simp at same
  | opened some installs =>
      cases second with
      | plain none => exact absurd none some
      | closed => simp at same
      | opened _ installs' =>
          obtain ⟨rfl, rfl⟩ := legible_installs _ installs installs' (List.cons.inj same).2
          exact ⟨rfl, rfl⟩

/-- After a refused connection there is another attempt exactly if one is left. -/
theorem legible_links (i : Instance) (left : Nat) : Legible (Links i left) := by
  intro a b x y u v first second same
  induction first generalizing b y v with
  | given initiates =>
      cases second with
      | given initiates' =>
          obtain ⟨rfl, rfl⟩ := legible_initiates i initiates initiates' (List.cons.inj same).2
          exact ⟨rfl, rfl⟩
      | again => simp at same
      | exhausted => simp at same
  | again _ ih =>
      cases second with
      | given => simp at same
      | again later =>
          obtain ⟨rfl, rfl⟩ := ih later (List.cons.inj same).2
          exact ⟨rfl, rfl⟩
  | exhausted =>
      cases second with
      | given => simp at same
      | exhausted => exact ⟨rfl, rfl⟩

theorem legible_reaches (i : Instance) : Legible (Reaches i) := by
  intro a b x y u v first second same
  cases first with
  | unlinked links =>
      cases second with
      | unlinked links' => exact legible_links i _ links links' same
      | asked links' =>
          rw [List.append_assoc] at same
          cases (legible_links i _ links links' same).2
  | asked links =>
      cases second with
      | unlinked links' =>
          rw [List.append_assoc] at same
          cases (legible_links i _ links links' same).2
      | asked links' =>
          rw [List.append_assoc, List.append_assoc] at same
          obtain ⟨rfl, -⟩ := legible_links i _ links links' same
          cases (List.cons.inj (List.append_cancel_left same)).1
          exact ⟨rfl, rfl⟩

/-- The deliveries are asked for exactly if the limit was accepted. -/
theorem legible_consumes (sub : Subscription) (queue : String) :
    Legible (Consumes sub queue) := by
  intro a b x y u v first second same
  cases first <;> cases second <;> simp_all

/-- Every subscription is set up, whatever came of the ones before; so the parts
follow each other, one for each. -/
theorem legible_setsUp (settings : Settings.Consumer) (subs : List Subscription) :
    Legible (SetsUp settings subs) := by
  intro a b x y u v first second same
  induction first generalizing b y v with
  | done =>
      cases second
      exact ⟨rfl, rfl⟩
  | kept installs _ ih =>
      cases second with
      | kept installs' later =>
          rw [List.append_assoc, List.append_assoc] at same
          obtain ⟨rfl, -⟩ := legible_installs _ installs installs' same
          obtain ⟨rfl, rfl⟩ := ih later (List.append_cancel_left same)
          exact ⟨rfl, rfl⟩
      | dropped installs' =>
          rw [List.append_assoc, List.append_assoc] at same
          cases (legible_installs _ installs installs' same).2
  | dropped installs _ ih =>
      cases second with
      | kept installs' =>
          rw [List.append_assoc, List.append_assoc] at same
          cases (legible_installs _ installs installs' same).2
      | dropped installs' later =>
          rw [List.append_assoc, List.append_assoc] at same
          obtain ⟨rfl, -⟩ := legible_installs _ installs installs' same
          exact ih later (List.append_cancel_left same) |>.imp (congrArg _) id

section serves

variable {settings : Settings.Consumer} {subs : List Subscription} {setup consume : Calls}
  {listeners : List (Subscription × String)}

/-- What is asked for the deliveries does not show in the calls of the plans. -/
theorem Serves.setsUp (serves : Serves settings subs setup consume listeners) :
    ∃ declared, SetsUp settings subs setup declared := by
  induction serves with
  | done => exact ⟨_, .done⟩
  | undeclared installs _ ih =>
      obtain ⟨declared, sets⟩ := ih
      exact ⟨_, .dropped installs sets⟩
  | unconsumed installs _ _ ih =>
      obtain ⟨declared, sets⟩ := ih
      exact ⟨_, .kept installs sets⟩
  | served installs _ _ ih =>
      obtain ⟨declared, sets⟩ := ih
      exact ⟨_, .kept installs sets⟩

/-- The listeners of an instance are told by the calls for it: no calls come with
two lists of them. -/
theorem Serves.unique (first : Serves settings subs setup consume listeners)
    {setup' consume' : Calls} {listeners' : List (Subscription × String)}
    (second : Serves settings subs setup' consume' listeners') (same : setup = setup')
    (same' : consume = consume') : listeners = listeners' := by
  induction first generalizing setup' consume' listeners' with
  | done =>
      cases second
      rfl
  | undeclared installs _ ih =>
      cases second with
      | undeclared installs' later =>
          obtain ⟨rfl, -⟩ := legible_installs _ installs installs' same
          exact ih later (List.append_cancel_left same) same'
      | unconsumed installs' => cases (legible_installs _ installs installs' same).2
      | served installs' => cases (legible_installs _ installs installs' same).2
  | unconsumed installs consumes _ ih =>
      cases second with
      | undeclared installs' => cases (legible_installs _ installs installs' same).2
      | unconsumed installs' consumes' later =>
          obtain ⟨rfl, -⟩ := legible_installs _ installs installs' same
          obtain ⟨rfl, -⟩ := legible_consumes _ _ consumes consumes' same'
          exact ih later (List.append_cancel_left same) (List.append_cancel_left same')
      | served _ consumes' => cases (legible_consumes _ _ consumes consumes' same').2
  | served installs consumes _ ih =>
      cases second with
      | undeclared installs' => cases (legible_installs _ installs installs' same).2
      | unconsumed _ consumes' => cases (legible_consumes _ _ consumes consumes' same').2
      | served installs' consumes' later =>
          obtain ⟨rfl, -⟩ := legible_installs _ installs installs' same
          obtain ⟨rfl, -⟩ := legible_consumes _ _ consumes consumes' same'
          exact congrArg _ (ih later (List.append_cancel_left same)
            (List.append_cancel_left same'))

end serves

/-- A transcript comes with one list of listeners. -/
theorem Begins.unique {i : Instance} {calls calls' : Calls}
    {listeners listeners' : List (Subscription × String)} (first : Begins i calls listeners)
    (second : Begins i calls' listeners') (same : calls = calls') : listeners = listeners' := by
  cases first with
  | idle none =>
      cases second with
      | idle => rfl
      | unreached => rfl
      | begun some =>
          rw [none] at some
          cases some
  | unreached consumer reaches =>
      cases second with
      | idle => rfl
      | unreached => rfl
      | begun _ reaches' =>
          cases (legible_reaches i reaches reaches' ((List.append_nil _).trans same)).2
  | begun consumer reaches serves =>
      cases second with
      | idle none =>
          rw [none] at consumer
          cases consumer
      | unreached _ reaches' =>
          cases (legible_reaches i reaches reaches' (same.trans (List.append_nil _).symm)).2
      | begun consumer' reaches' serves' =>
          cases consumer.symm.trans consumer'
          obtain ⟨rfl, -⟩ := legible_reaches i reaches reaches' same
          have rest := List.append_cancel_left same
          obtain ⟨declared, sets⟩ := serves.setsUp
          obtain ⟨declared', sets'⟩ := serves'.setsUp
          obtain ⟨rfl, -⟩ := legible_setsUp _ _ sets sets' rest
          exact serves.unique serves' rfl (List.append_cancel_left rest)

end Courier
