/-
How much of an instance is processed at once. Its permits are all accounted
for at every moment, so at most as many deliveries are processed as its
settings say; and each of its subscriptions has one reader at most, with its
own limit at the broker, which bounds the handlers of the subscription.

No permit is lost by what a delivery comes to: a task that is under way, its
handler failing or not, its delivery settled or not, comes to its end by its
own moves, and its permit is in the pool then (`permit_back`).
-/
import Courier.Proofs.Relay.Passes

namespace Courier.Relay

variable {b : Blueprint} {r r' : Relay} {name : String} {t t' : Intake}

/-- A task in the intake of a relay goes on as it does by itself. -/
theorem run_work {n k : Nat} (moves : Nat) (found : KeyedList.get? name r.intakes = some t)
    (run : (List.replicate moves (.work n k)).foldlM Intake.step? t = some t') :
    ∃ r', (List.replicate moves (.consume name (.work n k))).foldlM step? r = some r'
      ∧ KeyedList.get? name r'.intakes = some t' := by
  induction moves generalizing r t with
  | zero =>
      cases run
      exact ⟨r, rfl, found⟩
  | succ moves ih =>
      rw [List.replicate_succ, List.foldlM_cons] at run
      obtain ⟨next, moved, run⟩ := Option.bind_eq_some_iff.1 run
      have step : r.step? (.consume name (.work n k)) = some (r.setIntake name next) := by
        simp only [step?, consume, found, Option.bind_eq_bind, Option.bind_some]
        rw [show t.step? (.work n k) = some next from moved]
        rfl
      have set : KeyedList.get? name (r.setIntake name next).intakes = some next := by
        rw [setIntake, KeyedList.get?_put, if_pos rfl]
      obtain ⟨last, run, found⟩ := ih set run
      refine ⟨last, ?_, found⟩
      rw [List.replicate_succ, List.foldlM_cons, step]
      exact run

/-- What an instance processes at once. The permits in the pool, those that
listeners have, and the running tasks add up to the ceiling of the instance,
and every running task brings its permit back. Each subscription has one
reader at most, which began with the limit of the subscription; a broker that
leaves no more deliveries unsettled than that keeps the handlers below it. -/
theorem parallelism_bounded {drafts : List InstanceDraft} (built : Blueprint.build drafts = .ok b)
    (reachable : Reachable b r) (found : KeyedList.get? name r.intakes = some t) :
    ∃ i ∈ b.instances, i.name = name ∧ ∃ c, i.consumer = some c
      ∧ t.permits + t.held + t.running = c.settings.maxParallelism.toNat
      ∧ t.running ≤ c.settings.maxParallelism.toNat
      ∧ (∀ n k q x, t.readers[n]? = some q → q.tasks[k]? = some x → x.isRunning = true →
        ∃ r' t', (List.replicate x.phase.movesLeft (.consume name (.work n k))).foldlM step? r
            = some r'
          ∧ KeyedList.get? name r'.intakes = some t' ∧ t'.permits = t.permits + 1)
      ∧ (t.readers.map (·.subscription)).Sublist c.subscriptions
      ∧ ∀ q ∈ t.readers, q.prefetch = some q.subscription.maxParallelism
        ∧ (q.unsettled ≤ q.subscription.maxParallelism.toNat →
          q.handling ≤ q.subscription.maxParallelism.toNat) := by
  have names := Blueprint.names_nodup built
  have entry := KeyedList.entry_of_get? found
  obtain ⟨-, i, owner, named, c, consumer, serves⟩ :=
    served_of_reachable reachable names name t entry
  obtain ⟨-, once⟩ := apart_of_reachable reachable names name t entry i owner named c consumer []
    (.inl rfl)
  rw [instances_of_reachable reachable] at owner
  have sound := Intake.allSound_of_reachable serves.reachable
  have account := Intake.permits_add_load serves.reachable
  rw [Intake.load_eq] at account
  refine ⟨i, owner, named, c, consumer, by omega, by omega, ?_, ?_, ?_⟩
  · intro n k q x reader task running
    obtain ⟨t', run, back⟩ := Intake.permit_back reader task running
    obtain ⟨r', run, found⟩ := run_work _ found run
    exact ⟨r', t', run, found, back⟩
  · rw [show Job.consuming name [] = [] from rfl, List.append_nil] at once
    exact once
  · intro q member
    refine ⟨(serves.readers q member).2, fun limited => ?_⟩
    exact Nat.le_trans (sound q member).handling_le_unsettled limited

/-- A subscription to a queue. -/
def pours (queue : String) : Subscription where
  name := queue
  maxParallelism := 1
  source := .queue
  handler := .scripted ⟨"Churn", fun _ => .ok .null⟩ [.breakOff none]

/-- An instance that processes one delivery at once, of two queues. -/
def dairy : Instance where
  name := "dairy"
  connection := {}
  consumer := some ⟨{ group := "dairymen", maxParallelism := 1 }, [pours "milk", pours "cream"]⟩
  producer := none
  init := none

/-- How it is described. -/
def dairyDraft : InstanceDraft where
  name := "dairy"
  consumer := some ⟨{ group := "dairymen", maxParallelism := 1 },
    [.ok (pours "milk"), .ok (pours "cream")]⟩

/-- Both queues give a delivery. The first one is at its handler, and the
listener of the other one waits for the permit. -/
def milking : List RelayMove :=
  let brings (n : Nat) : List RelayMove :=
    [.consume "dairy" (.listen n .look), .consume "dairy" (.listen n (.take ⟨1, [], none, true⟩)),
      .consume "dairy" (.listen n .look)]
  [.start, .advanceStart 0, .advanceStart 0] ++ List.replicate 5 (.jobDone 0)
    ++ brings 0 ++ brings 1
    ++ [.consume "dairy" (.assign 0), .consume "dairy" (.listen 0 .grant),
      .consume "dairy" (.listen 0 .spawn), .consume "dairy" (.work 0 0)]

/-- With one delivery at its handler, nobody else has a permit. -/
theorem parallelism_bounded_of_dairy : Blueprint.build [dairyDraft] = .ok ⟨[dairy]⟩
    ∧ ∃ r t, Reachable ⟨[dairy]⟩ r ∧ KeyedList.get? "dairy" r.intakes = some t
      ∧ t.running = 1 ∧ t.readers.length = 2
      ∧ ∃ i ∈ [dairy], i.name = "dairy" ∧ ∃ c, i.consumer = some c
        ∧ t.permits + t.held + t.running = c.settings.maxParallelism.toNat := by
  have built : Blueprint.build [dairyDraft] = .ok ⟨[dairy]⟩ := rfl
  have new : Reachable ⟨[dairy]⟩ _ := .start rfl
  have reachable := new.run milking rfl
  obtain ⟨i, owner, named, c, consumer, account, -⟩ :=
    parallelism_bounded built reachable (show KeyedList.get? "dairy" _ = some _ from rfl)
  exact ⟨built, _, _, reachable, rfl, rfl, rfl, i, owner, named, c, consumer, account⟩

end Courier.Relay
