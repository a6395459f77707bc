/-
What becomes of a relay whose description was accepted. Its instances have
different names, so every one that publishes gets an outlet of its own, with an
empty pool of the length that it asks for.

The length of a pool is checked from below only. There is a greatest number of
permits that can be counted, and with a pool that is longer there is no relay at
all (`reservoir_uncounted`). Nothing else stands in its way, and there is no
failure that its description was not refused for before
(`created_iff_countable`).
-/
import Courier.Proofs.Blueprint.Acceptance
import Courier.Relay

namespace Courier

-- ===================================================== statement vocabulary

/-- The permits of the pool can be counted. -/
def Settings.Producer.IsCountable (p : Settings.Producer) : Prop :=
  p.maxPoolLength.toNat ≤ Pool.greatestCapacity

instance (p : Settings.Producer) : Decidable p.IsCountable :=
  inferInstanceAs (Decidable (_ ≤ _))

/-- An outlet that no message was sent through. -/
def Outlet.unused (p : Settings.Producer) : Outlet where
  settings := p
  pool := { capacity := p.maxPoolLength.toNat, permits := p.maxPoolLength.toNat }

/-- Whether an instance publishes. -/
def Instance.publishes (i : Instance) : Bool := i.producer.isSome

-- =============================================================== the pools

/-- A pool is made with all its permits, if they can be counted. -/
theorem Pool.create_of_counted {capacity : Nat} (some : 1 ≤ capacity)
    (counted : capacity ≤ greatestCapacity) :
    create capacity = Option.some (.ok { capacity := capacity, permits := capacity }) := by
  rw [create, if_neg (Nat.not_lt.2 some), if_neg (Nat.not_lt.2 counted)]

/-- There is no answer at all if they cannot. -/
theorem Pool.create_of_uncounted {capacity : Nat} (uncounted : greatestCapacity < capacity) :
    create capacity = none := by
  have some : ¬ capacity < 1 := by
    unfold greatestCapacity at uncounted
    omega
  rw [create, if_neg some, if_pos uncounted]

-- ============================================================= the outlets

namespace Publisher

/-- An outlet for each instance that publishes. -/
def unusedOutlets : List Instance → List (String × Outlet)
  | [] => []
  | i :: rest =>
    match i.producer with
    | some p => KeyedList.put i.name (.unused p) (unusedOutlets rest)
    | none => unusedOutlets rest

variable {instances : List Instance}

theorem name_of_unusedOutlets {name : String}
    (member : name ∈ (unusedOutlets instances).map Prod.fst) :
    name ∈ instances.map (·.name) := by
  induction instances with
  | nil => cases member
  | cons i rest ih =>
      unfold unusedOutlets at member
      split at member
      next p _ =>
        obtain ⟨entry, held, rfl⟩ := List.mem_map.1 member
        rcases KeyedList.mem_put held with rfl | held
        · exact List.mem_cons_self
        · exact List.mem_cons_of_mem _ (ih (List.mem_map_of_mem held))
      next => exact List.mem_cons_of_mem _ (ih member)

/-- They are as many as the instances that publish, and under their names. -/
theorem keys_unusedOutlets (names : (instances.map (·.name)).Nodup) :
    ((unusedOutlets instances).map Prod.fst).Perm
      ((instances.filter (·.publishes)).map (·.name)) := by
  induction instances with
  | nil => exact .refl _
  | cons i rest ih =>
      obtain ⟨other, names⟩ := List.nodup_cons.1 names
      unfold unusedOutlets
      split
      next p publishes =>
        have so : i.publishes = true := by rw [Instance.publishes, publishes, Option.isSome_some]
        rw [List.filter_cons_of_pos so, List.map_cons]
        refine (KeyedList.keys_put fun used => ?_).trans ((ih names).cons i.name)
        exact other (name_of_unusedOutlets used)
      next silent =>
        have not : ¬ i.publishes = true := by simp [Instance.publishes, silent]
        rw [List.filter_cons_of_neg not]
        exact ih names

/-- Each producing instance has an outlet of its own under its name, and no other
has one. -/
theorem get?_unusedOutlets (names : (instances.map (·.name)).Nodup) (name : String) :
    KeyedList.get? name (unusedOutlets instances)
      = ((instances.find? (·.name == name)).bind (·.producer)).map .unused := by
  induction instances with
  | nil => rfl
  | cons i rest ih =>
      obtain ⟨other, names⟩ := List.nodup_cons.1 names
      have missing : name = i.name → rest.find? (·.name == name) = none := by
        rintro rfl
        refine List.find?_eq_none.2 fun j member same => other ?_
        exact List.mem_map.2 ⟨j, member, beq_iff_eq.1 same⟩
      rw [List.find?_cons]
      unfold unusedOutlets
      by_cases same : name = i.name
      · have found : (i.name == name) = true := beq_iff_eq.2 same.symm
        cases producer : i.producer with
        | some p => simp [KeyedList.get?_put, same, producer]
        | none => simp [ih names, missing same, found, producer]
      · have not : (i.name == name) = false := beq_eq_false_iff_ne.2 (Ne.symm same)
        cases producer : i.producer with
        | some p => simp [KeyedList.get?_put, same, not, ih names]
        | none => simp [not, ih names]

variable (valid : ∀ i ∈ instances, ∀ p, i.producer = some p → p.IsValid)
include valid

/-- With settings that passed their check the outlets can be had, unless a pool cannot
be counted. -/
theorem outletsOf_of_counted
    (counted : ∀ i ∈ instances, ∀ p, i.producer = some p → p.IsCountable) :
    outletsOf instances = some (.ok (unusedOutlets instances)) := by
  induction instances with
  | nil => rfl
  | cons i rest ih =>
      have others := ih (fun j member => valid j (List.mem_cons_of_mem _ member))
        (fun j member => counted j (List.mem_cons_of_mem _ member))
      unfold outletsOf unusedOutlets
      cases producer : i.producer with
      | none => exact others
      | some p =>
          have least := UInt64.le_iff_toNat_le.1 (valid i List.mem_cons_self p producer).poolLength
          have made := Pool.create_of_counted least (counted i List.mem_cons_self p producer)
          simp only [made, others]
          rfl

/-- One instance whose channels cannot be counted is enough for no answer. -/
theorem outletsOf_of_uncounted
    (uncounted : ∃ i ∈ instances, ∃ p, i.producer = some p ∧ ¬ p.IsCountable) :
    outletsOf instances = none := by
  induction instances with
  | nil => simp at uncounted
  | cons i rest ih =>
      have ih := ih fun j member => valid j (List.mem_cons_of_mem _ member)
      unfold outletsOf
      rcases (List.exists_mem_cons_iff _ _ _).1 uncounted with ⟨p, publishes, beyond⟩ | behind
      · simp only [publishes, Pool.create_of_uncounted (Nat.not_le.1 beyond)]
        rfl
      · have others := ih behind
        cases producer : i.producer with
        | none => exact others
        | some p =>
            have passed := valid i List.mem_cons_self p producer
            by_cases counted : p.IsCountable
            · have fits := UInt64.le_iff_toNat_le.1 passed.poolLength
              simp only [Pool.create_of_counted fits counted, others]
              rfl
            · simp only [Pool.create_of_uncounted (Nat.not_le.1 counted)]
              rfl

end Publisher

-- ============================================================== the relay

/-- The settings of a producer in a blueprint passed their check. -/
theorem Blueprint.producer_valid {drafts : List InstanceDraft} {b : Blueprint}
    (built : build drafts = .ok b) {i : Instance} (member : i ∈ b.instances)
    {p : Settings.Producer} (producer : i.producer = some p) : p.IsValid := by
  obtain ⟨same, valid, -⟩ := valid_of_build built
  have described : i.draft ∈ drafts := same ▸ List.mem_map_of_mem member
  exact (valid i.draft described).producer p producer

namespace Relay

/-- From a description that was accepted a relay comes about exactly if the permits of
every pool can be counted, and there is never a failure. It has an outlet for each
instance that publishes, with its settings and a pool of its own. -/
theorem created_iff_countable {drafts : List InstanceDraft} {b : Blueprint}
    (built : Blueprint.build drafts = .ok b) :
    ((∃ i ∈ b.instances, ∃ p, i.producer = some p ∧ ¬ p.IsCountable) → create b = none)
    ∧ ((∀ i ∈ b.instances, ∀ p, i.producer = some p → p.IsCountable) →
      ∃ r, create b = some (.ok r)
        ∧ (r.publisher.outlets.map Prod.fst).Perm
            ((b.instances.filter (·.publishes)).map (·.name))
        ∧ ∀ name, r.publisher.outlet? name
            = ((b.find? name).bind (·.producer)).map .unused) := by
  have valid : ∀ i ∈ b.instances, ∀ p, i.producer = some p → p.IsValid :=
    fun i member p producer => Blueprint.producer_valid built member producer
  have names := Blueprint.names_nodup built
  constructor
  · intro uncounted
    simp only [create, Publisher.create, Publisher.outletsOf_of_uncounted valid uncounted]
    rfl
  · intro counted
    have created : create b = some (.ok { instances := b.instances, publisher := {
      outlets := Publisher.unusedOutlets b.instances, ready := !b.instances.any consumes } }) := by
      simp only [create, Publisher.create, Publisher.outletsOf_of_counted valid counted]
      rfl
    exact ⟨_, created, Publisher.keys_unusedOutlets names, Publisher.get?_unusedOutlets names⟩

-- --------------------------------------------------------------- the wells

/-- An instance that publishes over so many channels. -/
def well (name : String) (channels : UInt64) : InstanceDraft where
  name := name
  producer := some { maxPoolLength := channels }

/-- Two wells have an outlet each, and the ceiling can be reached. -/
theorem created_of_wells : ∃ b r,
    Blueprint.build [well "north" 1, well "south" 0x1fffffffffffffff] = .ok b
    ∧ create b = some (.ok r)
    ∧ (r.publisher.outlets.map Prod.fst).Perm ["north", "south"]
    ∧ r.publisher.outlet? "south" = some (.unused { maxPoolLength := 0x1fffffffffffffff }) := by
  have built : Blueprint.build [well "north" 1, well "south" 0x1fffffffffffffff] = .ok _ := rfl
  have counted := (created_iff_countable built).2
  obtain ⟨r, created, keys, outlet⟩ := counted (by
    intro i member p producer
    rcases List.mem_cons.1 member with rfl | member
    · cases producer
      decide
    · rw [List.mem_singleton.1 member] at producer
      cases producer
      decide)
  exact ⟨_, r, built, created, keys, outlet "south"⟩

/-- One channel more is accepted, and there is no relay. -/
theorem reservoir_uncounted : ∃ b,
    Blueprint.build [well "reservoir" 0x2000000000000000] = .ok b ∧ create b = none :=
  ⟨_, rfl, by decide⟩

end Relay

end Courier
