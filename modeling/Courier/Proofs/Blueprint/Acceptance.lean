/-
When the description of a relay is accepted, what is reported otherwise, and what
comes of it.

Every check screens its own requirements, from the settings up to the whole
relay, in the order in which it looks at them (`screens_build`). What the
requirements say together is told once more without their order (`IsValid`): a
relay is built exactly if that holds. It is built as it was described, so that
nothing is lost on the way (`Instance.draft` gives the description back), and as
no two instances have one name, looking for a name finds the one that has it.
-/
import Mathlib.Data.List.Nodup
import Courier.Proofs.Blueprint.Requirements

namespace Courier

-- ===================================================== statement vocabulary

/-- A consumer role as it was described. -/
def ConsumerRole.draft (c : ConsumerRole) : ConsumerDraft := ⟨c.settings, c.subscriptions.map .ok⟩

/-- An instance as it was described. -/
def Instance.draft (i : Instance) : InstanceDraft where
  name := i.name
  connection := i.connection
  consumer := i.consumer.map ConsumerRole.draft
  producer := i.producer
  init := i.init

/-- A connection that can be tried. -/
structure Settings.Connection.IsValid (c : Settings.Connection) : Prop where
  host : Text.isBlank c.host = false
  virtualHost : Text.isBlank c.virtualHost = false
  user : Text.isBlank c.user = false
  password : Text.isBlank c.password = false
  port : c.port ≠ 0
  retryTimeout : 0 < c.retryTimeout.nanoseconds

/-- A consumer with a group and a ceiling, and with subscriptions that are some
and stay within it. -/
structure ConsumerDraft.IsValid (d : ConsumerDraft) : Prop where
  group : Text.isBlank d.settings.group = false
  ceiling : 1 ≤ d.settings.maxParallelism
  subscriptions : ∀ s ∈ d.subscriptions,
    ∃ sub, s = .ok sub ∧ sub.maxParallelism ≤ d.settings.maxParallelism

/-- A producer that can use a channel and can try again. -/
structure Settings.Producer.IsValid (p : Settings.Producer) : Prop where
  poolLength : 1 ≤ p.maxPoolLength
  attemptDelay : 0 < p.attemptDelay.nanoseconds

/-- Init operations whose objects have names. -/
structure Topology.Init.IsNamed (i : Topology.Init) : Prop where
  exchanges : ∀ e ∈ i.exchanges, e.name ≠ none
  queues : ∀ q ∈ i.queues, q.name ≠ none
  queueBindings : ∀ b ∈ i.queueBindings, b.queue ≠ none ∧ b.exchange ≠ none

/-- An instance with a name, a connection, and at least one role. -/
structure InstanceDraft.IsValid (d : InstanceDraft) : Prop where
  name : Text.isBlank d.name = false
  connection : d.connection.IsValid
  consumer : ∀ c, d.consumer = some c → c.IsValid
  producer : ∀ p, d.producer = some p → p.IsValid
  role : d.consumer.isSome ∨ d.producer.isSome
  init : ∀ i, d.init = some i → i.IsNamed

-- ============================================================ the checks

/-- Something that passes its check and is given back. -/
theorem screens_of_check {α : Type} {good : α → Prop} {check : Except Failure Unit}
    {rs : List Requirement} {a : α} (screens : Screens (fun _ => True) rs check) (is : good a) :
    Screens good rs (check >>= fun _ => pure a) := by
  rw [← List.append_nil rs]
  exact screens.bind fun _ _ => .pure is

/-- Connection settings are accepted with their requirements met, or refused by the
first that is not. -/
theorem Settings.Connection.screens_check (c : Settings.Connection) :
    Screens (fun _ => True) c.requirements c.check := by
  refine (screens_required _ _).bind fun _ _ => (screens_required _ _).bind fun _ _ =>
    (screens_required _ _).bind fun _ _ => (screens_required _ _).bind fun _ _ =>
    (screens_refuseIf _ ?_).bind fun _ _ => screens_refuseIf _ ?_
  · exact beq_eq_false_iff_ne
  · rw [Span.isZero, beq_eq_false_iff_ne, Nat.pos_iff_ne_zero]

/-- So are consumer settings. -/
theorem Settings.Consumer.screens_check (c : Settings.Consumer) :
    Screens (fun _ => True) c.requirements c.check := by
  refine (screens_required _ _).bind fun _ _ => screens_refuseIf _ ?_
  rw [beq_eq_false_iff_ne, UInt16.le_iff_toNat_le, Ne, ← UInt16.toNat_inj]
  exact Nat.pos_iff_ne_zero.symm

/-- So are producer settings. -/
theorem Settings.Producer.screens_check (p : Settings.Producer) :
    Screens (fun _ => True) p.requirements p.check := by
  refine (screens_refuseIf _ ?_).bind fun _ _ => screens_refuseIf _ ?_
  · rw [beq_eq_false_iff_ne, UInt64.le_iff_toNat_le, Ne, ← UInt64.toNat_inj]
    exact Nat.pos_iff_ne_zero.symm
  · rw [Span.isZero, beq_eq_false_iff_ne, Nat.pos_iff_ne_zero]

/-- So are init operations. -/
theorem Topology.Init.screens_check (i : Topology.Init) :
    Screens (fun _ => True) i.requirements i.check := by
  refine (screens_refuseIf _ ?_).bind fun _ _ => (screens_refuseIf _ ?_).bind fun _ _ =>
    screens_refuseIf _ ?_
  all_goals simp

/-- A subscription is added if it was built and fits the limit of its consumer. -/
theorem ConsumerDraft.screens_acceptable (settings : Settings.Consumer)
    (s : Except Failure Subscription) :
    Screens (fun sub => .ok sub = s) [requirement settings s] (acceptable settings s) := by
  cases s with
  | error f => exact .stopped (.here id)
  | ok s => exact screens_of_check (screens_refuseIf _ (by simp)) rfl

/-- A consumer role is built from its settings first, and then its subscriptions in
their order. -/
theorem ConsumerDraft.screens_build (d : ConsumerDraft) :
    Screens (fun role => role.draft = d) d.requirements d.build := by
  refine d.settings.screens_check.bind fun _ _ => ?_
  rw [← List.append_nil (d.subscriptions.map _)]
  refine (Screens.mapM (screens_acceptable d.settings) d.subscriptions).bind fun subs all => ?_
  refine .pure ?_
  show ConsumerDraft.mk d.settings (subs.map .ok) = d
  rw [all]

/-- What is optional is looked at if it is there. -/
theorem screens_buildSome {α β : Type} (source : β → α) {asks : α → List Requirement}
    {build : α → Except Failure β}
    (each : ∀ a, Screens (fun b => source b = a) (asks a) (build a)) (a : Option α) :
    Screens (fun b => b.map source = a) (Requirement.ofSome asks a)
      (InstanceDraft.buildSome build a) := by
  cases a with
  | none => exact .pure rfl
  | some a => exact (each a).map fun b is => congrArg some is

/-- An instance is built from its parts, each with requirements of its own. -/
theorem InstanceDraft.screens_build (d : InstanceDraft) :
    Screens (fun i => i.draft = d) d.requirements d.build := by
  unfold InstanceDraft.requirements
  rw [List.append_assoc, List.append_assoc, List.cons_append, ← List.singleton_append]
  refine (screens_required _ _).bind fun _ _ => d.connection.screens_check.bind fun _ _ => ?_
  have consuming := screens_buildSome _ ConsumerDraft.screens_build d.consumer
  refine consuming.bind fun consumer consumes => ?_
  refine (screens_buildSome id (fun p => screens_of_check p.screens_check rfl)
    d.producer).bind fun producer produces => ?_
  rw [Option.map_id] at produces
  rw [← List.singleton_append]
  refine (screens_refuseIf _ ?_).bind fun _ _ => ?_
  · rw [← consumes, ← produces]
    cases consumer <;> cases producer <;> simp
  · rw [← List.append_nil (Requirement.ofSome _ d.init)]
    refine (screens_buildSome id (fun i => screens_of_check i.screens_check rfl)
      d.init).bind fun init inits => .pure ?_
    show InstanceDraft.mk d.name d.connection (consumer.map ConsumerRole.draft) producer init = d
    obtain rfl : producer = d.producer := produces
    rw [Option.map_id] at inits
    obtain rfl : init = d.init := inits
    rw [consumes]

/-- Instances are added one after another, each with a name that none before it has. -/
theorem Blueprint.screens_buildFrom (drafts : List InstanceDraft) (earlier : List String) :
    Screens (fun is => is.map Instance.draft = drafts) (requirements earlier drafts)
      (buildFrom earlier drafts) := by
  induction drafts generalizing earlier with
  | nil => exact .pure rfl
  | cons d rest ih =>
      refine d.screens_build.bind fun i built => ?_
      have named : i.name = d.name := congrArg InstanceDraft.name built
      rw [named, ← List.append_nil (requirements (d.name :: earlier) rest)]
      show Screens _ ([.that _ _] ++ (requirements (d.name :: earlier) rest ++ [])) _
      refine (screens_refuseIf _ (by simp)).bind fun _ _ => ?_
      refine (ih (d.name :: earlier)).bind fun is all => .pure ?_
      rw [List.map_cons, built, all]

/-- A relay is built as it was described, or the first requirement is reported
that its description does not meet. -/
theorem Blueprint.screens_build (drafts : List InstanceDraft) :
    Screens (fun b => b.instances.map Instance.draft = drafts) (requirements [] drafts)
      (build drafts) :=
  (screens_buildFrom drafts []).map fun _ all => all

-- ======================================================= all requirements

section

variable {rs qs : List Requirement} {r : Requirement}

/-- Requirements in two lists are met if those in each are. -/
theorem met_append : (∀ q ∈ rs ++ qs, q.met) ↔ (∀ q ∈ rs, q.met) ∧ ∀ q ∈ qs, q.met := by
  simp only [List.mem_append, or_imp, forall_and]

theorem met_cons : (∀ q ∈ r :: rs, q.met) ↔ r.met ∧ ∀ q ∈ rs, q.met := by
  simp only [List.mem_cons, forall_eq_or_imp]

/-- What is asked of an optional part is asked only where the part is given. -/
theorem met_ofSome {α : Type} {asks : α → List Requirement} {valid : α → Prop}
    (meant : ∀ a, (∀ q ∈ asks a, q.met) ↔ valid a) (a : Option α) :
    (∀ q ∈ Requirement.ofSome asks a, q.met) ↔ ∀ x, a = some x → valid x := by
  cases a with
  | none => simp [Requirement.ofSome]
  | some a => simp [Requirement.ofSome, meant]

end

/-- The requirements on connection settings say that they are valid, no more and no
less. -/
theorem Settings.Connection.met_requirements (c : Settings.Connection) :
    (∀ q ∈ c.requirements, q.met) ↔ c.IsValid := by
  simp only [Settings.Connection.requirements, met_cons, Requirement.given, Requirement.that]
  constructor
  · rintro ⟨a, b, c, d, e, f, -⟩
    exact ⟨a, b, c, d, e, f⟩
  · rintro ⟨a, b, c, d, e, f⟩
    exact ⟨a, b, c, d, e, f, List.forall_mem_nil _⟩

/-- Those on producer settings do too. -/
theorem Settings.Producer.met_requirements (p : Settings.Producer) :
    (∀ q ∈ p.requirements, q.met) ↔ p.IsValid := by
  simp only [Settings.Producer.requirements, met_cons, Requirement.that]
  constructor
  · rintro ⟨a, b, -⟩
    exact ⟨a, b⟩
  · rintro ⟨a, b⟩
    exact ⟨a, b, List.forall_mem_nil _⟩

/-- Those on init operations say that everything in them is named. -/
theorem Topology.Init.met_requirements (i : Topology.Init) :
    (∀ q ∈ i.requirements, q.met) ↔ i.IsNamed := by
  simp only [Topology.Init.requirements, met_cons, Requirement.that]
  constructor
  · rintro ⟨a, b, c, -⟩
    exact ⟨a, b, c⟩
  · rintro ⟨a, b, c⟩
    exact ⟨a, b, c, List.forall_mem_nil _⟩

/-- The requirement on a subscription says that it was built and fits the limit. -/
theorem ConsumerDraft.met_requirement (settings : Settings.Consumer)
    (s : Except Failure Subscription) : (requirement settings s).met
      ↔ ∃ sub, s = .ok sub ∧ sub.maxParallelism ≤ settings.maxParallelism := by
  cases s with
  | error f => exact ⟨False.elim, fun ⟨_, no, _⟩ => nomatch no⟩
  | ok s => exact ⟨fun fits => ⟨s, rfl, fits⟩, fun ⟨_, same, fits⟩ => by cases same; exact fits⟩

/-- Those on a consumer role say that it is valid as a whole. -/
theorem ConsumerDraft.met_requirements (d : ConsumerDraft) :
    (∀ q ∈ d.requirements, q.met) ↔ d.IsValid := by
  simp only [ConsumerDraft.requirements, Settings.Consumer.requirements, met_append, met_cons,
    Requirement.given, Requirement.that, List.forall_mem_map, met_requirement]
  constructor
  · rintro ⟨⟨a, b, -⟩, c⟩
    exact ⟨a, b, c⟩
  · rintro ⟨a, b, c⟩
    exact ⟨⟨a, b, List.forall_mem_nil _⟩, c⟩

/-- Those on an instance say that all its parts are valid. -/
theorem InstanceDraft.met_requirements (d : InstanceDraft) :
    (∀ q ∈ d.requirements, q.met) ↔ d.IsValid := by
  simp only [InstanceDraft.requirements, met_append, met_cons,
    Settings.Connection.met_requirements, met_ofSome ConsumerDraft.met_requirements,
    met_ofSome Settings.Producer.met_requirements, met_ofSome Topology.Init.met_requirements,
    Requirement.given, Requirement.that]
  constructor
  · rintro ⟨⟨⟨⟨a, b⟩, c⟩, d⟩, e, f⟩
    exact ⟨a, b, c, d, e, f⟩
  · rintro ⟨a, b, c, d, e, f⟩
    exact ⟨⟨⟨⟨a, b⟩, c⟩, d⟩, e, f⟩

/-- Those on instances, with names that are taken already, say that each is valid
and no name is there twice. -/
theorem Blueprint.met_requirements (drafts : List InstanceDraft) (earlier : List String) :
    (∀ q ∈ requirements earlier drafts, q.met)
      ↔ (∀ d ∈ drafts, d.IsValid) ∧ (drafts.map (·.name)).Nodup
        ∧ ∀ d ∈ drafts, d.name ∉ earlier := by
  induction drafts generalizing earlier with
  | nil => simp [requirements]
  | cons d rest ih =>
      have apart : (∀ e ∈ rest, e.name ∉ d.name :: earlier)
          ↔ d.name ∉ rest.map (·.name) ∧ ∀ e ∈ rest, e.name ∉ earlier := by
        simp only [List.mem_cons, not_or, List.mem_map, not_exists, not_and, forall_and]
      unfold requirements
      rw [met_append, met_cons, d.met_requirements, ih, apart, List.forall_mem_cons,
        List.forall_mem_cons, List.map_cons, List.nodup_cons]
      exact ⟨fun ⟨valid, unused, valids, distinct, other, unuseds⟩ =>
          ⟨⟨valid, valids⟩, ⟨other, distinct⟩, unused, unuseds⟩,
        fun ⟨⟨valid, valids⟩, ⟨other, distinct⟩, unused, unuseds⟩ =>
          ⟨valid, unused, valids, distinct, other, unuseds⟩⟩

-- ============================================================ the result

namespace Blueprint

variable {drafts : List InstanceDraft} {b : Blueprint}

/-- What was built was described. -/
theorem valid_of_build (built : build drafts = .ok b) :
    b.instances.map Instance.draft = drafts ∧ (∀ d ∈ drafts, d.IsValid)
      ∧ (drafts.map (·.name)).Nodup := by
  have screens := screens_build drafts
  rw [built] at screens
  cases screens with
  | passed met same =>
      obtain ⟨valid, distinct, -⟩ := (met_requirements drafts []).1 met
      exact ⟨same, valid, distinct⟩

/-- No two instances of a blueprint have one name. -/
theorem names_nodup (built : build drafts = .ok b) : (b.instances.map (·.name)).Nodup := by
  obtain ⟨same, -, distinct⟩ := valid_of_build built
  rw [← same, List.map_map] at distinct
  exact distinct

/-- The instance of a name. -/
theorem eq_of_name {instances : List Instance} {i i' : Instance}
    (names : (instances.map (·.name)).Nodup) (member : i ∈ instances) (member' : i' ∈ instances)
    (same : i'.name = i.name) : i' = i :=
  List.inj_on_of_nodup_map names member' member same

/-- What a lookup finds is there, and has the name. -/
theorem of_find? {name : String} {i : Instance} (found : b.find? name = some i) :
    i ∈ b.instances ∧ i.name = name := by
  unfold find? at found
  have named := List.find?_some found
  exact ⟨List.mem_of_find?_eq_some found, beq_iff_eq.1 named⟩

/-- An instance is found by its name exactly if it is one of the instances: no two
have the same. -/
theorem find?_eq_some_iff (names : (b.instances.map (·.name)).Nodup) {name : String}
    {i : Instance} : b.find? name = some i ↔ i ∈ b.instances ∧ i.name = name := by
  refine ⟨of_find?, ?_⟩
  rintro ⟨member, rfl⟩
  obtain ⟨j, found⟩ : ∃ j, b.find? i.name = some j :=
    Option.isSome_iff_exists.1 (List.find?_isSome.2 ⟨i, member, beq_self_eq_true _⟩)
  obtain ⟨member', same⟩ := of_find? found
  rw [found, eq_of_name names member member' same]

/-- A relay is built exactly if its instances are valid and no two have one name.
Otherwise the first requirement that is not met is reported. What is built is what
was described, in its order, and its instances are found by their names. -/
theorem valid_or_first_unmet (drafts : List InstanceDraft) :
    ((∃ b, build drafts = .ok b) ↔ (∀ d ∈ drafts, d.IsValid) ∧ (drafts.map (·.name)).Nodup)
    ∧ (∀ f, build drafts = .error f ↔ FirstUnmet (requirements [] drafts) f)
    ∧ ∀ b, build drafts = .ok b → b.instances.map Instance.draft = drafts
        ∧ ∀ name i, b.find? name = some i ↔ i ∈ b.instances ∧ i.name = name := by
  have all := met_requirements drafts []
  have screens := screens_build drafts
  refine ⟨?_, ?_, fun b built =>
    ⟨(valid_of_build built).1, fun name i => find?_eq_some_iff (names_nodup built)⟩⟩
  · constructor
    · rintro ⟨b, built⟩
      exact (valid_of_build built).2
    · rintro ⟨valid, distinct⟩
      generalize build drafts = result at screens ⊢
      cases screens with
      | passed => exact ⟨_, rfl⟩
      | stopped first =>
          exact absurd (all.2 ⟨valid, distinct, fun _ _ => List.not_mem_nil⟩) first.not_all
  · intro f
    generalize build drafts = result at screens ⊢
    cases screens with
    | passed met => exact ⟨nofun, fun first => absurd met first.not_all⟩
    | @stopped f' first =>
        constructor
        · intro same
          cases same
          exact first
        · intro first'
          rw [first.unique first']

-- ------------------------------------------------------------ two stalls

/-- A stall that takes cheese in. -/
def cheeseStall : InstanceDraft where
  name := "cheese"
  consumer := some ⟨{ group := "mongers", maxParallelism := 2 },
    [.ok ⟨"wheels", 2, .queue, .scripted ⟨"Wheel", fun _ => .ok .null⟩ []⟩]⟩

/-- A stall that gives bread out. -/
def breadStall : InstanceDraft where
  name := "bread"
  producer := some { maxPoolLength := 1 }

/-- One without a role at a port that is none, under a name that is in use. -/
def emptyStall : InstanceDraft where
  name := "bread"
  connection := { port := 0 }

/-- Both stalls can be had together and are found. Of what is wrong with the third
one, the port comes first. -/
theorem valid_or_first_unmet_of_stalls :
    (∃ b i, build [cheeseStall, breadStall] = .ok b ∧ b.find? "bread" = some i
      ∧ i.draft = breadStall)
    ∧ FirstUnmet (requirements [] [cheeseStall, breadStall, emptyStall])
        (.invalidConfiguration "the port must be correct") := by
  obtain ⟨-, -, kept⟩ := valid_or_first_unmet [cheeseStall, breadStall]
  obtain ⟨-, reported, -⟩ := valid_or_first_unmet [cheeseStall, breadStall, emptyStall]
  obtain ⟨-, found⟩ := kept _ rfl
  have bread := (found "bread" _).2 ⟨List.mem_cons_of_mem _ List.mem_cons_self, rfl⟩
  exact ⟨⟨_, _, rfl, bread, rfl⟩, (reported _).1 rfl⟩

end Blueprint

end Courier
